import StylePrune.Proofs.Content.Attribute
import StylePrune.Proofs.Content.Braces
import StylePrune.Proofs.Content.Literals

/-!
# Literals in braced class expressions

The class tokens of an expression in a braced class attribute are among the classes of a scan if
each literal of the expression stands in clear (`Expr.Clear.tokens`, `mem_bracedYields`), and the
literals that stand in clear are those that the flat searches find in their places
(`Expr.found_iff`). A literal that does not may be lost: an apostrophe in a template takes the
quotes of the strings behind it.
-/

namespace StylePrune.Content

/-- Every literal stands in clear. -/
def Expr.Clear (e : Expr) : Prop := ∀ x ∈ e.places [], x.2.Clear e.text x.1

/-- Every literal is found in its place. -/
def Expr.Found (e : Expr) : Prop := ∀ x ∈ e.places [], x.2.Found e.text x.1

theorem Expr.found_iff {e : Expr} (hw : e.WellFormed) : e.Found ↔ e.Clear :=
  forall₂_congr fun x hx =>
    Literal.found_iff (e.split_places [] x hx) (e.wellFormed_places [] hw x hx)

theorem Literal.Clear.flat {text before : List Char} : ∀ {l : Literal}, l.Clear text before → l.Flat
  | .string .., _ => trivial
  | .template _, h => h.1

/-- The class tokens of a literal that is found are tokens of the expression. -/
theorem Literal.Found.mem_expressionTokens {text before part : List Char} {l : Literal}
    {token : String} (h : l.Found text before) (hp : part ∈ l.parts)
    (ht : token ∈ tokenizeClassList part) (constants : Constants) :
    token ∈ expressionTokens text constants := by
  have := h.tokens hp ht
  rw [expressionTokens, mem_distinct, tokensOf, List.flatMap_append]
  exact List.mem_append_left _ (List.mem_append_left _ this)

/-- The tokens of an expression in clear are tokens of its text. -/
theorem Expr.Clear.tokens {e : Expr} (hw : e.WellFormed) (hc : e.Clear) (constants : Constants)
    {part : List Char} (hp : part ∈ e.literals) {token : String}
    (ht : token ∈ tokenizeClassList part) : token ∈ expressionTokens e.text constants := by
  obtain ⟨x, hx, hpart⟩ := List.mem_flatMap.1 hp
  exact ((Expr.found_iff hw).2 hc x hx).mem_expressionTokens hpart ht constants

/-- The names of attributes with a braced expression. -/
def bracedNames : List String := ["className", "classList", "class:list", "class"]

/-- What a braced attribute yields. -/
theorem mem_bracedYields {name : String} (hname : name ∈ bracedNames) {e : Expr}
    (hw : e.WellFormed) (hc : e.Clear) (pre rest : List Char)
    (hpre : atWordStart pre.getLast? = true) (constants : Constants) (collectDynamic : Bool) :
    ∃ index,
      yieldExpression constants collectDynamic e.text index ∈ bracedYields constants collectDynamic
        (pre ++ name.toList ++ '=' :: '\x7b' :: (e.text ++ '\x7d' :: rest)) := by
  obtain ⟨more, hmore, hc'⟩ : ∃ more, name.toList = 'c' :: more ∧ 'c' ∉ more := by
    simp only [bracedNames, List.mem_cons, List.not_mem_nil, or_false] at hname
    rcases hname with rfl | rfl | rfl | rfl <;> exact ⟨_, rfl, by decide⟩
  obtain ⟨found, hv, hf⟩ := mem_bracedAttribute hmore hc' (by decide) pre
    (e.text ++ '\x7d' :: rest) hpre
  have hr : readBraced found.value = some e.text := by
    rw [hv]
    exact Expr.readBraced_text hw (fun x hx => (hc x hx).flat) rest
  refine ⟨pre.length + found.offset, List.mem_flatMap.2 ⟨_, List.mem_map_of_mem hname, ?_⟩⟩
  exact List.mem_filterMap.2 ⟨_, hf, by simp only [hr, Option.map_some]⟩

/-- The literals of a braced class expression that stand in clear are those found in their places,
and if all do, every class token of theirs is among the classes of a scan, whatever stands around
the attribute. -/
theorem braced_literals {e : Expr} (hw : e.WellFormed) :
    (e.Clear ↔ e.Found) ∧
      (e.Clear → ∀ name ∈ bracedNames, ∀ pre rest : List Char, atWordStart pre.getLast? = true →
        ∀ collectDynamic label, ∀ part ∈ e.literals, ∀ token ∈ tokenizeClassList part,
          token ∈ (scan collectDynamic label
            (pre ++ name.toList ++ '=' :: '\x7b' :: (e.text ++ '\x7d' :: rest))).classes) := by
  refine ⟨(Expr.found_iff hw).symm, ?_⟩
  intro hc name hname pre rest hpre collectDynamic label part hp token ht
  rw [mem_scan]
  obtain ⟨index, hy⟩ := mem_bracedYields hname hw hc pre rest hpre _ collectDynamic
  refine ⟨_, List.mem_append_left _ (List.mem_append_right _ hy), index, ?_⟩
  exact List.mem_map_of_mem (f := (·, index)) (hc.tokens hw _ hp ht)

instance (text before : List Char) (l : Literal) : Decidable (l.Found text before) :=
  match l with
  | .string .. => inferInstanceAs (Decidable (_ ∈ _))
  | .template _ => inferInstanceAs (Decidable (_ ∈ _ ∧ _ = _))

instance (e : Expr) : Decidable e.Found :=
  inferInstanceAs (Decidable (∀ x ∈ e.places [], x.2.Found e.text x.1))

/-- The expression of `on ? 'x' : btn-${size} big`, with backticks around its end. -/
def choice : Expr :=
  .code "on ? ".toList <| .string '\x27' ['x'] <| .code " : ".toList <|
    .template (.hole "btn-".toList (.code "size".toList .nil) (.last " big".toList)) .nil

/-- A string and a template with a placeholder. -/
theorem braced_literals_choice :
    choice.WellFormed ∧ choice.Clear ∧ "class" ∈ bracedNames ∧
      atWordStart "<b ".toList.getLast? = true ∧
      choice.literals.flatMap tokenizeClassList = ["x", "btn-", "big"] ∧
      ∀ part ∈ choice.literals, ∀ token ∈ tokenizeClassList part,
        token ∈ (scan false none ("<b ".toList ++ "class".toList ++
          '=' :: '\x7b' :: (choice.text ++ ['\x7d']))).classes := by
  have hw : choice.WellFormed := by
    simp [choice, Expr.WellFormed, Template.WellFormed, IsRaw, IsChunk]
    decide
  have hc : choice.Clear := (braced_literals hw).1.2 (by decide +kernel)
  refine ⟨hw, hc, by decide, by decide, by decide +kernel, ?_⟩
  exact (braced_literals hw).2 hc "class" (by decide) "<b ".toList [] (by decide) false none

/-- A template of the fixed text `it's` and the expression `on ? 'active' : 'idle'`. -/
def apostrophe : Expr :=
  .template (.hole "it's ".toList (.code "on ? ".toList <| .string '\x27' "active".toList <|
    .code " : ".toList <| .string '\x27' "idle".toList .nil) (.last [])) .nil

/-- The strings behind an apostrophe are lost. -/
theorem lost_behind_apostrophe :
    apostrophe.WellFormed ∧ "className" ∈ bracedNames ∧
      "active".toList ∈ apostrophe.literals ∧ "active" ∈ tokenizeClassList "active".toList ∧
      "active" ∉ (scan false none
        ("className".toList ++ '=' :: '\x7b' :: (apostrophe.text ++ ['\x7d']))).classes := by
  have hw : apostrophe.WellFormed := by
    simp [apostrophe, Expr.WellFormed, Template.WellFormed, IsRaw, IsChunk]
    decide
  exact ⟨hw, by decide, by decide +kernel, by decide +kernel, by decide +kernel⟩

end StylePrune.Content
