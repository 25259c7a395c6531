import StylePrune.Proofs.Content.Declarations

/-!
# Constants in class expressions

A name stands for the class tokens of the last declaration that sets it (`lookup_of_last`): one that
is found and has tokens. An expression that mentions the name has its tokens (`mem_identifiers`), so
the class tokens of a literal are among the classes of a scan if its declaration is found and no
later one sets the name.
-/

namespace StylePrune.Content

/-! ## The map of constants -/

theorem lookup_cons_ite (c : String × List String) (constants : Constants) (n : String) :
    List.lookup n (c :: constants) = if n = c.1 then some c.2 else constants.lookup n := by
  rw [List.lookup_cons]
  split
  · rename_i h
    rw [if_pos (eq_of_beq h)]
  · rename_i h
    rw [if_neg (by simpa using h)]

theorem lookup_replaced (name : String) (tokens : List String) (n : String)
    (constants : Constants) :
    (constants.map fun c => if c.1 = name then (name, tokens) else c).lookup n =
      if n = name then (constants.lookup n).map fun _ => tokens else constants.lookup n := by
  induction constants with
  | nil => simp
  | cons c constants ih =>
    rw [List.map_cons, lookup_cons_ite, lookup_cons_ite, ih]
    by_cases hc : c.1 = name <;> by_cases hn : n = name <;> by_cases hnc : n = c.1 <;> simp_all

theorem lookup_setConstant (constants : Constants) (name : String) (tokens : List String)
    (n : String) :
    (setConstant constants name tokens).lookup n =
      if n = name then some tokens else constants.lookup n := by
  have hsome : (constants.any fun c => c.1 = name) = (constants.lookup name).isSome := by
    induction constants with
    | nil => rfl
    | cons c constants ih =>
      rw [List.any_cons, ih, lookup_cons_ite]
      by_cases hc : c.1 = name
      · simp [hc]
      · simp [hc, Ne.symm hc]
  rw [setConstant, hsome]
  split
  · rename_i h
    rw [lookup_replaced]
    split
    · rename_i hn
      obtain ⟨tokens', ht⟩ := Option.isSome_iff_exists.1 h
      rw [hn, ht]
      rfl
    · rfl
  · rename_i h
    rw [List.lookup_append, lookup_cons_ite]
    split
    · rename_i hn
      rw [hn, Option.not_isSome_iff_eq_none.1 h]
      rfl
    · simp
/-- Whether a declaration sets a name: it is of that name and has tokens. -/
def Declaration.Sets (d : Declaration) (name : List Char) : Prop := d.name = name ∧ d.tokens ≠ []

def addDeclaration (constants : Constants) (d : Declaration) : Constants :=
  if d.tokens.isEmpty then constants else setConstant constants (String.ofList d.name) d.tokens

theorem lookup_addDeclaration (constants : Constants) (d : Declaration) (name : List Char) :
    (d.Sets name → (addDeclaration constants d).lookup (String.ofList name) = some d.tokens) ∧
      (¬ d.Sets name → (addDeclaration constants d).lookup (String.ofList name) =
        constants.lookup (String.ofList name)) := by
  rw [addDeclaration]
  by_cases ht : d.tokens = []
  · rw [ht, List.isEmpty_nil, if_pos rfl]
    exact ⟨fun h => absurd ht h.2, fun _ => rfl⟩
  · rw [if_neg (by simpa using ht), lookup_setConstant]
    constructor
    · rintro ⟨rfl, -⟩
      rw [if_pos rfl]
    · intro h
      rw [if_neg fun he => h ⟨(String.ofList_injective he).symm, ht⟩]

theorem lookup_unset {name : List Char} {ds : List Declaration} (h : ∀ d ∈ ds, ¬ d.Sets name)
    (constants : Constants) : (ds.foldl addDeclaration constants).lookup (String.ofList name) =
      constants.lookup (String.ofList name) := by
  induction ds generalizing constants with
  | nil => rfl
  | cons d ds ih =>
    obtain ⟨hd, hds⟩ := List.forall_mem_cons.1 h
    rw [List.foldl_cons, ih hds, (lookup_addDeclaration constants d name).2 hd]

/-- The last declaration that sets a name counts. -/
theorem lookup_collectConstants {content : List Char} {before later : List Declaration}
    {d : Declaration} (h : declarationsFrom 0 none content = before ++ d :: later)
    (ht : d.tokens ≠ []) (hlater : ∀ x ∈ later, ¬ x.Sets d.name) :
    (collectConstants content).lookup (String.ofList d.name) = some d.tokens := by
  have hfold : collectConstants content =
      (declarationsFrom 0 none content).foldl addDeclaration [] := rfl
  rw [hfold, h, List.foldl_append, List.foldl_cons, lookup_unset hlater]
  exact (lookup_addDeclaration _ d d.name).1 ⟨rfl, ht⟩

/-! ## Mentions -/

/-- A name stands in an expression, with no character of a name on either side. -/
def Mentions (expression name : List Char) : Prop :=
  ∃ u v, expression = u ++ name ++ v ∧ (∀ c ∈ u.getLast?, isIdentifierRest c = false) ∧
    ∀ c ∈ v.head?, isIdentifierRest c = false

theorem identifier_eq_some {before : Option Char} {cs : List Char} {found : Find}
    (h : identifier before cs = some found) :
    takeIdentifier cs ≠ [] ∧ found = ⟨takeIdentifier cs, 0, (takeIdentifier cs).length⟩ := by
  unfold identifier at h
  extract_lets name at h
  split at h
  · cases h
  · rename_i hne
    exact ⟨fun he => hne (by simp [name, he]), (Option.some.inj h).symm⟩

theorem mem_identifiers {expression name : List Char} (hname : takeIdentifier name = name)
    (hne : name ≠ []) (h : Mentions expression name) : name ∈ valuesOf identifier expression := by
  obtain ⟨u, v, rfl, hu, hv⟩ := h
  have hfind : identifier u.getLast? (name ++ v) = some ⟨name, 0, name.length⟩ := by
    unfold identifier
    rw [takeIdentifier_append hname hne hv]
    simp [hne]
  refine List.mem_map.2 ⟨(u.length, ⟨name, 0, name.length⟩), ?_, rfl⟩
  obtain ⟨c, more, rfl⟩ := List.exists_cons_of_ne_nil hne
  rw [List.append_assoc, List.cons_append, mem_findAll]
  refine ⟨hfind, fun x hx hlt => Nat.le_of_not_lt fun hover => ?_⟩
  -- A find that runs over the place holds the character before it.
  obtain ⟨w, rest, before, hw, hi, hr⟩ := exists_of_mem_findAllFrom hx
  rw [Nat.zero_add] at hi
  obtain ⟨-, hfound⟩ := identifier_eq_some hr
  rw [hfound] at hover
  simp only at hover
  have hlast : u.getLast? = (takeIdentifier rest)[u.length - 1 - w.length]? := by
    obtain ⟨tail, htail⟩ := takeIdentifier_prefix rest
    have hu : (u ++ c :: (more ++ v))[u.length - 1]? = u[u.length - 1]? :=
      List.getElem?_append_left (by omega)
    have hrest : (takeIdentifier rest ++ tail)[u.length - 1 - w.length]? =
        (takeIdentifier rest)[u.length - 1 - w.length]? := List.getElem?_append_left (by omega)
    rw [List.getLast?_eq_getElem?, ← hu, hw, List.getElem?_append_right (by omega), ← hrest, htail]
  rw [List.getElem?_eq_getElem (by omega)] at hlast
  have hrest := isIdentifierRest_takeIdentifier (List.getElem_mem (l := takeIdentifier rest)
    (n := u.length - 1 - w.length) (by omega))
  rw [hu _ hlast] at hrest
  cases hrest

/-- The expressions of a text that recognisers take for class expressions. -/
def classExpressions (content : List Char) : List (List Char) :=
  expressions.flatMap (fun r => valuesOf r content) ++
    bracedAttributes.flatMap (fun r => (valuesOf r content).filterMap readBraced) ++
    calls.flatMap fun (r, position) =>
      (valuesOf r content).flatMap fun args => chosen position (splitArguments args)

theorem mem_classExpressions {content expression : List Char}
    (h : expression ∈ classExpressions content) (collectDynamic : Bool) :
    ∃ index, yieldExpression (collectConstants content) collectDynamic expression index ∈
      yields collectDynamic content := by
  rw [classExpressions, List.mem_append, List.mem_append] at h
  simp only [yields, List.mem_append]
  rcases h with (h | h) | h
  · obtain ⟨r, hr, h⟩ := List.mem_flatMap.1 h
    obtain ⟨⟨index, found⟩, hf, rfl⟩ := List.mem_map.1 h
    refine ⟨index + found.offset, .inl (.inl (.inr ?_))⟩
    exact List.mem_flatMap.2 ⟨r, hr, List.mem_map.2 ⟨_, hf, rfl⟩⟩
  · obtain ⟨r, hr, h⟩ := List.mem_flatMap.1 h
    obtain ⟨value, hvalue, hbraced⟩ := List.mem_filterMap.1 h
    obtain ⟨⟨index, found⟩, hf, rfl⟩ := List.mem_map.1 hvalue
    refine ⟨index + found.offset, .inl (.inr ?_)⟩
    refine List.mem_flatMap.2 ⟨r, hr, List.mem_filterMap.2 ⟨_, hf, ?_⟩⟩
    simp only [hbraced, Option.map_some]
  · obtain ⟨⟨r, position⟩, hr, h⟩ := List.mem_flatMap.1 h
    obtain ⟨args, hargs, harg⟩ := List.mem_flatMap.1 h
    obtain ⟨⟨index, found⟩, hf, rfl⟩ := List.mem_map.1 hargs
    refine ⟨index + found.offset, .inr ?_⟩
    refine List.mem_flatMap.2 ⟨_, hr, List.mem_flatMap.2 ⟨_, hf, ?_⟩⟩
    exact List.mem_map.2 ⟨_, harg, rfl⟩

/-! ## Constants in class expressions -/

/-- The tokens of a declaration that is found are those of its name if no later one sets it. -/
theorem lookup_of_last {content : List Char} {place : Nat} {d : Declaration}
    (hfound : (place, d) ∈ declarations content)
    (hlast : ∀ x ∈ declarations content, place < x.1 → ¬ x.2.Sets d.name) (ht : d.tokens ≠ []) :
    (collectConstants content).lookup (String.ofList d.name) = some d.tokens := by
  have hsorted : (declarations content).Pairwise fun x y => x.1 < y.1 :=
    List.pairwise_map.2 (pairwise_findAllFrom ..)
  have hfrom : declarationsFrom 0 none content = (declarations content).map (·.2) := by
    rw [declarationsFrom_eq content 0 none 0, declarations, List.map_map]
    rfl
  obtain ⟨before, later, hsplit⟩ := List.append_of_mem hfound
  rw [hsplit] at hfrom hsorted hlast
  rw [List.map_append, List.map_cons] at hfrom
  refine lookup_collectConstants hfrom ht fun x hx => ?_
  obtain ⟨⟨i, x⟩, hmem, rfl⟩ := List.mem_map.1 hx
  have hlt := (List.pairwise_cons.1 (List.pairwise_append.1 hsorted).2.1).1 _ hmem
  exact hlast _ (List.mem_append_right _ (.tail _ hmem)) hlt

/-- The tokens of the constants that an expression mentions are tokens of the expression. -/
theorem mem_expressionTokens_of_mentions {expression name : List Char} {constants : Constants}
    (hname : takeIdentifier name = name) (hne : name ≠ []) (h : Mentions expression name)
    {tokens : List String} (hlookup : constants.lookup (String.ofList name) = some tokens)
    {token : String} (ht : token ∈ tokens) : token ∈ expressionTokens expression constants := by
  rw [expressionTokens, mem_distinct]
  refine List.mem_append_right _ (List.mem_flatMap.2 ⟨name, mem_identifiers hname hne h, ?_⟩)
  rw [hlookup]
  exact ht

/-- Every class token of a literal that a declaration gives a name is among the classes of a scan if
a class expression mentions the name. The literal has no semicolon and no escaped line end, no
earlier declaration that is found runs over its own, and no later one sets the name. -/
theorem constant_tokens (d : LiteralDeclaration) (pre rest : List Char)
    (hpre : atWordStart pre.getLast? = true) (hsemicolon : ';' ∉ d.raw)
    (hunbroken : unbroken d.raw = true)
    (huncovered : Uncovered pre.length (findAll declaration (pre ++ (d.text ++ rest))))
    (hlast : ∀ x ∈ declarations (pre ++ (d.text ++ rest)), pre.length < x.1 → ¬ x.2.Sets d.name) :
    ∀ expression ∈ classExpressions (pre ++ (d.text ++ rest)), Mentions expression d.name →
      ∀ collectDynamic label, ∀ token ∈ tokenizeClassList d.raw,
        token ∈ (scan collectDynamic label (pre ++ (d.text ++ rest))).classes := by
  intro expression hexpression hmentions collectDynamic label token htoken
  have htokens := d.tokens_declared hunbroken rest htoken
  have hlookup := lookup_of_last ((d.mem_declarations hpre hsemicolon).2 huncovered) hlast
    (List.ne_nil_of_mem htokens)
  obtain ⟨index, hyield⟩ := mem_classExpressions hexpression collectDynamic
  rw [mem_scan]
  refine ⟨_, hyield, index, List.mem_map.2 ⟨token, ?_, rfl⟩⟩
  exact mem_expressionTokens_of_mentions d.takeIdentifier_name d.name_ne_nil hmentions hlookup
    htokens

instance (d : Declaration) (name : List Char) : Decidable (d.Sets name) :=
  inferInstanceAs (Decidable (_ ∧ _))

/-- The declaration `const a='x y'`. -/
def plainConstant : LiteralDeclaration where
  word := "const".toList
  gap := [' ']
  name := ['a']
  before := []
  after := []
  quote := '\x27'
  raw := "x y".toList
  word_mem := .head _
  gap_ne_nil := by decide
  gap_blank := by simp; decide
  name_ne_nil := by decide
  takeIdentifier_name := by decide
  before_blank := nofun
  after_blank := nofun
  quote_mark := .inl rfl
  isRaw := by simp [IsRaw]

/-- A declaration between two others, behind a semicolon and a line end. -/
theorem constant_tokens_between :
    "a".toList ∈ classExpressions ("let b=0;\n".toList ++
        (plainConstant.text ++ ";let b=1;el.className=a".toList)) ∧
      Mentions "a".toList plainConstant.name ∧ "y" ∈ tokenizeClassList plainConstant.raw ∧
      "y" ∈ (scan false none ("let b=0;\n".toList ++
        (plainConstant.text ++ ";let b=1;el.className=a".toList))).classes := by
  have hmem : "a".toList ∈ classExpressions ("let b=0;\n".toList ++
      (plainConstant.text ++ ";let b=1;el.className=a".toList)) := by decide +kernel
  have hmentions : Mentions "a".toList plainConstant.name := ⟨[], [], rfl, nofun, nofun⟩
  have htoken : "y" ∈ tokenizeClassList plainConstant.raw := by decide +kernel
  refine ⟨hmem, hmentions, htoken, ?_⟩
  refine constant_tokens plainConstant "let b=0;\n".toList ";let b=1;el.className=a".toList
    (by decide +kernel) (by decide +kernel) (by decide +kernel) ?_ (by decide +kernel) _ hmem
    hmentions false none "y" htoken
  exact uncovered_behind_semicolon "let b=0".toList ['\n'] _ (by simp; decide)

/-- The tokens of a literal are lost if the name is declared again. -/
theorem lost_redeclared :
    "a".toList ∈ classExpressions
        (plainConstant.text ++ ";const a='z';el.className=a".toList) ∧
      Mentions "a".toList plainConstant.name ∧ "y" ∈ tokenizeClassList plainConstant.raw ∧
      "y" ∉ (scan false none
        (plainConstant.text ++ ";const a='z';el.className=a".toList)).classes :=
  ⟨by decide +kernel, ⟨[], [], rfl, nofun, nofun⟩, by decide +kernel, by decide +kernel⟩

end StylePrune.Content
