import StylePrune.Proofs.Content.Calls
import StylePrune.Proofs.Scan.Plain

/-!
# Calls that name an element first

The calls `renderer.addClass` and `renderer.removeClass` name an element and then a class
expression, so only their second argument is meant to count. But their names end in those of helpers
all of whose arguments count, and those are found at the same place. So a text with such a call and
no other place for classes yields what both arguments yield (`renderer_call`): the element adds its
own string literals, keys and constants.
-/

namespace StylePrune.Content

open Arguments

/-! ## The only call of a text -/

/-- A call that is found is read from its opening round bracket to the next closing one. -/
theorem exists_call {y : Recogniser × Option Nat} (hy : y ∈ calls) {text : List Char}
    {x : Nat × Find} (hx : x ∈ findAll y.1 text) :
    ∃ front after, text = front ++ '(' :: (x.2.value ++ ')' :: after) ∧ ')' ∉ x.2.value ∧
      x.1 + x.2.offset = front.length + 1 := by
  obtain ⟨names, wordStart, hcall⟩ : ∃ names wordStart, y.1 = callOf names wordStart := by
    simp only [calls, List.mem_cons, List.not_mem_nil, or_false] at hy
    rcases hy with rfl | rfl | rfl | rfl | rfl | rfl
    case inr.inr.inr.inr.inl => exact ⟨["@class"], false, rfl⟩
    all_goals exact ⟨_, true, rfl⟩
  rw [hcall] at hx
  obtain ⟨u, v, before, hsplit, hplace, hr⟩ := exists_of_mem_findAllFrom hx
  obtain ⟨name, -, gap, args, after, -, hargs, rfl, hfound⟩ := callOf_eq_some hr
  rw [hfound]
  refine ⟨u ++ (name.toList ++ gap), after, ?_, hargs, ?_⟩
  · rw [hsplit, Find.between]
    simp only [List.append_assoc]
  · rw [hplace, Find.between]
    simp only [List.length_append, List.length_cons]
    omega

/-- Every call that is found in the text has its arguments behind the front and a bracket. -/
def OnlyCallBehind (front text : List Char) : Prop :=
  ∀ y ∈ calls, ∀ x ∈ findAll y.1 text, x.1 + x.2.offset = front.length + 1

/-- A round bracket is the only place for a call if no other one opens. -/
theorem onlyCallBehind_of_bracketless {front args : List Char} (hfront : '(' ∉ front)
    (hargs : '(' ∉ args) : OnlyCallBehind front (front ++ '(' :: args) := by
  intro y hy x hx
  obtain ⟨front', after, htext, -, hplace⟩ := exists_call hy hx
  have hfront' : '(' ∉ front' := fun hm => by
    obtain ⟨a, b, rfl, ha⟩ := List.eq_append_cons_of_mem hm
    rw [List.append_assoc, List.cons_append] at htext
    obtain ⟨-, rfl⟩ := append_char_injective hfront ha htext
    exact hargs (by simp)
  obtain ⟨rfl, -⟩ := append_char_injective hfront hfront' htext
  exact hplace

/-- What is read of the only call is its arguments, if they hold no closing round bracket. -/
theorem OnlyCallBehind.value_eq {front args rest : List Char} (hargs : ')' ∉ args)
    (h : OnlyCallBehind front (front ++ '(' :: (args ++ ')' :: rest)))
    {y : Recogniser × Option Nat} (hy : y ∈ calls) {x : Nat × Find}
    (hx : x ∈ findAll y.1 (front ++ '(' :: (args ++ ')' :: rest))) : x.2.value = args := by
  obtain ⟨front', after, htext, hvalue, hplace⟩ := exists_call hy hx
  have hlength : front.length = front'.length := Nat.succ.inj ((h y hy x hx).symm.trans hplace)
  obtain ⟨-, hread⟩ := List.append_inj htext hlength
  exact (append_char_injective hargs hvalue (List.cons.inj hread).2).1.symm

/-! ## Two arguments -/

/-- An argument as it may stand in a call: not blank, without a closing round bracket, with its
quotes and brackets closed and commas only within them. -/
structure IsSingle (text : List Char) : Prop where
  visible : ∃ c ∈ text, isBlank c = false
  bracketless : ')' ∉ text
  passes : pass? .plain {} text = some (.plain, {})

variable {first second : List Char}

theorem splitArguments_pair (hfirst : IsSingle first) (hsecond : IsSingle second) :
    splitArguments (first ++ ',' :: second) = [trimChars first, trimChars second] := by
  rw [splitArguments_comma hfirst.passes, finish_reverse hfirst.visible,
    splitArguments_last hsecond.passes, finish_reverse hsecond.visible]
  rfl

theorem pair_bracketless (hfirst : IsSingle first) (hsecond : IsSingle second) :
    ')' ∉ first ++ ',' :: second := fun hm => by
  rcases List.mem_append.1 hm with hm | hm
  · exact hfirst.bracketless hm
  · rcases List.mem_cons.1 hm with hm | hm
    · exact absurd hm (by decide)
    · exact hsecond.bracketless hm

/-- The text of a call on the renderer, up to its bracket. -/
def rendererFront (pre : List Char) (method : String) : List Char :=
  pre ++ "renderer.".toList ++ method.toList

/-- A text with a call on the renderer. -/
def rendererText (pre : List Char) (method : String) (first second rest : List Char) : List Char :=
  rendererFront pre method ++ '(' :: (first ++ ',' :: second ++ ')' :: rest)

variable {pre rest : List Char} {method : String}

/-- The helpers whose names end those of the calls on the renderer. -/
def classHelpers : List String := ["addClass", "removeClass", "toggleClass", "hasClass"]

/-- A call on the renderer is one of the helpers all of whose arguments count. -/
theorem exists_find_renderer (hmethod : method ∈ ["addClass", "removeClass"]) :
    ∃ x, x ∈ findAll (callOf classHelpers true) (rendererText pre method first second rest) := by
  have hfamily : (classHelpers, true) ∈ helpers := .tail _ (.head _)
  have hname : method ∈ classHelpers := by
    simp only [List.mem_cons, List.not_mem_nil, or_false] at hmethod
    rcases hmethod with rfl | rfl
    · exact .head _
    · exact .tail _ (.head _)
  have hstart : atWordStart (pre ++ "renderer.".toList).getLast? = true := by
    rw [List.getLast?_append_of_ne_nil _ (by decide)]
    decide
  have hnone : ∀ c ∈ ([] : List Char), isBlank c = true := fun _ h => by cases h
  obtain ⟨found, -, hr⟩ := callOf_call hfamily hname hnone (fun _ => hstart)
    (first ++ ',' :: second) rest
  obtain ⟨c, more, htext⟩ := List.exists_cons_of_ne_nil (show method.toList ++
    ([] ++ '(' :: (first ++ ',' :: second ++ ')' :: rest)) ≠ [] by simp)
  have hwhole : rendererText pre method first second rest =
      (pre ++ "renderer.".toList) ++ c :: more := by
    rw [← htext, rendererText, rendererFront, List.append_assoc, List.nil_append]
  rw [htext] at hr
  rw [hwhole]
  cases hfinds : findAll (callOf classHelpers true) ((pre ++ "renderer.".toList) ++ c :: more) with
  | cons x finds => exact ⟨x, .head _⟩
  | nil =>
    -- Without any find there is none that runs over the call.
    have hfree : Uncovered (pre ++ "renderer.".toList).length
        (findAll (callOf classHelpers true) ((pre ++ "renderer.".toList) ++ c :: more)) := by
      rw [hfinds]
      exact fun _ hx => by cases hx
    have hmem := mem_findAll.2 ⟨hr, hfree⟩
    rw [hfinds] at hmem
    cases hmem

/-- If a call on the renderer is the only place for classes, both arguments are yielded. -/
theorem mem_yields_renderer (hmethod : method ∈ ["addClass", "removeClass"])
    (hfirst : IsSingle first) (hsecond : IsSingle second)
    (hothers : ∀ r ∈ classLists ++ classNames ++ expressions ++ bracedAttributes,
      findAll r (rendererText pre method first second rest) = [])
    (honly : OnlyCallBehind (rendererFront pre method) (rendererText pre method first second rest))
    {collectDynamic : Bool} {y : Yield} :
    y ∈ yields collectDynamic (rendererText pre method first second rest) ↔
      ∃ arg ∈ [trimChars first, trimChars second], y =
        yieldExpression (collectConstants (rendererText pre method first second rest))
          collectDynamic arg ((rendererFront pre method).length + 1) := by
  have hvalue : ∀ {r : Recogniser × Option Nat}, r ∈ calls → ∀ {x : Nat × Find},
      x ∈ findAll r.1 (rendererText pre method first second rest) →
        splitArguments x.2.value = [trimChars first, trimChars second] := fun hr _ hx => by
    rw [honly.value_eq (pair_bracketless hfirst hsecond) hr hx, splitArguments_pair hfirst hsecond]
  constructor
  · intro hy
    have hnone : ∀ {rs : List Recogniser} {r : Recogniser} {x : Nat × Find},
        rs ⊆ classLists ++ classNames ++ expressions ++ bracedAttributes → r ∈ rs →
          x ∉ findAll r (rendererText pre method first second rest) := fun hrs hr hx => by
      rw [hothers _ (hrs hr)] at hx
      cases hx
    simp only [yields, List.mem_append, listYields, nameYields, expressionYields, bracedYields,
      callYields, List.mem_flatMap, List.mem_map, List.mem_filterMap] at hy
    rcases hy with (((⟨r, hr, x, hx, -⟩ | ⟨r, hr, x, hx, -⟩) | ⟨r, hr, x, hx, -⟩) |
      ⟨r, hr, x, hx, -⟩) | ⟨r, hr, x, hx, arg, harg, rfl⟩
    · exact (hnone (fun _ h => by simp [h]) hr hx).elim
    · exact (hnone (fun _ h => by simp [h]) hr hx).elim
    · exact (hnone (fun _ h => by simp [h]) hr hx).elim
    · exact (hnone (fun _ h => by simp [h]) hr hx).elim
    · rw [hvalue hr hx] at harg
      refine ⟨arg, ?_, by rw [honly r hr x hx]⟩
      cases hposition : r.2 with
      | none => rwa [hposition] at harg
      | some i =>
        rw [hposition] at harg
        exact List.mem_of_mem_drop (List.mem_of_mem_take harg)
  · rintro ⟨arg, harg, rfl⟩
    have hr : (callOf classHelpers true, none) ∈ calls := mem_calls (.tail _ (.head _))
    obtain ⟨x, hx⟩ : ∃ x, x ∈ findAll (callOf classHelpers true)
        (rendererText pre method first second rest) := exists_find_renderer hmethod
    rw [← honly _ hr x hx]
    refine List.mem_append_right _ (List.mem_flatMap.2 ⟨_, hr, List.mem_flatMap.2
      ⟨x, hx, List.mem_map.2 ⟨arg, ?_, rfl⟩⟩⟩)
    rwa [chosen, hvalue hr hx]

/-- In a text in which no other round bracket opens, a call on the renderer is the only call. If it
is that, and nothing but calls yields classes, the text has the tokens and patterns of both
arguments; so it has those of the second argument alone exactly if it adds those of the first
already. -/
theorem renderer_call (hmethod : method ∈ ["addClass", "removeClass"]) (hfirst : IsSingle first)
    (hsecond : IsSingle second)
    (hothers : ∀ r ∈ classLists ++ classNames ++ expressions ++ bracedAttributes,
      findAll r (rendererText pre method first second rest) = []) :
    let text := rendererText pre method first second rest
    ('(' ∉ pre ++ first ++ second ++ rest → OnlyCallBehind (rendererFront pre method) text) ∧
    (OnlyCallBehind (rendererFront pre method) text → ∀ collectDynamic label,
      let found := scan collectDynamic label text
      let tokens := fun arg => expressionTokens (trimChars arg) (collectConstants text)
      let patterns := fun arg =>
        if collectDynamic then deriveDynamicPatterns (trimChars arg) else []
      (∀ name, name ∈ found.classes ↔ name ∈ tokens first ∨ name ∈ tokens second) ∧
      (∀ p, p ∈ found.dynamicPatterns ↔ p ∈ patterns first ∨ p ∈ patterns second) ∧
      ((∀ name, name ∈ found.classes ↔ name ∈ tokens second) ∧
          (∀ p, p ∈ found.dynamicPatterns ↔ p ∈ patterns second) ↔
        tokens first ⊆ tokens second ∧ patterns first ⊆ patterns second)) := by
  intro text
  refine ⟨fun hbracket => ?only, fun honly collectDynamic label => ?_⟩
  case only =>
    simp only [List.mem_append, not_or] at hbracket
    obtain ⟨⟨⟨hpre, hfront⟩, hsecond⟩, hrest⟩ := hbracket
    refine onlyCallBehind_of_bracketless ?_ ?_
    · have hname : '(' ∉ "renderer.".toList ++ method.toList := by
        simp only [List.mem_cons, List.not_mem_nil, or_false] at hmethod
        rcases hmethod with rfl | rfl <;> decide
      rw [rendererFront, List.append_assoc, List.mem_append, not_or]
      exact ⟨hpre, hname⟩
    · simp [hfront, hsecond, hrest]
  intro found tokens patterns
  have hyields : ∀ y, y ∈ yields collectDynamic text ↔ _ := fun _ =>
    mem_yields_renderer hmethod hfirst hsecond hothers honly
  have hclasses : ∀ name, name ∈ found.classes ↔ name ∈ tokens first ∨ name ∈ tokens second := by
    intro name
    rw [mem_scan]
    simp [text, hyields, yieldExpression, tokens]
  have hpatterns : ∀ p, p ∈ found.dynamicPatterns ↔ p ∈ patterns first ∨ p ∈ patterns second := by
    intro p
    rw [mem_patterns_scan]
    simp [text, hyields, yieldExpression, patterns]
  refine ⟨hclasses, hpatterns, ?_⟩
  simp only [hclasses, hpatterns, or_iff_right_iff_imp]
  exact Iff.rfl

/-- A call with a member as its element, between other code. -/
def memberCall : List Char :=
  rendererText "this.".toList "addClass" "this.el".toList " on ? 'a-' + size : \x60b\x60".toList
    ";".toList

/-- An element that is named by a member adds nothing. -/
theorem renderer_call_member :
    "addClass" ∈ ["addClass", "removeClass"] ∧ IsSingle "this.el".toList ∧
      IsSingle " on ? 'a-' + size : \x60b\x60".toList ∧
      (∀ r ∈ classLists ++ classNames ++ expressions ++ bracedAttributes,
        findAll r memberCall = []) ∧
      ∀ name, name ∈ (scan true none memberCall).classes ↔ name ∈ ["a-", "b"] := by
  have hmethod : "addClass" ∈ ["addClass", "removeClass"] := .head _
  have hfirst : IsSingle "this.el".toList :=
    ⟨⟨'t', .head _, by decide⟩, by decide +kernel, by decide +kernel⟩
  have hsecond : IsSingle " on ? 'a-' + size : \x60b\x60".toList :=
    ⟨⟨'o', .tail _ (.head _), by decide⟩, by decide +kernel, by decide +kernel⟩
  have hothers : ∀ r ∈ classLists ++ classNames ++ expressions ++ bracedAttributes,
      findAll r memberCall = [] := by decide +kernel
  obtain ⟨honly, hcall⟩ := renderer_call hmethod hfirst hsecond hothers
  obtain ⟨-, -, hexact⟩ := hcall (honly (by decide +kernel)) true none
  have hadded : expressionTokens (trimChars "this.el".toList) (collectConstants memberCall) = [] :=
    by decide +kernel
  have hstarts : deriveDynamicPatterns (trimChars "this.el".toList) = [] := by
    rw [deriveDynamicPatterns, if_neg (by decide +kernel)]
  have htokens : expressionTokens (trimChars " on ? 'a-' + size : \x60b\x60".toList)
      (collectConstants memberCall) = ["a-", "b"] := by decide +kernel
  unfold memberCall at hadded htokens
  simp only [if_true, hstarts, hadded, htokens] at hexact
  have hclasses := (hexact.2 ⟨List.nil_subset _, List.nil_subset _⟩).1
  exact ⟨hmethod, hfirst, hsecond, hothers, hclasses⟩

/-- An element that is named by a string literal adds its class tokens. -/
theorem renderer_element :
    IsSingle "'x'".toList ∧ IsSingle " 'y'".toList ∧
      (∀ r ∈ classLists ++ classNames ++ expressions ++ bracedAttributes,
        findAll r (rendererText [] "addClass" "'x'".toList " 'y'".toList []) = []) ∧
      OnlyCallBehind (rendererFront [] "addClass")
        (rendererText [] "addClass" "'x'".toList " 'y'".toList []) ∧
      (scan false none (rendererText [] "addClass" "'x'".toList " 'y'".toList [])).classes =
        ["x", "y"] ∧
      expressionTokens (trimChars " 'y'".toList) (collectConstants
        (rendererText [] "addClass" "'x'".toList " 'y'".toList [])) = ["y"] := by
  refine ⟨⟨⟨'x', by decide, by decide⟩, by decide +kernel, by decide +kernel⟩,
    ⟨⟨'y', by decide, by decide⟩, by decide +kernel, by decide +kernel⟩, by decide +kernel,
    onlyCallBehind_of_bracketless (by decide +kernel) (by decide +kernel), by decide +kernel,
    by decide +kernel⟩

end StylePrune.Content
