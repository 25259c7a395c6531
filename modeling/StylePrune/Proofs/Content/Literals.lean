import StylePrune.Content.Expression
import StylePrune.Proofs.Content.Find
import StylePrune.Proofs.Content.Grammar

/-!
# Literals in the flat searches

The searches for string literals, template literals and placeholders do not know how literals nest.
For each of them, when it finds a literal of an expression in its place: a string literal unless a
find before it runs over its quote or its text goes on behind a line end (`mem_strings`), a template
literal if no backtick stands in it and the backticks before it pair up (`mem_templates`), and the
placeholders of a template if no brace ends them early (`placeholders_eq`).
-/

namespace StylePrune.Content

/-- The find of a literal with one character on either side of its value. -/
def Find.enclosed (value : List Char) : Find := ⟨value, 1, value.length + 2⟩

theorem Find.between_enclosed (a b : Char) (value after : List Char) :
    Find.between (a :: (value ++ b :: after)) value (value ++ b :: after) after =
      .enclosed value := by
  simp only [Find.between, Find.enclosed, List.length_cons, List.length_append, Find.mk.injEq,
    true_and]
  omega

/-! ## String literals -/

/-- No line end stands behind a backslash. -/
def unbroken : List Char → Bool
  | [] => true
  | '\\' :: c :: rest => c != '\n' && unbroken rest
  | _ :: rest => unbroken rest

theorem unbroken_cons {c : Char} (h : c ≠ '\\') (rest : List Char) :
    unbroken (c :: rest) = unbroken rest := by
  rw [unbroken]
  rintro d more rfl
  exact absurd rfl h

theorem literalRest_cons {q c : Char} (hc : c ≠ '\\') (rest : List Char) :
    literalRest q (c :: rest) =
      if c = q then some ([], rest) else (literalRest q rest).map fun x => (c :: x.1, x.2) := by
  rw [literalRest]
  all_goals simp_all

/-- The text of a string literal is read to its closing quote, but for an escaped line end. -/
theorem literalRest_raw {q : Char} (hq : q ≠ '\\') (after : List Char) (raw : List Char)
    (h : IsRaw q raw) : literalRest q (raw ++ q :: after) =
      if unbroken raw then some (raw, after) else none := by
  fun_induction IsRaw q raw with
  | case1 =>
    rw [List.nil_append, literalRest_cons hq, if_pos rfl]
    rfl
  | case2 => exact h.elim
  | case3 c rest ih =>
    simp only [List.cons_append, literalRest, unbroken, ih h]
    by_cases hc : c = '\n'
    · simp [hc]
    · simp only [hc, if_false, Bool.and_eq_true, bne_iff_ne, ne_eq, not_false_eq_true, true_and]
      split <;> rfl
  | case4 c rest h1 h2 ih =>
    have hc : c ≠ '\\' := ne_backslash h1 h2
    rw [List.cons_append, literalRest_cons hc, if_neg h.1, ih h.2, unbroken_cons hc]
    split <;> rfl

theorem stringLiteral_raw {q : Char} (hq : q = '\x27' ∨ q = '"') {raw : List Char}
    (h : IsRaw q raw) (before : Option Char) (after : List Char) :
    stringLiteral before (q :: (raw ++ q :: after)) =
      if unbroken raw then some (.enclosed raw) else none := by
  have hm : isQuoteMark q = true := by rcases hq with rfl | rfl <;> decide
  have hb : q ≠ '\\' := by rcases hq with rfl | rfl <;> decide
  rw [stringLiteral, if_pos hm, literalRest_raw hb after raw h]
  split
  · exact congrArg some (Find.between_enclosed ..)
  · rfl

theorem literalRest_eq_some {q : Char} {cs text after : List Char}
    (h : literalRest q cs = some (text, after)) :
    IsRaw q text ∧ unbroken text = true ∧ cs = text ++ q :: after := by
  fun_induction literalRest q cs generalizing text after with
  | case1 => cases h
  | case2 => cases h
  | case3 => cases h
  | case4 c rest hc ih =>
    obtain ⟨⟨text', after'⟩, hrest, he⟩ := Option.map_eq_some_iff.1 h
    obtain ⟨rfl, rfl⟩ := Prod.mk.inj he
    obtain ⟨hraw, hunbroken, rfl⟩ := ih hrest
    refine ⟨hraw, ?_, rfl⟩
    rw [unbroken, hunbroken, Bool.and_true, bne_iff_ne]
    exact hc
  | case5 rest hend hescape =>
    obtain ⟨rfl, rfl⟩ := Prod.mk.inj (Option.some.inj h)
    exact ⟨trivial, rfl, rfl⟩
  | case6 c rest hend hescape hc ih =>
    obtain ⟨⟨text', after'⟩, hrest, he⟩ := Option.map_eq_some_iff.1 h
    obtain ⟨rfl, rfl⟩ := Prod.mk.inj he
    obtain ⟨hraw, hunbroken, rfl⟩ := ih hrest
    have hplain : c ≠ '\\' := ne_backslash hend hescape
    exact ⟨(isRaw_cons hplain text').2 ⟨hc, hraw⟩, by rwa [unbroken_cons hplain], rfl⟩

/-- A find of a string literal is one, with its quotes. -/
theorem stringLiteral_eq_some {before : Option Char} {cs : List Char} {found : Find}
    (h : stringLiteral before cs = some found) :
    ∃ q raw after, (q = '\x27' ∨ q = '"') ∧ IsRaw q raw ∧ unbroken raw = true ∧
      cs = q :: (raw ++ q :: after) ∧ found = .enclosed raw := by
  cases cs with
  | nil => cases h
  | cons q rest =>
    rw [stringLiteral] at h
    split at h
    · rename_i hq
      obtain ⟨⟨raw, after⟩, hrest, rfl⟩ := Option.map_eq_some_iff.1 h
      obtain ⟨hraw, hunbroken, rfl⟩ := literalRest_eq_some hrest
      rw [isQuoteMark, Bool.or_eq_true, decide_eq_true_eq, decide_eq_true_eq] at hq
      exact ⟨q, raw, after, hq.symm, hraw, hunbroken, rfl, Find.between_enclosed ..⟩
    · cases h

theorem local_stringLiteral : Local stringLiteral where
  longer := fun h tail => by
    obtain ⟨q, raw, after, hq, hraw, hunbroken, rfl, rfl⟩ := stringLiteral_eq_some h
    rw [List.cons_append, List.append_assoc, List.cons_append, stringLiteral_raw hq hraw,
      if_pos hunbroken]
  shorter := @fun before cs tail found h hle => by
    obtain ⟨q, raw, after, hq, hraw, hunbroken, hcs, rfl⟩ := stringLiteral_eq_some h
    have hliteral : q :: (raw ++ [q]) <+: cs ++ tail := ⟨after, by simp [hcs]⟩
    have hlength : (q :: (raw ++ [q])).length ≤ cs.length := by
      rw [List.length_cons, List.length_append]
      exact hle
    obtain ⟨more, rfl⟩ := List.prefix_of_prefix_length_le hliteral ⟨tail, rfl⟩ hlength
    rw [List.cons_append, List.append_assoc, List.singleton_append, stringLiteral_raw hq hraw,
      if_pos hunbroken]

/-- When a string literal is found in its place. -/
theorem mem_strings {q : Char} (hq : q = '\x27' ∨ q = '"') {raw : List Char} (h : IsRaw q raw)
    (pre after : List Char) :
    (pre.length, Find.enclosed raw) ∈ findAll stringLiteral (pre ++ q :: (raw ++ q :: after)) ↔
      unbroken raw = true ∧
        Uncovered pre.length (findAll stringLiteral (pre ++ q :: (raw ++ q :: after))) := by
  rw [mem_findAll, stringLiteral_raw hq h]
  cases unbroken raw <;> simp

/-! ## Template literals -/

theorem templateLiteral_inner {inner : List Char} (h : '\x60' ∉ inner) (before : Option Char)
    (after : List Char) :
    templateLiteral before ('\x60' :: (inner ++ '\x60' :: after)) = some (.enclosed inner) := by
  rw [templateLiteral, if_pos rfl, cutAt?_append h]
  exact congrArg some (Find.between_enclosed ..)

theorem templateLiteral_other {c : Char} (h : c ≠ '\x60') (before : Option Char)
    (cs : List Char) : templateLiteral before (c :: cs) = none := by
  rw [templateLiteral, if_neg h]

/-- A find of a template literal holds no backtick. -/
theorem templateLiteral_eq_some {before : Option Char} {cs : List Char} {found : Find}
    (h : templateLiteral before cs = some found) : '\x60' ∉ found.value := by
  cases cs with
  | nil => cases h
  | cons c rest =>
    by_cases hc : c = '\x60'
    · subst hc
      rw [templateLiteral, if_pos rfl] at h
      obtain ⟨⟨text, after⟩, hx, rfl⟩ := Option.map_eq_some_iff.1 h
      exact (cutAt?_eq_some hx).2
    · rw [templateLiteral_other hc] at h
      cases h

/-- The characters up to the next backtick, with it. -/
def toBacktick (cs : List Char) : Nat := (cs.takeWhile (· ≠ '\x60')).length + 1

theorem toBacktick_self (cs : List Char) : toBacktick ('\x60' :: cs) = 1 := rfl

theorem toBacktick_other {c : Char} (h : c ≠ '\x60') (cs : List Char) :
    toBacktick (c :: cs) = toBacktick cs + 1 := by
  rw [toBacktick, List.takeWhile_cons_of_pos (by simpa using h)]
  rfl

theorem toBacktick_append {text : List Char} (h : '\x60' ∉ text) (after : List Char) :
    toBacktick (text ++ '\x60' :: after) = text.length + 1 := by
  induction text with
  | nil => rfl
  | cons c text ih =>
    rw [List.mem_cons, not_or] at h
    rw [List.cons_append, toBacktick_other (Ne.symm h.1), ih h.2]
    rfl

/-- A find that starts at a backtick runs to the next one. -/
theorem templateLiteral_length {cs : List Char} (h : '\x60' ∈ cs) (before : Option Char) :
    ∃ found, templateLiteral before ('\x60' :: cs) = some found ∧
      found.length - 1 = toBacktick cs := by
  obtain ⟨inner, after, rfl, hi⟩ := List.eq_append_cons_of_mem h
  exact ⟨_, templateLiteral_inner hi before after, (toBacktick_append hi after).symm⟩

/-- A template literal is found in its place if the backticks before it pair up. While a find runs
on, the next backtick ends it, so it is the other way round there. -/
theorem mem_templatesFrom {inner : List Char} (h : '\x60' ∉ inner) (after : List Char) :
    ∀ (pre : List Char) (before : Option Char) (index : Nat),
      ((index + pre.length, Find.enclosed inner) ∈ findAllFrom templateLiteral 0 before index
          (pre ++ '\x60' :: (inner ++ '\x60' :: after)) ↔ pre.count '\x60' % 2 = 0) ∧
        ((index + pre.length, Find.enclosed inner) ∈ findAllFrom templateLiteral
          (toBacktick (pre ++ '\x60' :: (inner ++ '\x60' :: after))) before index
          (pre ++ '\x60' :: (inner ++ '\x60' :: after)) ↔ pre.count '\x60' % 2 = 1)
  | [], before, index => by
    refine ⟨iff_of_true ?_ rfl, iff_of_false (fun hm => ?_) (by simp)⟩
    · rw [List.nil_append, findAllFrom, templateLiteral_inner h]
      exact .head _
    · have := le_of_mem_findAllFrom hm
      rw [List.nil_append, toBacktick_self] at this
      simp only [List.length_nil] at this
      omega
  | c :: pre, before, index => by
    obtain ⟨ih0, ih1⟩ := mem_templatesFrom h after pre (some c) (index + 1)
    rw [List.cons_append, List.length_cons,
      show index + (pre.length + 1) = index + 1 + pre.length by omega]
    by_cases hc : c = '\x60'
    · subst hc
      rw [List.count_cons_self]
      have hm : '\x60' ∈ pre ++ '\x60' :: (inner ++ '\x60' :: after) := by simp
      obtain ⟨found, hf, hl⟩ := templateLiteral_length hm before
      constructor
      · rw [findAllFrom, hf]
        simp only
        rw [hl, List.mem_cons, ih1]
        simp only [Prod.mk.injEq]
        omega
      · rw [toBacktick_self, findAllFrom, ih0]
        omega
    · rw [List.count_cons_of_ne hc, toBacktick_other hc, findAllFrom, findAllFrom,
        templateLiteral_other hc]
      exact ⟨ih0, ih1⟩

/-- When a template literal is found in its place. -/
theorem mem_templates (inner pre after : List Char) :
    (pre.length, Find.enclosed inner) ∈
        findAll templateLiteral (pre ++ '\x60' :: (inner ++ '\x60' :: after)) ↔
      '\x60' ∉ inner ∧ pre.count '\x60' % 2 = 0 := by
  by_cases h : '\x60' ∈ inner
  · refine iff_of_false (fun hm => ?_) fun hn => hn.1 h
    exact templateLiteral_eq_some (mem_findAll.1 hm).1 h
  · have := (mem_templatesFrom h after pre none 0).1
    rw [Nat.zero_add] at this
    rw [findAll, this]
    exact (and_iff_right h).symm

/-! ## Placeholders -/

/-- The placeholders of a template whose text starts at `index`, as finds. -/
def Template.holes (index : Nat) : Template → List (Nat × Find)
  | .last _ => []
  | .hole chunk inside more =>
    (index + chunk.length, ⟨inside.text, 2, inside.text.length + 3⟩) ::
      more.holes (index + chunk.length + (inside.text.length + 3))

/-- Each placeholder ends at its first brace, and none seems to start in a chunk. -/
def Template.Level : Template → Prop
  | .last chunk => ∀ u v, chunk = u ++ '$' :: '\x7b' :: v → '\x7d' ∉ v
  | .hole chunk inside more =>
    (∀ u v, chunk ≠ u ++ '$' :: '\x7b' :: v) ∧ '\x7d' ∉ inside.text ∧ more.Level

theorem placeholder_inside {inside : List Char} (h : '\x7d' ∉ inside) (before : Option Char)
    (after : List Char) :
    placeholder before ('$' :: '\x7b' :: (inside ++ '\x7d' :: after)) =
      some ⟨inside, 2, inside.length + 3⟩ := by
  rw [placeholder, cutAt?_append h]
  simp only [Option.map_some, Find.between, List.length_cons, List.length_append, Option.some.injEq,
    Find.mk.injEq, true_and]
  omega

theorem placeholder_eq_none {before : Option Char} {cs : List Char} :
    placeholder before cs = none ↔ ∀ v, cs = '$' :: '\x7b' :: v → '\x7d' ∉ v := by
  unfold placeholder
  split
  · rename_i rest
    rw [Option.map_eq_none_iff, cutAt?_eq_none]
    refine ⟨fun h v hv => ?_, fun h => h rest rfl⟩
    obtain rfl := (List.cons.inj (List.cons.inj hv).2).2
    exact h
  · rename_i hn
    exact iff_of_true rfl fun v hv => (hn v hv).elim

theorem placeholder_eq_some {before : Option Char} {cs : List Char} {found : Find}
    (h : placeholder before cs = some found) : '\x7d' ∉ found.value := by
  unfold placeholder at h
  split at h
  · obtain ⟨⟨text, after⟩, hx, rfl⟩ := Option.map_eq_some_iff.1 h
    exact (cutAt?_eq_some hx).2
  · cases h

/-- No placeholder is found in a stretch of text if none that starts there has a brace to end it.
-/
theorem quiet_placeholder {tail : List Char} : ∀ {pre : List Char} {before : Option Char},
    Quiet placeholder before tail pre ↔
      ∀ u v, u.length < pre.length → pre ++ tail = u ++ '$' :: '\x7b' :: v → '\x7d' ∉ v
  | [], _ => by simp [Quiet]
  | c :: pre, before => by
    rw [Quiet, placeholder_eq_none, quiet_placeholder]
    constructor
    · rintro ⟨hhead, hpre⟩ u v hu h
      cases u with
      | nil => exact hhead v h
      | cons d u => exact hpre u v (by simpa using hu) (List.cons.inj h).2
    · intro h
      refine ⟨fun v hv => h [] v (by simp) hv, fun u v hu hv => ?_⟩
      exact h (c :: u) v (by simpa using hu) (by rw [List.cons_append, hv, List.cons_append])

theorem quiet_last {chunk : List Char} {before : Option Char} :
    Quiet placeholder before [] chunk ↔ ∀ u v, chunk = u ++ '$' :: '\x7b' :: v → '\x7d' ∉ v := by
  rw [quiet_placeholder, List.append_nil]
  refine ⟨fun h u v hv => h u v ?_ hv, fun h u v _ hv => h u v hv⟩
  rw [hv, List.length_append]
  simp

/-- Before a placeholder that is ended, none may seem to start. -/
theorem quiet_chunk {chunk tail : List Char} {before : Option Char} (ht : '\x7d' ∈ tail) :
    Quiet placeholder before ('$' :: tail) chunk ↔ ∀ u v, chunk ≠ u ++ '$' :: '\x7b' :: v := by
  rw [quiet_placeholder]
  constructor
  · rintro h u v rfl
    refine h u (v ++ '$' :: tail) (by simp) (by simp) ?_
    exact List.mem_append_right _ (.tail _ ht)
  · intro h u v hu hv
    -- The brace of a start that reaches out of the chunk would be the dollar sign behind it.
    obtain ⟨w, rfl⟩ : ∃ w, chunk = u ++ w :=
      (List.prefix_of_prefix_length_le ⟨'$' :: '\x7b' :: v, hv.symm⟩ ⟨_, rfl⟩ (Nat.le_of_lt hu)).imp
        fun _ => Eq.symm
    rw [List.append_assoc, List.append_cancel_left_eq] at hv
    cases w with
    | nil => simp at hu
    | cons d w =>
      cases w with
      | nil => simp at hv
      | cons e w =>
        simp only [List.cons_append, List.cons.injEq] at hv
        obtain ⟨rfl, rfl, -⟩ := hv
        exact (h u w rfl).elim

/-- Behind a placeholder the search goes on. -/
theorem findAllFrom_behind (inside tail : List Char) (index : Nat) : ∃ before,
    findAllFrom placeholder (inside.length + 2) (some '$') (index + 1)
        ('\x7b' :: (inside ++ '\x7d' :: tail)) =
      findAllFrom placeholder 0 before (index + (inside.length + 3)) tail := by
  have skip := @findAllFrom_skip placeholder tail ('\x7b' :: (inside ++ ['\x7d'])) (some '$')
    (index + 1)
  rw [show ('\x7b' :: (inside ++ ['\x7d'])).length = inside.length + 2 by simp,
    show index + 1 + (inside.length + 2) = index + (inside.length + 3) by omega] at skip
  simp only [List.cons_append, List.append_assoc, List.nil_append] at skip
  exact ⟨_, skip⟩

/-- When the placeholders that are found are those of the template. -/
theorem placeholders_eq : ∀ (t : Template) (before : Option Char) (index : Nat),
    findAllFrom placeholder 0 before index t.text = t.holes index ↔ t.Level
  | .last chunk, before, index => by
    rw [Template.text, Template.holes, findAllFrom_eq_nil, quiet_last, Template.Level]
  | .hole chunk inside more, before, index => by
    rw [Template.text, Template.holes, List.append_assoc, findAllFrom_first, Template.Level,
      List.cons_append, List.cons_append, quiet_chunk (by simp)]
    refine and_congr_right fun _ => ?_
    by_cases hi : '\x7d' ∈ inside.text
    · refine iff_of_false (fun h => ?_) fun h => h.1 hi
      rw [findAllFrom] at h
      split at h
      · rename_i found hf
        obtain ⟨-, rfl⟩ := Prod.mk.inj (List.cons.inj h).1
        exact placeholder_eq_some hf hi
      · rename_i hn
        exact placeholder_eq_none.1 hn _ rfl (by simp)
    · obtain ⟨b, hb⟩ := findAllFrom_behind inside.text more.text (index + chunk.length)
      have ih := placeholders_eq more b (index + chunk.length + (inside.text.length + 3))
      rw [findAllFrom, placeholder_inside hi]
      simp only [show inside.text.length + 3 - 1 = inside.text.length + 2 from rfl]
      rw [hb, ← ih]
      simp [hi]

/-! ## The parts of a template -/

/-- The parts between the placeholders are the chunks. -/
theorem partsBetween_holes : ∀ (t : Template) (index : Nat),
    partsBetween t.text index (t.holes index) = t.chunks
  | .last chunk, _ => rfl
  | .hole chunk inside more, index => by
    have text : (Template.hole chunk inside more).text =
        (chunk ++ ('$' :: '\x7b' :: inside.text ++ ['\x7d'])) ++ more.text := by
      simp [Template.text]
    have length : (chunk ++ ('$' :: '\x7b' :: inside.text ++ ['\x7d'])).length =
        chunk.length + (inside.text.length + 3) := by
      simp
    rw [Template.holes, Template.chunks, partsBetween]
    simp only [Nat.add_sub_cancel_left]
    rw [← length, text, List.drop_left, partsBetween_holes more, List.append_assoc, List.take_left]

/-- A text of blanks has no class tokens. -/
theorem tokenizeClassList_blank {text : List Char} (h : text.all isBlank = true) :
    tokenizeClassList text = [] := by
  have parts : ∀ {cs : List Char}, cs.all isBlank = true →
      ∀ part ∈ ClassList.split cs, part = [] := by
    intro cs
    induction cs with
    | nil => exact fun _ part hp => List.mem_singleton.1 hp
    | cons c cs ih =>
      intro hc part hp
      rw [List.all_cons, Bool.and_eq_true] at hc
      rw [ClassList.split, if_pos (by rw [ClassList.isSeparator, hc.1]; rfl)] at hp
      exact (List.mem_cons.1 hp).elim id (ih hc.2 part)
  have none : ((ClassList.split text).map ClassList.unquote).filter ClassList.isToken = [] := by
    refine List.filter_eq_nil_iff.2 fun part hp => ?_
    obtain ⟨raw, hr, rfl⟩ := List.mem_map.1 hp
    rw [parts h raw hr]
    decide
  rw [tokenizeClassList, none]
  rfl

theorem tokensOf_fixedParts {t : Template} (h : t.Level) {chunk : List Char} (hc : chunk ∈ t.chunks)
    {token : String} (ht : token ∈ tokenizeClassList chunk) :
    ∃ part ∈ fixedParts t.text, token ∈ tokenizeClassList part := by
  refine ⟨chunk, ?_, ht⟩
  rw [fixedParts, findAll, (placeholders_eq t none 0).2 h, partsBetween_holes]
  refine List.mem_filter.2 ⟨hc, ?_⟩
  cases hb : chunk.all isBlank with
  | false => rfl
  | true =>
    rw [tokenizeClassList_blank hb] at ht
    cases ht

/-! ## Literals in clear -/

/-- What keeps a literal in its place from being lost to the flat searches. -/
def Literal.Clear (text before : List Char) : Literal → Prop
  | .string _ raw => unbroken raw = true ∧ Uncovered before.length (findAll stringLiteral text)
  | .template body => '\x60' ∉ body.text ∧ before.count '\x60' % 2 = 0 ∧ body.Level

/-- A literal is found in its place, and of a template just the placeholders. -/
def Literal.Found (text before : List Char) : Literal → Prop
  | .string _ raw => (before.length, Find.enclosed raw) ∈ findAll stringLiteral text
  | .template body => (before.length, Find.enclosed body.text) ∈ findAll templateLiteral text ∧
    findAll placeholder body.text = body.holes 0

theorem Literal.found_iff {text : List Char} {x : List Char × Literal} (hs : Splits text x)
    (hw : x.2.WellFormed) : x.2.Found text x.1 ↔ x.2.Clear text x.1 := by
  obtain ⟨before, literal⟩ := x
  obtain ⟨after, rfl⟩ := hs
  cases literal with
  | string q raw =>
    have := mem_strings hw.1 hw.2 before after
    simpa [Literal.Found, Literal.Clear, Literal.text] using this
  | template body =>
    have := mem_templates body.text before after
    simp only [Literal.Found, Literal.Clear, Literal.text, ← and_assoc, findAll, placeholders_eq]
    exact and_congr_left' (by simpa [findAll] using this)

theorem quiet_stringLiteral {tail : List Char} : ∀ {pre : List Char} {before : Option Char},
    (∀ c ∈ pre, isQuoteMark c = false) → Quiet stringLiteral before tail pre
  | [], _, _ => trivial
  | c :: pre, _, h => by
    obtain ⟨hc, hpre⟩ := List.forall_mem_cons.1 h
    refine ⟨?_, quiet_stringLiteral hpre⟩
    rw [stringLiteral, hc]
    rfl

/-- String literals behind a text without quotes are found as they are without it. -/
theorem findAll_stringLiteral_behind {front : List Char} (h : ∀ c ∈ front, isQuoteMark c = false)
    (text : List Char) : findAll stringLiteral (front ++ text) =
      (findAll stringLiteral text).map fun x => (front.length + x.1, x.2) := by
  have unread : ∀ (before : Option Char) (index : Nat),
      findAllFrom stringLiteral 0 before index text =
        findAllFrom stringLiteral 0 none index text := fun before index => by
    cases text <;> rfl
  rw [findAll, findAllFrom_quiet (quiet_stringLiteral h), unread, Nat.zero_add]
  exact findAllFrom_shift stringLiteral front.length text 0 none 0

/-- Text around an expression may be left out, if no quote stands in the text before it. -/
theorem Literal.Clear.within {front text back before : List Char} {l : Literal}
    (h : l.Clear (front ++ (text ++ back)) (front ++ before)) (hw : l.WellFormed)
    (hs : Splits text (before, l)) (hfront : ∀ c ∈ front, ClassList.isQuote c = false) :
    l.Clear text before := by
  obtain ⟨after, rfl⟩ := hs
  cases l with
  | template body =>
    obtain ⟨hinner, hcount, hlevel⟩ := h
    have hnone : front.count '\x60' = 0 := List.count_eq_zero.2 fun hm => by
      have := hfront _ hm
      revert this
      decide
    rw [List.count_append, hnone, Nat.zero_add] at hcount
    exact ⟨hinner, hcount, hlevel⟩
  | string q raw =>
    have hmarks : ∀ c ∈ front, isQuoteMark c = false := fun c hc => by
      have := hfront c hc
      simp only [ClassList.isQuote, Bool.or_eq_false_iff] at this
      rw [isQuoteMark, this.1.1, this.1.2]
      rfl
    have hwhole : front ++ (before ++ (Literal.string q raw).text ++ after ++ back) =
        (front ++ before) ++ q :: (raw ++ q :: (after ++ back)) := by
      simp [Literal.text]
    have hpart : before ++ (Literal.string q raw).text ++ after =
        before ++ q :: (raw ++ q :: after) := by
      simp [Literal.text]
    have hfound : ((front ++ before).length, Find.enclosed raw) ∈ findAll stringLiteral
        (front ++ (before ++ (Literal.string q raw).text ++ after ++ back)) := by
      rw [hwhole]
      refine (mem_strings hw.1 hw.2 _ _).2 ?_
      rw [← hwhole]
      exact h
    rw [findAll_stringLiteral_behind hmarks] at hfound
    obtain ⟨⟨place, found⟩, hmem, he⟩ := List.mem_map.1 hfound
    obtain ⟨hplace, rfl⟩ := Prod.mk.inj he
    obtain rfl : place = before.length := by
      rw [List.length_append] at hplace
      omega
    have hinside := mem_findAllFrom_start local_stringLiteral hmem
      (by simp [Literal.text]) (by simp [Literal.text, Find.enclosed])
    rw [hpart] at hinside ⊢
    exact (mem_strings hw.1 hw.2 before after).1 hinside

/-- The class tokens of a literal that is found are tokens of the text. -/
theorem Literal.Found.tokens {text before part : List Char} {l : Literal} {token : String}
    (h : l.Found text before) (hp : part ∈ l.parts) (ht : token ∈ tokenizeClassList part) :
    token ∈ tokensOf (quotedStrings text ++ templateParts text) := by
  rw [tokensOf, List.flatMap_append, List.mem_append]
  cases l with
  | string q raw =>
    obtain rfl := List.mem_singleton.1 hp
    exact .inl (List.mem_flatMap.2 ⟨_, List.mem_map.2 ⟨_, h, rfl⟩, ht⟩)
  | template body =>
    obtain ⟨part', hpart, ht⟩ := tokensOf_fixedParts ((placeholders_eq body none 0).1 h.2) hp ht
    refine .inr (List.mem_flatMap.2 ⟨part', ?_, ht⟩)
    exact List.mem_flatMap.2 ⟨_, List.mem_map.2 ⟨_, h.1, rfl⟩, hpart⟩

end StylePrune.Content
