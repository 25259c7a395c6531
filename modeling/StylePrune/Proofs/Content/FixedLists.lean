import Mathlib.Data.List.TakeWhile
import StylePrune.Proofs.Content.Attribute

/-!
# Fixed class lists in content

A fixed class list is a quoted value behind a word and, but for the keyword, an equals sign
(`ListForm.Opens`). Behind a text without quotes it is found where it stands, and what is read of it
goes up to its first quote of either kind (`mem_findAll_list`). So all of its tokens are among the
classes of a scan if no quote stands in it; behind a quote of the other kind they may be lost.

The first quote of the text tells which find is meant: one that starts earlier would have the same
opening quote, and so the same word before it (`append_gap_injective`).
-/

namespace StylePrune.Content

/-- The ways to write a fixed class list. -/
inductive ListForm where
  | markup
  | property
  | keyword

namespace ListForm

def recogniser : ListForm → Recogniser
  | markup => classAttribute
  | property => classNameAttribute
  | keyword => classKeyword

def word : ListForm → List Char
  | markup => "class".toList
  | property => "className".toList
  | keyword => "class:".toList

/-- What stands between the word and the value, besides blanks. -/
def sign : ListForm → List Char
  | markup | property => ['=']
  | keyword => []

/-- Whether a list may start behind a character, or at the start of a text. -/
def startsAt : ListForm → Option Char → Bool
  | markup, none => true
  | markup, some c => isBlank c || c = '<'
  | property, before | keyword, before => atWordStart before

/-- A text that leads up to the opening quote of a list. -/
def Opens (form : ListForm) (opening : List Char) : Prop :=
  ∃ gap gap', (∀ c ∈ gap, isBlank c = true) ∧ (∀ c ∈ gap', isBlank c = true) ∧
    opening = form.word ++ (gap ++ (form.sign ++ gap'))

/-- The text behind the sign of a list and the blanks around it. -/
def behindSign? : ListForm → List Char → Option (List Char)
  | markup, cs | property, cs => dropEquals? cs
  | keyword, cs => some (dropBlanks cs)

/-- The text behind the word and the sign of a list. -/
def opened? (form : ListForm) (cs : List Char) : Option (List Char) :=
  (dropWord? form.word cs).bind form.behindSign?

/-- How many characters before the word a find takes up. -/
def width : ListForm → Nat
  | markup => 1
  | property | keyword => 0

end ListForm

/-- The part of a value before its first quote. -/
def toQuote (value : List Char) : List Char := value.takeWhile fun c => !isQuoteMark c

/-! ## Quotes -/

theorem isBlank_of_isQuoteMark {c : Char} (h : isQuoteMark c = true) : isBlank c = false := by
  simp only [isQuoteMark, Bool.or_eq_true, decide_eq_true_eq] at h
  rcases h with rfl | rfl <;> decide

theorem isQuoteMark_of_isBlank {c : Char} (h : isBlank c = true) : isQuoteMark c = false := by
  cases hq : isQuoteMark c with
  | false => rfl
  | true => rw [isBlank_of_isQuoteMark hq] at h; cases h

theorem toQuote_append {q : Char} (hq : isQuoteMark q = true) (rest : List Char) :
    ∀ value : List Char, toQuote (value ++ q :: rest) = toQuote value
  | [] => by simp [toQuote, hq]
  | c :: value => by
    have ih := toQuote_append hq rest value
    simp only [toQuote] at ih ⊢
    rw [List.cons_append, List.takeWhile_cons, List.takeWhile_cons, ih]

theorem quoteless {text : List Char} (h : text.all (fun c => !isQuoteMark c) = true) :
    ∀ c ∈ text, isQuoteMark c = false := fun c hc => by
  have := List.all_eq_true.1 h c hc
  rwa [Bool.not_eq_true'] at this

/-- A quoted value is read up to its first quote. -/
theorem plainQuoted_append {q : Char} (hq : isQuoteMark q = true) {value : List Char}
    (hne : toQuote value ≠ []) (text rest : List Char) :
    ∃ after, plainQuoted text (q :: (value ++ q :: rest)) =
      some (.between text (toQuote value) (value ++ q :: rest) after) := by
  have hvalue : (value ++ q :: rest).takeWhile (fun c => !isQuoteMark c) = toQuote value :=
    toQuote_append hq rest value
  have hlength : (toQuote value).length ≤ value.length := (List.takeWhile_prefix _).length_le
  obtain ⟨d, after, hdrop⟩ := List.exists_cons_of_ne_nil
    (show (value ++ q :: rest).drop (toQuote value).length ≠ [] by
      rw [Ne, List.drop_eq_nil_iff, List.length_append, List.length_cons]
      omega)
  refine ⟨after, ?_⟩
  simp only [plainQuoted, hq, if_true, hvalue, hdrop]
  rw [if_neg (by simpa using hne)]

theorem plainQuoted_eq_some {text cs : List Char} {found : Find}
    (h : plainQuoted text cs = some found) : ∃ q inner, cs = q :: inner ∧ isQuoteMark q = true := by
  unfold plainQuoted at h
  split at h
  · rename_i q inner
    split at h
    · exact ⟨q, inner, rfl, ‹_›⟩
    · cases h
  · cases h

/-! ## Lists in their places -/

namespace ListForm

theorem opened?_eq_some {form : ListForm} {cs rest : List Char} (h : form.opened? cs = some rest) :
    ∃ gap, (∀ c ∈ gap, (isBlank c || c = '=') = true) ∧ cs = form.word ++ (gap ++ rest) := by
  obtain ⟨more, hmore, h⟩ := Option.bind_eq_some_iff.1 h
  have hgap : ∃ gap, (∀ c ∈ gap, (isBlank c || c = '=') = true) ∧ more = gap ++ rest := by
    cases form with
    | markup | property =>
      obtain ⟨gap, hgap, hcs⟩ := dropEquals?_eq_some h
      exact ⟨gap, fun c hc => by simpa using hgap c hc, hcs⟩
    | keyword =>
      obtain ⟨gap, hgap, hcs⟩ := exists_dropBlanks more
      rw [Option.some.inj h] at hcs
      exact ⟨gap, fun c hc => by simp [hgap c hc], hcs⟩
  obtain ⟨gap, hgap, rfl⟩ := hgap
  exact ⟨gap, hgap, dropWord?_eq_some hmore⟩

theorem opened?_append {form : ListForm} {opening rest : List Char} (h : form.Opens opening)
    (hrest : ∀ c ∈ rest.head?, isBlank c = false) : form.opened? (opening ++ rest) = some rest := by
  obtain ⟨gap, gap', hgap, hgap', rfl⟩ := h
  rw [opened?, List.append_assoc, dropWord?_append, Option.bind_some, List.append_assoc,
    List.append_assoc]
  cases form with
  | markup | property => exact dropEquals?_append hgap hgap' hrest
  | keyword =>
    have hblank : ∀ c ∈ gap ++ gap', isBlank c = true := fun c hc =>
      (List.mem_append.1 hc).elim (hgap c) (hgap' c)
    rw [sign, List.nil_append, ← List.append_assoc]
    exact congrArg some (dropBlanks_append hblank hrest)

theorem markup_cons (before : Option Char) (c : Char) (rest : List Char) :
    classAttribute before (c :: rest) =
      (if before.isNone then (markup.opened? (c :: rest)).bind (plainQuoted (c :: rest))
        else none).or
      (if isBlank c || c = '<' then (markup.opened? rest).bind (plainQuoted (c :: rest))
        else none) := by
  have same : ∀ text : List Char, ((dropWord? "class".toList text).bind fun more =>
      (dropEquals? more).bind (plainQuoted (c :: rest))) =
        (markup.opened? text).bind (plainQuoted (c :: rest)) := fun text => by
    rw [opened?, Option.bind_assoc]
    rfl
  simp only [classAttribute, Option.bind_eq_bind, same]
  cases (if before.isNone then (markup.opened? (c :: rest)).bind (plainQuoted (c :: rest))
    else none) <;> rfl

theorem property_eq (before : Option Char) (cs : List Char) :
    classNameAttribute before cs =
      if atWordStart before then (property.opened? cs).bind (plainQuoted cs) else none := by
  rw [classNameAttribute, opened?, Option.bind_assoc]
  cases atWordStart before <;> rfl

theorem keyword_eq (before : Option Char) (cs : List Char) :
    classKeyword before cs =
      if atWordStart before then (keyword.opened? cs).bind (plainQuoted cs) else none := by
  rw [classKeyword, opened?, Option.bind_assoc]
  cases atWordStart before <;> rfl

/-- What a find of a list takes up: at most one character, then the word. -/
theorem recogniser_eq_some {form : ListForm} {before : Option Char} {cs : List Char} {found : Find}
    (h : form.recogniser before cs = some found) :
    ∃ lead text q inner, cs = lead ++ text ∧ form.opened? text = some (q :: inner) ∧
      isQuoteMark q = true ∧ (∀ c ∈ lead, isQuoteMark c = false) ∧ lead.length ≤ form.width := by
  have opens : ∀ {text : List Char}, (form.opened? text).bind (plainQuoted cs) = some found →
      ∃ q inner, form.opened? text = some (q :: inner) ∧ isQuoteMark q = true := by
    intro text h
    obtain ⟨rest, hrest, h⟩ := Option.bind_eq_some_iff.1 h
    obtain ⟨q, inner, rfl, hq⟩ := plainQuoted_eq_some h
    exact ⟨q, inner, hrest, hq⟩
  have whole : (form.opened? cs).bind (plainQuoted cs) = some found →
      ∃ lead text q inner, cs = lead ++ text ∧ form.opened? text = some (q :: inner) ∧
        isQuoteMark q = true ∧ (∀ c ∈ lead, isQuoteMark c = false) ∧
        lead.length ≤ form.width := fun h => by
    obtain ⟨q, inner, hopen, hq⟩ := opens h
    have hnone : ∀ c ∈ ([] : List Char), isQuoteMark c = false := by simp
    exact ⟨[], cs, q, inner, rfl, hopen, hq, hnone, Nat.zero_le _⟩
  cases form with
  | markup =>
    cases cs with
    | nil => cases before <;> cases h
    | cons c rest =>
      rw [recogniser, markup_cons, Option.or_eq_some_iff] at h
      rcases h with h | ⟨-, h⟩
      · split at h
        · exact whole h
        · cases h
      · split at h
        · rename_i hc
          obtain ⟨q, inner, hopen, hq⟩ := opens h
          refine ⟨[c], rest, q, inner, rfl, hopen, hq, fun d hd => ?_, Nat.le_refl _⟩
          rw [List.mem_singleton.1 hd]
          simp only [Bool.or_eq_true, decide_eq_true_eq] at hc
          rcases hc with hc | rfl
          · exact isQuoteMark_of_isBlank hc
          · decide
        · cases h
  | property =>
    rw [recogniser, property_eq] at h
    split at h
    · exact whole h
    · cases h
  | keyword =>
    rw [recogniser, keyword_eq] at h
    split at h
    · exact whole h
    · cases h

/-- A list that starts behind `pre` is found there, or from the character before on. -/
theorem recogniser_opened {form : ListForm} {pre text rest : List Char}
    (hstart : form.startsAt pre.getLast? = true) (hopen : form.opened? text = some rest) :
    ∃ u lead, pre = u ++ lead ∧ (u ≠ [] → lead.length = form.width) ∧
      ∀ found, plainQuoted (lead ++ text) rest = some found →
        form.recogniser u.getLast? (lead ++ text) = some found := by
  cases form with
  | markup =>
    rcases List.eq_nil_or_concat' pre with rfl | ⟨u, c, rfl⟩
    · obtain ⟨gap, -, rfl⟩ := opened?_eq_some hopen
      refine ⟨[], [], rfl, fun h => absurd rfl h, fun found h => ?_⟩
      rw [List.nil_append] at h
      have hfirst : (markup.opened? (markup.word ++ (gap ++ rest))).bind
          (plainQuoted (markup.word ++ (gap ++ rest))) = some found := by rw [hopen]; exact h
      obtain ⟨c, more, hcs⟩ : ∃ c more, markup.word ++ (gap ++ rest) = c :: more := ⟨_, _, rfl⟩
      rw [hcs] at hfirst
      rw [recogniser, List.nil_append, hcs, markup_cons, List.getLast?_nil, Option.isNone_none,
        if_pos rfl, hfirst]
      rfl
    · rw [List.getLast?_concat] at hstart
      have hbehind : (isBlank c || c = '<') = true := hstart
      have hword : markup.opened? (c :: text) = none := by
        have hc : c ≠ 'c' := by
          rintro rfl
          exact absurd hstart (by decide)
        cases ho : markup.opened? (c :: text) with
        | none => rfl
        | some more =>
          obtain ⟨gap, -, hcs⟩ := opened?_eq_some ho
          exact absurd (List.cons.inj hcs).1 hc
      refine ⟨u, [c], rfl, fun _ => rfl, fun found h => ?_⟩
      rw [recogniser, List.singleton_append, markup_cons, hword, Option.bind_none, ite_self,
        Option.none_or, if_pos hbehind, hopen]
      exact h
  | property =>
    have hword : atWordStart pre.getLast? = true := hstart
    refine ⟨pre, [], (List.append_nil _).symm, fun _ => rfl, fun found h => ?_⟩
    rw [recogniser, property_eq, if_pos hword, List.nil_append, hopen]
    exact h
  | keyword =>
    have hword : atWordStart pre.getLast? = true := hstart
    refine ⟨pre, [], (List.append_nil _).symm, fun _ => rfl, fun found h => ?_⟩
    rw [recogniser, keyword_eq, if_pos hword, List.nil_append, hopen]
    exact h

theorem quoteless_of_gap {gap : List Char} (h : ∀ c ∈ gap, (isBlank c || c = '=') = true) :
    ∀ c ∈ gap, isQuoteMark c = false := fun c hc => by
  have := h c hc
  rw [Bool.or_eq_true, decide_eq_true_eq] at this
  rcases this with hb | rfl
  · exact isQuoteMark_of_isBlank hb
  · decide

/-- No find from before a list, behind a text without quotes, runs into it. -/
theorem uncovered {form : ListForm} {u lead text inner : List Char} {q : Char}
    (hquotes : ∀ c ∈ u ++ lead, isQuoteMark c = false) (hlead : u ≠ [] → lead.length = form.width)
    (hopen : form.opened? text = some (q :: inner)) (hq : isQuoteMark q = true) :
    Uncovered u.length (findAll form.recogniser (u ++ (lead ++ text))) := by
  intro x hx hlt
  exfalso
  obtain ⟨u', rest, before, hsplit, hplace, hr⟩ := exists_of_mem_findAllFrom hx
  obtain ⟨lead', text', q', inner', rfl, hopen', hq', hlead', hwidth⟩ := recogniser_eq_some hr
  obtain ⟨gap, hgap, rfl⟩ := opened?_eq_some hopen
  obtain ⟨gap', hgap', rfl⟩ := opened?_eq_some hopen'
  rw [Nat.zero_add] at hplace
  -- The find starts within `u`, where no quote stands, so its opening quote is that of the list.
  have hu' : u' <+: u := by
    refine List.prefix_of_prefix_length_le ⟨_, hsplit.symm⟩ ⟨_, rfl⟩ ?_
    omega
  have hword : ∀ c ∈ form.word, isQuoteMark c = false := quoteless (by cases form <;> decide)
  have hsame : u ++ (lead ++ (form.word ++ gap)) = u' ++ (lead' ++ (form.word ++ gap')) := by
    have hcut : (u ++ (lead ++ (form.word ++ gap))) ++ q :: inner =
        (u' ++ (lead' ++ (form.word ++ gap'))) ++ q' :: inner' := by
      simpa only [List.append_assoc, List.cons_append] using hsplit
    refine append_mark_injective hq hq' ?_ ?_ hcut
    · simp only [List.mem_append] at hquotes ⊢
      rintro c (hc | hc | hc | hc)
      · exact hquotes c (.inl hc)
      · exact hquotes c (.inr hc)
      · exact hword c hc
      · exact quoteless_of_gap hgap c hc
    · simp only [List.mem_append] at hquotes ⊢
      rintro c (hc | hc | hc | hc)
      · exact hquotes c (.inl (hu'.subset hc))
      · exact hlead' c hc
      · exact hword c hc
      · exact quoteless_of_gap hgap' c hc
  have hends : ∃ front c, form.word = front ++ [c] ∧ (isBlank c || c = '=') = false := by
    cases form with
    | markup => exact ⟨"clas".toList, 's', rfl, by decide⟩
    | property => exact ⟨"classNam".toList, 'e', rfl, by decide⟩
    | keyword => exact ⟨"class".toList, ':', rfl, by decide⟩
  obtain ⟨front, c, hfront, hc⟩ := hends
  have hstart : u ++ lead = u' ++ lead' := by
    have hcut : (u ++ (lead ++ front)) ++ c :: gap = (u' ++ (lead' ++ front)) ++ c :: gap' := by
      simpa only [hfront, List.append_assoc, List.singleton_append] using hsame
    have hfronts := append_gap_injective hc hc hgap hgap' hcut
    rw [List.append_cancel_right_eq, ← List.append_assoc, ← List.append_assoc] at hfronts
    exact List.append_cancel_right hfronts
  have hlength := congrArg List.length hstart
  rw [List.length_append, List.length_append] at hlength
  have := hlead (List.ne_nil_of_length_pos (by omega))
  omega

end ListForm

/-- A list behind a text without quotes is found in its place, and read up to its first quote. -/
theorem mem_findAll_list {form : ListForm} {pre opening value : List Char} {q : Char}
    (hpre : ∀ c ∈ pre, isQuoteMark c = false) (hstart : form.startsAt pre.getLast? = true)
    (hopen : form.Opens opening) (hq : isQuoteMark q = true) (hne : toQuote value ≠ [])
    (rest : List Char) :
    ∃ x ∈ findAll form.recogniser (pre ++ (opening ++ q :: (value ++ q :: rest))),
      x.2.value = toQuote value ∧ x.1 + x.2.offset = (pre ++ opening).length + 1 := by
  have hopened : form.opened? (opening ++ q :: (value ++ q :: rest)) =
      some (q :: (value ++ q :: rest)) :=
    ListForm.opened?_append hopen (by simp [isBlank_of_isQuoteMark hq])
  obtain ⟨u, lead, rfl, hlead, hfound⟩ := ListForm.recogniser_opened hstart hopened
  obtain ⟨after, hvalue⟩ := plainQuoted_append hq hne
    (lead ++ (opening ++ q :: (value ++ q :: rest))) rest
  have hr := hfound _ hvalue
  have hfree := ListForm.uncovered hpre hlead hopened hq
  obtain ⟨c, more, htext⟩ := List.exists_cons_of_ne_nil
    (show lead ++ (opening ++ q :: (value ++ q :: rest)) ≠ [] by simp)
  refine ⟨(u.length, .between (lead ++ (opening ++ q :: (value ++ q :: rest))) (toQuote value)
    (value ++ q :: rest) after), ?_, rfl, ?_⟩
  · rw [List.append_assoc, htext]
    rw [htext] at hr hfree
    exact mem_findAll.2 ⟨hr, hfree⟩
  · simp only [Find.between, List.length_append, List.length_cons]
    omega

theorem recogniser_mem (form : ListForm) : form.recogniser ∈ classLists := by
  cases form
  · exact .head _
  · exact .tail _ (.head _)
  · exact .tail _ (.tail _ (.head _))

/-- The tokens of a fixed list that is found are classes of a scan. -/
theorem mem_scan_of_list {form : ListForm} {content : List Char} {x : Nat × Find}
    (hx : x ∈ findAll form.recogniser content) {token : String}
    (ht : token ∈ tokenizeClassList x.2.value) (collectDynamic : Bool) (label : Option String) :
    token ∈ (scan collectDynamic label content).classes := by
  have hyield : (⟨(tokenizeClassList x.2.value).map (·, x.1 + x.2.offset), []⟩ : Yield) ∈
      yields collectDynamic content := by
    simp only [yields, List.mem_append]
    refine .inl (.inl (.inl (.inl (List.mem_flatMap.2 ⟨_, recogniser_mem form, ?_⟩))))
    exact List.mem_map.2 ⟨x, hx, rfl⟩
  rw [mem_scan]
  exact ⟨_, hyield, _, List.mem_map.2 ⟨token, ht, rfl⟩⟩

/-- The tokens of a fixed list up to its first quote of either kind are classes of a scan, if no
quote stands in the text before it; so all tokens of a list without quotes are. -/
theorem fixed_list_tokens {form : ListForm} {pre opening value : List Char} {q : Char}
    (hpre : ∀ c ∈ pre, isQuoteMark c = false) (hstart : form.startsAt pre.getLast? = true)
    (hopen : form.Opens opening) (hq : isQuoteMark q = true) (rest : List Char)
    (collectDynamic : Bool) (label : Option String) :
    let content := pre ++ (opening ++ q :: (value ++ q :: rest))
    (toQuote value ≠ [] → ∃ x ∈ findAll form.recogniser content,
      x.2.value = toQuote value ∧ x.1 + x.2.offset = (pre ++ opening).length + 1) ∧
    (∀ token ∈ tokenizeClassList (toQuote value),
      token ∈ (scan collectDynamic label content).classes) ∧
    ((∀ c ∈ value, isQuoteMark c = false) → ∀ token ∈ tokenizeClassList value,
      token ∈ (scan collectDynamic label content).classes) := by
  intro content
  have hlist : toQuote value ≠ [] → ∃ x ∈ findAll form.recogniser content,
      x.2.value = toQuote value ∧ x.1 + x.2.offset = (pre ++ opening).length + 1 := fun hne =>
    mem_findAll_list hpre hstart hopen hq hne rest
  have htokens : ∀ token ∈ tokenizeClassList (toQuote value),
      token ∈ (scan collectDynamic label content).classes := by
    intro token ht
    by_cases hne : toQuote value = []
    · rw [hne] at ht
      cases ht
    · obtain ⟨x, hx, hvalue, -⟩ := hlist hne
      exact mem_scan_of_list hx (hvalue ▸ ht) collectDynamic label
  refine ⟨hlist, htokens, fun hfree token ht => htokens token ?_⟩
  have hwhole : toQuote value = value :=
    List.takeWhile_eq_self_iff.2 fun c hc => by rw [hfree c hc]; rfl
  rwa [hwhole]

/-- A list in an element, with other text around it. -/
theorem fixed_list_tokens_element :
    (∀ c ∈ "x <p ".toList, isQuoteMark c = false) ∧
      ListForm.markup.startsAt "x <p ".toList.getLast? = true ∧
      ListForm.markup.Opens "class = ".toList ∧ isQuoteMark '"' = true ∧
      tokenizeClassList "a sm:b".toList = ["a", "sm:b"] ∧
      "sm:b" ∈ (scan false none ("x <p ".toList ++ ("class = ".toList ++
        '"' :: ("a sm:b".toList ++ '"' :: ">".toList)))).classes := by
  have hpre : ∀ c ∈ "x <p ".toList, isQuoteMark c = false := quoteless (by decide +kernel)
  have hopen : ListForm.markup.Opens "class = ".toList :=
    ⟨[' '], [' '], by simp; decide, by simp; decide, rfl⟩
  have htokens : tokenizeClassList "a sm:b".toList = ["a", "sm:b"] := by decide +kernel
  refine ⟨hpre, by decide +kernel, hopen, rfl, htokens, ?_⟩
  refine (fixed_list_tokens hpre (by decide +kernel) hopen rfl ">".toList false none).2.2
    (quoteless (by decide +kernel)) "sm:b" ?_
  rw [htokens]
  exact .tail _ (.head _)

/-- The value `a {{ on ? 'b' : 'c' }} d`. -/
def choiceValue : List Char := "a \x7b\x7b on ? 'b' : 'c' \x7d\x7d d".toList

/-- The tokens behind the first single quote of a list between double quotes are lost. -/
theorem fixed_list_cut :
    '"' ∉ choiceValue ∧ "d" ∈ tokenizeClassList choiceValue ∧
      "d" ∉ (scan false none ("<p ".toList ++ ("class=".toList ++
        '"' :: (choiceValue ++ '"' :: ">".toList)))).classes := by
  exact ⟨by decide +kernel, by decide +kernel, by decide +kernel⟩

end StylePrune.Content
