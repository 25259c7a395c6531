import Mathlib.Data.List.Chain
import StylePrune.Proofs.Css.Granted

/-!
# Lexemes side by side

Whether a lexeme ends where the next one starts can be told from little of the next one (`Seen`), so
neighbours of a text that is read may stand beside each other in any text (`Beside.of_stops`), unless
they are written in a way that makes them clash. Lexemes of which each may stand beside the next are
read back from what is written of them (`bare_written`).
-/

namespace StylePrune.Css

namespace Lexeme

/-- Lexemes that start as an identifier does. -/
def isWord : Lexeme → Bool
  | leaf (.ident _) | leaf (.url ..) | leaf (.fault .badUrl) | leaf (.unicodeRange ..)
  | leaf (.literal ['-', '-', '>']) | functionHead _ => true
  | _ => false

def isNumeric : Lexeme → Bool
  | leaf (.number _) | leaf (.percentage _) | leaf (.dimension ..) => true
  | _ => false

def isSpace : Lexeme → Bool
  | leaf (.whitespace _) => true
  | _ => false

/-- Strings, ended or broken off. -/
def isString : Lexeme → Bool
  | leaf (.string ..) | leaf (.fault .badString) => true
  | _ => false

def isFunction : Lexeme → Bool
  | functionHead _ => true
  | _ => false

/-- The first character of a delimiter, a number or an opening bracket. -/
def mark? : Lexeme → Option Char
  | leaf (.literal cs) | leaf (.number cs) | leaf (.percentage cs) | leaf (.dimension cs _) =>
    cs.head?
  | opening b => some b.opener
  | _ => none

end Lexeme

namespace Lexer

variable {c d : Char} {cs r r' rest : List Char} {a b x : Lexeme} {out : List Lexeme} {n : Nat}

/-! ## What is seen of the next lexeme -/

/-- Characters that tell the lexeme before them whether it goes on. -/
def isTelling (c : Char) : Bool :=
  isDigit c || ['(', '%', '*', '|', '=', '>', '+', '!', '?', '.'].contains c

/-- A text starts as this lexeme does. -/
structure Seen (b : Lexeme) (r : List Char) : Prop where
  space : startsSpace r = b.isSpace
  word : startsIdent r = b.isWord
  mark : ∀ c, isTelling c = true → (r.head? = some c ↔ b.mark? = some c)
  hyphen : b.isWord = false → (r.head? = some '-' ↔ b.mark? = some '-')
  number : b.isWord = false → (numberLength? r).isSome = b.isNumeric
  quote : (∃ q, r.head? = some q ∧ (q = '"' ∨ q = '\x27')) ↔ b.isString = true

theorem head_of_startsIdent (h : startsIdent (c :: cs) = true) :
    isNameStart c = true ∨ c = '-' ∨ c = '\\' := by
  by_cases hc : c = '-' ∨ c = '\\'
  · exact .inr hc
  · cases hname : isNameStart c with
    | true => exact .inl rfl
    | false => exact absurd h (by rw [startsIdent_of_head hname (not_or.1 hc)]; decide)

theorem Seen.of_word (h : startsIdent (c :: cs) = true) (hb : b.isWord = true)
    (hmark : b.mark? = none ∨ b.mark? = some '-')
    (hother : b.isSpace = false ∧ b.isString = false) :
    Seen b (c :: cs) where
  space := by
    rw [hother.1]
    refine isSpace_eq_false ?_
    rcases head_of_startsIdent h with hc | rfl | rfl
    · exact .inl (by rw [isName, hc]; rfl)
    · exact .inl rfl
    · exact .inr rfl
  word := h.trans hb.symm
  mark := fun d hd => by
    have hne : c ≠ d := by
      rintro rfl
      rcases head_of_startsIdent h with hc | rfl | rfl
      · simp only [isTelling, isDigit_of_isNameStart hc, Bool.false_or, List.contains_iff_mem,
          List.mem_cons, List.not_mem_nil, or_false] at hd
        rcases hd with rfl | rfl | rfl | rfl | rfl | rfl | rfl | rfl | rfl | rfl <;> cases hc
      · cases hd
      · cases hd
    refine iff_of_false (fun h => hne (Option.some.inj h)) fun h => ?_
    rcases hmark with hm | hm
    · rw [hm] at h
      cases h
    · rw [hm] at h
      obtain rfl := Option.some.inj h
      cases hd
  hyphen := fun h => by rw [hb] at h; cases h
  number := fun h => by rw [hb] at h; cases h
  quote := by
    rw [hother.2]
    refine iff_of_false ?_ Bool.false_ne_true
    rintro ⟨q, hq, hquote⟩
    obtain rfl := Option.some.inj hq
    rcases hquote with rfl | rfl <;> cases h

theorem Seen.of_mark (hident : startsIdent (c :: cs) = false) (hspace : isSpace c = b.isSpace)
    (hword : b.isWord = false) (hnumber : (numberLength? (c :: cs)).isSome = b.isNumeric)
    (hmark : ∀ d, isTelling d = true ∨ d = '-' → (c = d ↔ b.mark? = some d))
    (hquote : c = '"' ∨ c = '\x27' ↔ b.isString = true) : Seen b (c :: cs) where
  space := hspace
  word := hident.trans hword.symm
  mark := fun d hd => Option.some_inj.trans (hmark d (.inl hd))
  hyphen := fun _ => Option.some_inj.trans (hmark '-' (.inr rfl))
  number := fun _ => hnumber
  quote := by simpa using hquote

/-- A lexeme of one character, or of one that says nothing of what it may be. -/
theorem Seen.of_other (hident : startsIdent (c :: cs) = false)
    (hnumber : numberLength? (c :: cs) = none)
    (hspace : isSpace c = false) (hword : b.isWord = false)
    (hb : b.isNumeric = false ∧ b.isSpace = false)
    (hmark : b.mark? = some c ∨ b.mark? = none ∧ isTelling c = false ∧ c ≠ '-')
    (hquote : c = '"' ∨ c = '\x27' ↔ b.isString = true) : Seen b (c :: cs) := by
  refine .of_mark hident (hspace.trans hb.2.symm) hword (by rw [hnumber, hb.1]; rfl) ?_ hquote
  intro d hd
  rcases hmark with hm | ⟨hm, htelling, hhyphen⟩
  · rw [hm, Option.some_inj]
  · rw [hm]
    refine iff_of_false ?_ fun h => by cases h
    rintro rfl
    rcases hd with hd | rfl
    · rw [htelling] at hd
      cases hd
    · exact hhyphen rfl

theorem seen_one {l : Leaf} {k : Nat} (hl : Seen (.leaf l) r)
    (h : one (.leaf l) k = .ok (b :: out, n)) : Seen b r := by
  obtain ⟨hout, -⟩ := Prod.mk.inj (Except.ok.inj h)
  obtain ⟨rfl, -⟩ := List.cons.inj hout
  exact hl

theorem seen_url (hident : startsIdent (c :: cs) = true)
    (h : (url rest).1.map .leaf = b :: out) : Seen b (c :: cs) := by
  revert h
  fun_cases url rest <;> intro h <;> obtain ⟨rfl, -⟩ := List.cons.inj h <;>
    exact .of_word hident rfl (.inl rfl) ⟨rfl, rfl⟩

theorem seen_identLike (hident : startsIdent (c :: cs) = true)
    (h : (identLike (c :: cs)).1 = b :: out) : Seen b (c :: cs) := by
  revert h
  fun_cases identLike (c :: cs) with
  | case2 value n _ rest _ _ q tail _ _ leaves k hurl | case3 value n _ rest _ _ _ leaves k hurl =>
    have := @seen_url c cs rest b out hident
    rwa [hurl] at this
  | _ =>
    intro h
    obtain ⟨rfl, -⟩ := List.cons.inj h
    exact .of_word hident rfl (.inl rfl) ⟨rfl, rfl⟩

theorem seen_numeric {k : Nat} {isInteger : Bool} {r : List Lexeme × Nat}
    (hident : startsIdent (c :: cs) = false)
    (hnumber : numberLength? (c :: cs) = some (k, isInteger))
    (h : numeric (c :: cs) k isInteger = .ok r) (hr : r.1 = b :: out) : Seen b (c :: cs) := by
  obtain ⟨m, rest, htext, rfl, -, -⟩ := exists_numeral hnumber
  obtain ⟨d, more, hm, hstart⟩ := m.exists_cons
  have hc : d = c := by
    rw [hm, List.cons_append] at htext
    exact (List.cons.inj htext).1.symm
  subst hc
  have hhead : ((d :: cs).take m.text.length).head? = some d := by
    rw [htext, List.take_left, hm]
    rfl
  have hspace : isSpace d = false := Bool.eq_false_iff.2 fun hs => by
    simp only [isSpace, Bool.or_eq_true, decide_eq_true_eq] at hs
    rcases hs with (rfl | rfl) | rfl <;> cases hstart
  have hquote : ¬(d = '"' ∨ d = '\x27') := by rintro (rfl | rfl) <;> cases hstart
  revert h
  fun_cases numeric (d :: cs) m.text.length isInteger with
  | case1 => exact fun h => by cases h
  | _ =>
    intro h
    obtain rfl := Except.ok.inj h
    obtain ⟨rfl, -⟩ := List.cons.inj hr
    refine .of_mark hident hspace rfl (by rw [hnumber]; rfl) (fun e _ => ?_)
      (iff_of_false hquote Bool.false_ne_true)
    rw [Lexeme.mark?, hhead, Option.some_inj]

theorem isWord_delimiter (c : Char) : (Lexeme.leaf (.literal [c])).isWord = false := by
  simp [Lexeme.isWord]

/-- A step of the lexer tells how the text starts. -/
theorem seen_step (h : step c rest = .ok (b :: out, n)) : Seen b (c :: rest) := by
  have other {rest : List Char} (hident : ¬startsIdent (c :: rest) = true)
      (hnumber : numberLength? (c :: rest) = none) (hspace : ¬isSpace c = true)
      (hb : b.isWord = false ∧ b.isNumeric = false ∧ b.isSpace = false)
      (hmark : b.mark? = some c ∨ b.mark? = none ∧ isTelling c = false ∧ c ≠ '-')
      (hquote : c = '"' ∨ c = '\x27' ↔ b.isString = true) : Seen b (c :: rest) :=
    .of_other (Bool.eq_false_iff.2 hident) hnumber (Bool.eq_false_iff.2 hspace) hb.1 hb.2 hmark
      hquote
  have hquote (h : ¬(c = '"' || c = '\x27') = true) : ¬(c = '"' ∨ c = '\x27') :=
    fun h' => h (by simpa using h')
  have single {l : Leaf} {k : Nat} (h : one (.leaf l) k = .ok (b :: out, n)) : b = .leaf l :=
    (List.cons.inj (Prod.mk.inj (Except.ok.inj h)).1).1.symm
  have literal {more : List Char} {k : Nat} {rest : List Char}
      (hident : ¬startsIdent (c :: rest) = true) (hnumber : numberLength? (c :: rest) = none)
      (hspace : ¬isSpace c = true)
      (hword : (Lexeme.leaf (.literal (c :: more))).isWord = false)
      (hquote : ¬(c = '"' ∨ c = '\x27'))
      (h : oneLiteral (c :: more) k = .ok (b :: out, n)) : Seen b (c :: rest) := by
    obtain rfl := single h
    exact other hident hnumber hspace ⟨hword, rfl, rfl⟩ (.inl rfl)
      (iff_of_false hquote Bool.false_ne_true)
  revert h
  fun_cases step c rest with
  | case1 rest hspace =>
    intro h
    obtain rfl := single h
    simp only [isSpace, Bool.or_eq_true, decide_eq_true_eq] at hspace
    refine .of_mark ?_ ?_ rfl ?_ (fun d hd => iff_of_false ?_ fun h => by cases h)
      (iff_of_false ?_ Bool.false_ne_true)
    all_goals rcases hspace with (rfl | rfl) | rfl
    any_goals rfl
    any_goals decide
    all_goals
      rintro rfl
      exact absurd hd (by decide)
  | case2 rest _ h =>
    have hident : startsIdent (c :: rest) = true := by
      simp only [Bool.and_eq_true, Bool.or_eq_true, decide_eq_true_eq] at h
      rcases h.1 with rfl | rfl <;> rfl
    exact seen_one (.of_word hident rfl (.inl rfl) ⟨rfl, rfl⟩)
  | case3 rest _ _ hprefix =>
    have hident : startsIdent (c :: rest) = true := by
      obtain ⟨more, hmore⟩ := List.isPrefixOf_iff_prefix.1 hprefix
      rw [← hmore]
      rfl
    exact seen_one (.of_word hident rfl (.inr rfl) ⟨rfl, rfl⟩)
  | case4 rest _ _ _ hident out' n' hlike =>
    intro h
    obtain ⟨rfl, -⟩ := Prod.mk.inj (Except.ok.inj h)
    exact seen_identLike hident (by rw [hlike])
  | case5 rest _ _ _ hident k isInteger hnumber =>
    intro h
    cases hr : numeric (c :: rest) k isInteger with
    | error e => rw [hr] at h; cases h
    | ok r =>
      rw [hr] at h
      exact seen_numeric (Bool.eq_false_iff.2 hident) hnumber hr (Prod.mk.inj (Except.ok.inj h)).1
  | case6 rest _ _ _ hident hnumber hat =>
    subst hat
    intro h
    obtain rfl := single h
    exact other hident hnumber (by decide) ⟨rfl, rfl, rfl⟩ (.inr ⟨rfl, by decide⟩)
      (iff_of_false (by decide) Bool.false_ne_true)
  | case7 rest hspace _ _ hident hnumber hat =>
    subst hat
    exact literal hident hnumber hspace rfl (by decide)
  | case8 _ _ hhash =>
    subst hhash
    intro h
    obtain rfl := single h
    exact other ‹_› ‹_› (by decide) ⟨rfl, rfl, rfl⟩ (.inr ⟨rfl, by decide⟩)
      (iff_of_false (by decide) Bool.false_ne_true)
  | case9 _ _ hhash | case10 _ _ hhash =>
    subst hhash
    exact literal ‹_› ‹_› (by decide) rfl (by decide)
  | case11 rest hspace _ _ hident hnumber _ _ b' hb =>
    intro h
    obtain ⟨rfl, -⟩ := List.cons.inj (Prod.mk.inj (Except.ok.inj h)).1
    obtain rfl := Bracket.eq_opener hb
    exact other hident hnumber hspace ⟨rfl, rfl, rfl⟩ (.inl rfl)
      (iff_of_false (by cases b' <;> decide) Bool.false_ne_true)
  | case12 rest hspace _ _ hident hnumber _ _ b' hb =>
    intro h
    obtain ⟨rfl, -⟩ := List.cons.inj (Prod.mk.inj (Except.ok.inj h)).1
    obtain rfl := Bracket.eq_closer hb
    exact other hident hnumber hspace ⟨rfl, rfl, rfl⟩ (.inr ⟨rfl, by cases b' <;> decide⟩)
      (iff_of_false (by cases b' <;> decide) Bool.false_ne_true)
  | case13 =>
    rename_i hquote _ _ hident hnumber
    simp only [Bool.or_eq_true, decide_eq_true_eq] at hquote
    have hmark : isTelling c = false ∧ c ≠ '-' := by rcases hquote with rfl | rfl <;> decide
    fun_cases stringLike c rest <;> intro h <;>
      obtain ⟨rfl, -⟩ := List.cons.inj (Prod.mk.inj (Except.ok.inj h)).1 <;>
      exact other hident hnumber ‹_› ⟨rfl, rfl, rfl⟩ (.inr ⟨rfl, hmark⟩) (iff_of_true hquote rfl)
  | case14 =>
    rename_i hident hnumber hslash _
    simp only [Bool.and_eq_true, decide_eq_true_eq] at hslash
    obtain ⟨rfl, -⟩ := hslash
    intro h
    obtain rfl := single h
    exact other hident hnumber (by decide) ⟨rfl, rfl, rfl⟩ (.inr ⟨rfl, by decide⟩)
      (iff_of_false (by decide) Bool.false_ne_true)
  | case15 =>
    rename_i hprefix
    obtain ⟨more, hmore⟩ := List.isPrefixOf_iff_prefix.1 hprefix
    obtain rfl := (List.cons.inj hmore).1
    exact literal ‹_› ‹_› (by decide) rfl (by decide)
  | case16 =>
    rename_i hbar
    simp only [Bool.and_eq_true, decide_eq_true_eq] at hbar
    obtain ⟨rfl, -⟩ := hbar
    exact literal ‹_› ‹_› (by decide) rfl (by decide)
  | case17 =>
    exact literal ‹_› ‹_› ‹_› (by simp [Lexeme.isWord]) (hquote ‹_›)
  | case18 => exact literal ‹_› ‹_› ‹_› (isWord_delimiter c) (hquote ‹_›)

/-! ## What the next lexeme tells -/

theorem startsName_eq (cs : List Char) :
    startsName cs = (startsIdent cs || startsDigit cs || cs.head? == some '-') := by
  cases cs with
  | nil => rfl
  | cons c cs =>
    by_cases hhyphen : c = '-'
    · subst hhyphen
      simp [startsName, isName]
    by_cases hescape : c = '\\'
    · subst hescape
      show (isName '\\' || (true && startsEscape cs)) =
        (startsEscape cs || isDigit '\\' || some '\\' == some '-')
      cases startsEscape cs <;> rfl
    · have hident : startsIdent (c :: cs) = isNameStart c := by
        rw [startsIdent]
        all_goals simp [hhyphen, hescape]
      simp [startsName, isName, startsDigit, hident, hhyphen, hescape]

theorem startsIdent_behind_hyphen (cs : List Char) :
    startsIdent ('-' :: cs) = (startsIdent cs || cs.head? == some '-') := by
  cases cs with
  | nil => rfl
  | cons c cs =>
    by_cases hhyphen : c = '-'
    · subst hhyphen
      exact (Bool.or_true _).symm
    by_cases hescape : c = '\\'
    · subst hescape
      exact (Bool.or_false _).symm
    · rw [startsIdent, startsIdent]
      all_goals simp [hhyphen, hescape]

theorem isSome_behind (c : Char) (cs : List Char) : (numberLength? (c :: cs)).isSome =
    if c = '+' ∨ c = '-' then startsDigit cs || startsPoint cs
    else isDigit c || (c == '.' && startsDigit cs) := by
  rw [isSome_numberLength?]
  by_cases hsign : c = '+' ∨ c = '-'
  · have hlength : signLength (c :: cs) = 1 := if_pos (by simpa using hsign)
    rw [if_pos hsign, hlength, List.drop_one, List.tail_cons]
  · have hlength : signLength (c :: cs) = 0 := if_neg (by simpa using hsign)
    rw [if_neg hsign, hlength, List.drop_zero]
    rfl

theorem startsPoint_eq (cs : List Char) :
    startsPoint cs = (cs.head? == some '.' && (numberLength? cs).isSome) := by
  cases cs with
  | nil => rfl
  | cons c cs =>
    by_cases hc : c = '.'
    · subst hc
      rw [isSome_behind]
      rfl
    · simp [startsPoint, beq_false_of_ne hc]

namespace Seen

variable (h : Seen b r)
include h

theorem any_head {p : Char → Bool} (hp : ∀ c, p c = true → isTelling c = true) :
    r.head?.any p = b.mark?.any p := by
  rw [Bool.eq_iff_iff, Option.any_eq_true, Option.any_eq_true]
  exact exists_congr fun c => and_congr_left fun hc => h.mark c (hp c hc)

theorem digit : startsDigit r = b.mark?.any isDigit :=
  h.any_head fun c hc => by rw [isTelling, hc]; rfl

theorem head_eq (hc : isTelling c = true) : (r.head? == some c) = (b.mark? == some c) := by
  rw [Bool.eq_iff_iff, beq_iff_eq, beq_iff_eq]
  exact h.mark c hc

/-- A word starts with no point. -/
theorem head_ne_point (hb : b.isWord = true) : r.head? ≠ some '.' := by
  intro hhead
  obtain ⟨more, rfl⟩ := List.head?_eq_some_iff.1 hhead
  have hword : false = true := h.word.trans hb
  cases hword

theorem point : startsPoint r = (b.mark? == some '.' && b.isNumeric) := by
  rw [startsPoint_eq]
  cases hb : b.isWord with
  | false => rw [h.number hb, h.head_eq rfl]
  | true =>
    have hr : (r.head? == some '.') = false := beq_false_of_ne (h.head_ne_point hb)
    rw [hr, ← h.head_eq rfl, hr, Bool.false_and, Bool.false_and]

theorem name : startsName r = (b.isWord || b.mark?.any isDigit || b.mark? == some '-') := by
  rw [startsName_eq, h.word, h.digit]
  cases hb : b.isWord with
  | false =>
    congr 1
    rw [Bool.eq_iff_iff, beq_iff_eq, beq_iff_eq]
    exact h.hyphen hb
  | true => rfl

theorem behind_hyphen : startsIdent ('-' :: r) = (b.isWord || b.mark? == some '-') := by
  rw [startsIdent_behind_hyphen, h.word]
  cases hb : b.isWord with
  | false =>
    congr 1
    rw [Bool.eq_iff_iff, beq_iff_eq, beq_iff_eq]
    exact h.hyphen hb
  | true => rfl

theorem head_ne (hc : isTelling c = true) : r.head? ≠ some c ↔ b.mark? ≠ some c :=
  not_congr (h.mark c hc)

end Seen

/-! ## Where neighbours part -/

theorem Alone.congr (hc : c ≠ '\\') (h : Seen b r) (h' : Seen b r') (ha : Alone c r) :
    Alone c r' where
  ident := by
    by_cases hhyphen : c = '-'
    · subst hhyphen
      rw [h'.behind_hyphen, ← h.behind_hyphen]
      exact ha.ident
    · exact startsIdent_of_head (isNameStart_of_not_startsIdent (by rw [ha.ident]; decide))
        ⟨hhyphen, hc⟩
  number := by
    have hnumber := congrArg Option.isSome ha.number
    rw [isSome_behind, h.digit, h.point, ← h'.digit, ← h'.point, ← isSome_behind] at hnumber
    exact Option.not_isSome_iff_eq_none.1 (by rw [hnumber]; decide)
  keyword := fun hat => by
    rw [h'.word, ← h.word]
    exact ha.keyword hat
  hash := fun hhash => by
    rw [h'.name, ← h.name]
    exact ha.hash hhash
  comment := fun hslash => (h'.head_ne rfl).2 ((h.head_ne rfl).1 (ha.comment hslash))
  column := fun hbar => (h'.head_ne rfl).2 ((h.head_ne rfl).1 (ha.column hbar))
  equal := fun hmark => (h'.head_ne rfl).2 ((h.head_ne rfl).1 (ha.equal hmark))

/-- Whether a lexeme ends can be told from the next one. -/
theorem stops_congr (ha : a.isFirm = true) (h : Seen b r) (h' : Seen b r') (hs : Stops a r) :
    Stops a r' := by
  have hname : startsName r = false → startsName r' = false := fun hr => by
    rw [h'.name, ← h.name]
    exact hr
  cases a with
  | opening | closing | functionHead => trivial
  | leaf l =>
    cases l with
    | whitespace text =>
      have hs : startsSpace r = false := hs
      show startsSpace r' = false
      rw [h'.space, ← h.space, hs]
    | ident n => exact ⟨hname hs.1, (h'.head_ne rfl).2 ((h.head_ne rfl).1 hs.2)⟩
    | atKeyword | hash | dimension => exact hname hs
    | number text =>
      obtain ⟨hident, hpercent, hends⟩ := hs
      refine ⟨?_, (h'.head_ne rfl).2 ((h.head_ne rfl).1 hpercent), ?_⟩
      · rw [h'.word, ← h.word, hident]
      · rw [endsNumber, h'.digit, h'.point, ← h.digit, ← h.point]
        exact hends
    | literal text =>
      rcases text with _ | ⟨c, _ | ⟨d, more⟩⟩
      · trivial
      · have hc : c ≠ '\\' := by
          rintro rfl
          cases ha
        exact Alone.congr hc h h' hs
      · trivial
    | _ => trivial

end Lexer

/-- Whether two lexemes run together when they are written side by side, though their sources did
not. -/
def Lexeme.clash (a b : Lexeme) : Bool :=
  match a with
  | .leaf (.ident name) =>
    (name == Text.ofString "--" && b.mark? == some '>') ||
      ((name == Text.ofString "u" || name == Text.ofString "U") && b.mark? == some '+')
  | .leaf (.literal ['+']) => b.isNumeric && b.mark?.any fun c => Lexer.isDigit c || c == '.'
  | .leaf (.literal ['~']) => b.mark? == some '='
  | .leaf (.literal ['<']) => b.mark? == some '!'
  | .leaf (.unicodeRange ..) => b.isWord || b.isNumeric || b.mark? == some '?'
  | _ => false

/-- A lexeme ends where the other one follows, and is read back there. -/
def Beside (a b : Lexeme) : Prop :=
  ∀ r, Lexer.Seen b r → Stops a r ∧ (a.isFunction = false → Clear a r)

namespace Lexer

theorem startsIdent_of_isNameStart (h : isNameStart c = true) : startsIdent (c :: cs) = true := by
  have hne : c ≠ '-' ∧ c ≠ '\\' := by
    constructor <;> rintro rfl <;> cases h
  rw [startsIdent]
  · exact h
  all_goals simp [hne]

theorem startsHex_cases (h : startsHex cs = true) :
    startsDigit cs = true ∨ startsIdent cs = true := by
  cases cs with
  | nil => cases h
  | cons c cs =>
    have hor := isNameStart_or_isDigit (c := c) h
    rw [Bool.or_eq_true] at hor
    exact hor.symm.imp id startsIdent_of_isNameStart

/-- What starts no word, no number and no question mark does not go on with a range. -/
theorem endsRange_of (hident : startsIdent r = false) (hnumber : numberLength? r = none)
    (hmark : r.head? ≠ some '?') : endsRange r = true := by
  have hhex {cs : List Char} (hi : startsIdent cs = false) (hd : startsDigit cs = false) :
      startsHex cs = false := by
    refine Bool.eq_false_iff.2 fun h => ?_
    rcases startsHex_cases h with h | h
    · rw [hd] at h
      cases h
    · rw [hi] at h
      cases h
  cases r with
  | nil => rfl
  | cons c cs =>
    have hdigit := isDigit_of_numberLength? hnumber
    have htail : ((c :: cs).head? == some '-' && startsHex cs) = false := by
      by_cases hc : c = '-'
      · subst hc
        rw [startsIdent_behind_hyphen, Bool.or_eq_false_iff] at hident
        have hsome := isSome_behind '-' cs
        rw [hnumber, if_pos (.inr rfl)] at hsome
        rw [hhex hident.1 (Bool.or_eq_false_iff.1 hsome.symm).1, Bool.and_false]
      · rw [List.head?_cons, beq_false_of_ne fun h => hc (Option.some.inj h), Bool.false_and]
    have hstart : startsHex (c :: cs) = false := hhex hident hdigit
    rw [endsRange, hstart, List.tail_cons, htail, bne_iff_ne.2 hmark]
    rfl

theorem clear_of_not_clash (h : Seen b r) (hclash : a.clash b = false) (ha : a.isFunction = false) :
    Clear a r := by
  cases a with
  | opening | closing => trivial
  | functionHead => cases ha
  | leaf l =>
    cases l with
    | ident n =>
      simp only [Lexeme.clash, Bool.or_eq_false_iff, Bool.and_eq_false_iff, beq_eq_false_iff_ne]
        at hclash
      refine ⟨fun hn => (h.head_ne rfl).2 (hclash.1.resolve_left (absurd hn)), fun hn => ?_⟩
      exact (h.head_ne rfl).2 (hclash.2.resolve_left fun hne => hn.elim hne.1 hne.2)
    | unicodeRange first last =>
      simp only [Lexeme.clash, Bool.or_eq_false_iff, beq_eq_false_iff_ne] at hclash
      obtain ⟨⟨hword, hnumeric⟩, hmark⟩ := hclash
      refine endsRange_of (h.word.trans hword) ?_ ((h.head_ne rfl).2 hmark)
      exact Option.not_isSome_iff_eq_none.1 (by rw [h.number hword, hnumeric]; decide)
    | literal text =>
      by_cases htext : text = ['<']
      · subst htext
        exact (h.head_ne rfl).2 (beq_eq_false_iff_ne.1 hclash)
      · unfold Clear
        split
        case h_1 heq | h_2 heq | h_4 heq => cases heq
        case h_3 heq => exact absurd (Leaf.literal.inj (Lexeme.leaf.inj heq)) htext
        case h_5 => trivial
    | _ => trivial

theorem beside_of_stops (ha : a.isFirm = true) (h : Seen b r) (hs : Stops a r)
    (hclash : a.clash b = false) : Beside a b :=
  fun _ h' => ⟨stops_congr ha h h' hs, clear_of_not_clash h' hclash⟩

/-- Lexemes before which every other one but white space ends. -/
def isIdle (b : Lexeme) : Bool :=
  !b.isWord && !b.isNumeric &&
    b.mark?.all fun c => !(isDigit c || ['(', '%', '*', '|', '=', '.', '-'].contains c)

theorem isDelimiter_of_isMark (h : IsMark [c]) : isDelimiter c = true := by
  rcases h with h | h | h | ⟨d, -, h⟩ | ⟨d, h, hd, -⟩
  · cases h
  · cases h
  · cases h
  · cases h
  · obtain rfl := (List.cons.inj h).1
    exact hd

theorem stops_of_isIdle (hg : a.Granted) (hf : a.isFirm = true) (hb : isIdle b = true)
    (hspace : a.isSpace = false ∨ b.isSpace = false) (h : Seen b r) : Stops a r := by
  simp only [isIdle, Bool.and_eq_true, Bool.not_eq_true', Option.all_eq_true] at hb
  obtain ⟨⟨hword, hnumeric⟩, hmark⟩ := hb
  have hdigit : startsDigit r = false := by
    rw [h.digit]
    refine Bool.eq_false_iff.2 fun hany => ?_
    obtain ⟨c, hc, hd⟩ := (Option.any_eq_true ..).1 hany
    have := hmark c hc
    rw [hd] at this
    cases this
  have hne {c : Char} (hc : ['(', '%', '*', '|', '=', '.', '-'].contains c = true) :
      b.mark? ≠ some c := fun hm => by
    have := hmark c hm
    rw [hc, Bool.or_true] at this
    cases this
  have hhyphen : (b.mark? == some '-') = false := beq_false_of_ne (hne rfl)
  have hpoint : startsPoint r = false := by
    rw [h.point, beq_false_of_ne (hne rfl), Bool.false_and]
  have hname : startsName r = false := by
    rw [h.name, hword, ← h.digit, hdigit, hhyphen]
    rfl
  cases a with
  | opening | closing | functionHead => trivial
  | leaf l =>
    cases l with
    | whitespace text =>
      have htext : (Lexeme.leaf (.whitespace text)).isSpace = true := rfl
      exact h.space.trans (hspace.resolve_left (by rw [htext]; decide))
    | ident n => exact ⟨hname, (h.head_ne rfl).2 (hne rfl)⟩
    | atKeyword | hash | dimension => exact hname
    | number text =>
      refine ⟨h.word.trans hword, (h.head_ne rfl).2 (hne rfl), ?_⟩
      rw [endsNumber, hdigit, hpoint, Bool.and_false]
      rfl
    | literal text =>
      rcases text with _ | ⟨c, _ | ⟨d, more⟩⟩
      · trivial
      · have hc : c ≠ '\\' := by
          rintro rfl
          cases hf
        have hdelimiter := isDelimiter_of_isMark hg
        simp only [isDelimiter, Bool.and_eq_true, Bool.not_eq_true'] at hdelimiter
        obtain ⟨⟨⟨⟨⟨⟨-, hstart⟩, hcdigit⟩, -⟩, -⟩, -⟩, -⟩ := hdelimiter
        have hsome : (numberLength? (c :: r)).isSome = false := by
          rw [isSome_behind, hdigit, hpoint, hcdigit, Bool.and_false]
          split <;> rfl
        refine ⟨?_, Option.not_isSome_iff_eq_none.1 (by rw [hsome]; decide),
          fun _ => h.word.trans hword, fun _ => hname, fun _ => (h.head_ne rfl).2 (hne rfl),
          fun _ => (h.head_ne rfl).2 (hne rfl), fun _ => (h.head_ne rfl).2 (hne rfl)⟩
        by_cases hsign : c = '-'
        · rw [hsign, h.behind_hyphen, hword, hhyphen]
          rfl
        · exact startsIdent_of_head hstart ⟨hsign, hc⟩
      · trivial
    | _ => trivial

theorem beside_of_isIdle (hg : a.Granted) (hf : a.isFirm = true) (hb : isIdle b = true)
    (hspace : a.isSpace = false ∨ b.isSpace = false) (hclash : a.clash b = false) : Beside a b :=
  fun _ h => ⟨stops_of_isIdle hg hf hb hspace h, clear_of_not_clash h hclash⟩

/-- Lexemes before which every other one but white space ends, and that clash with none. -/
def isQuiet (b : Lexeme) : Bool :=
  !b.isWord && !b.isNumeric && b.mark?.all fun c => !isTelling c && c != '-'

theorem isIdle_of_isQuiet (hb : isQuiet b = true) : isIdle b = true := by
  simp only [isQuiet, isIdle, Bool.and_eq_true, Option.all_eq_true] at hb ⊢
  refine ⟨hb.1, fun c hc => ?_⟩
  obtain ⟨htelling, hhyphen⟩ := hb.2 c hc
  simp only [isTelling, List.contains_cons, Bool.not_eq_true', Bool.or_eq_false_iff, bne_iff_ne]
    at htelling hhyphen ⊢
  simp [htelling, hhyphen]

theorem clash_of_isQuiet (hb : isQuiet b = true) (a : Lexeme) : a.clash b = false := by
  simp only [isQuiet, Bool.and_eq_true, Bool.not_eq_true', Option.all_eq_true] at hb
  obtain ⟨⟨hword, hnumeric⟩, hmark⟩ := hb
  have hne {c : Char} (hc : isTelling c = true) : (b.mark? == some c) = false :=
    beq_false_of_ne fun h => by
      have htelling := (hmark c h).1
      rw [hc] at htelling
      cases htelling
  unfold Lexeme.clash
  split
  · rw [hne rfl, hne rfl, Bool.and_false, Bool.and_false]
    rfl
  · rw [hnumeric, Bool.false_and]
  · exact hne rfl
  · exact hne rfl
  · rw [hword, hnumeric, hne rfl]
    rfl
  · rfl

theorem beside_of_isQuiet (hg : a.Granted) (hf : a.isFirm = true) (hb : isQuiet b = true)
    (hspace : a.isSpace = false ∨ b.isSpace = false) : Beside a b :=
  beside_of_isIdle hg hf (isIdle_of_isQuiet hb) hspace (clash_of_isQuiet hb a)

/-- Lexemes with an end of their own. -/
def hasEnd (a : Lexeme) : Bool :=
  match a with
  | .leaf (.comment _) | .opening _ | .closing _ | .functionHead _ => true
  | _ => false

theorem beside_of_hasEnd (ha : hasEnd a = true) (b : Lexeme) : Beside a b := by
  intro r _
  cases a with
  | leaf l =>
    cases l with
    | comment => exact ⟨trivial, fun _ => trivial⟩
    | _ => cases ha
  | opening | closing => exact ⟨trivial, fun _ => trivial⟩
  | functionHead => exact ⟨trivial, fun h => by cases h⟩

theorem beside_space (hb : b.isSpace = false) (text : List Char) :
    Beside (.leaf (.whitespace text)) b :=
  fun _ h => ⟨h.space.trans hb, fun _ => trivial⟩

theorem isNumeric_of_startsDigit (h : Seen b r) (hr : startsDigit r = true) :
    b.isNumeric = true := by
  cases r with
  | nil => cases hr
  | cons c cs =>
    have hdigit : isDigit c = true := hr
    have hsign := ne_sign_of_isDigit hdigit
    have hword : b.isWord = false := by
      rw [← h.word]
      refine startsIdent_of_head (isNameStart_of_isDigit hdigit) ⟨hsign.2.1, ?_⟩
      rintro rfl
      cases hdigit
    rw [← h.number hword, isSome_behind, if_neg (not_or.2 ⟨hsign.1, hsign.2.1⟩), hdigit]
    rfl

/-- Delimiters that go together with no word and with few marks. -/
theorem beside_delimiter (hc : c ∈ [',', ';', ':', '>', '+', '~'])
    (hclash : (Lexeme.leaf (.literal [c])).clash b = false) : Beside (.leaf (.literal [c])) b := by
  refine fun r h => ⟨?_, clear_of_not_clash h hclash⟩
  obtain ⟨hstart, hdigit, hhyphen, hescape, hpoint, hat, hhash, hslash, hbar, hequal⟩ :
      isNameStart c = false ∧ isDigit c = false ∧ c ≠ '-' ∧ c ≠ '\\' ∧ c ≠ '.' ∧ c ≠ '@' ∧
        c ≠ '#' ∧ c ≠ '/' ∧ c ≠ '|' ∧ (['~', '|', '^', '$', '*'].contains c = true → c = '~') := by
    simp only [List.mem_cons, List.not_mem_nil, or_false] at hc
    rcases hc with rfl | rfl | rfl | rfl | rfl | rfl <;> decide
  have hnumber : (numberLength? (c :: r)).isSome = false := by
    rw [isSome_behind]
    by_cases hplus : c = '+'
    · subst hplus
      have hclash : (b.isNumeric && b.mark?.any fun c => isDigit c || c == '.') = false := hclash
      have hdigits : startsDigit r = false := Bool.eq_false_iff.2 fun hd => by
        have hmark := hd
        rw [h.digit, Option.any_eq_true] at hmark
        obtain ⟨d, hd', hdigit⟩ := hmark
        rw [isNumeric_of_startsDigit h hd, hd', Option.any_some, hdigit] at hclash
        cases hclash
      have hpoints : startsPoint r = false := by
        rw [h.point]
        refine Bool.eq_false_iff.2 fun hp => ?_
        obtain ⟨hmark, hnumeric⟩ := Bool.and_eq_true_iff.1 hp
        rw [hnumeric, beq_iff_eq.1 hmark] at hclash
        cases hclash
      rw [if_pos (.inl rfl), hdigits, hpoints]
      rfl
    · rw [if_neg (not_or.2 ⟨hplus, hhyphen⟩), hdigit, beq_false_of_ne hpoint]
      rfl
  exact ⟨startsIdent_of_head hstart ⟨hhyphen, hescape⟩,
    Option.not_isSome_iff_eq_none.1 (by rw [hnumber]; decide), fun h => absurd h hat,
    fun h => absurd h hhash, fun h => absurd h hslash, fun h => absurd h hbar, fun hmark => by
      obtain rfl := hequal hmark
      exact (h.head_ne rfl).2 (beq_eq_false_iff_ne.1 hclash)⟩

/-! ## Texts -/

variable {xs ys : List Lexeme}

/-- A string stands next, behind white space at most. -/
def startsQuoted : List Lexeme → Bool
  | .leaf (.whitespace _) :: x :: _ => x.isString
  | x :: _ => x.isString
  | [] => false

/-- Every function head `url` has a string behind it. -/
def urlsQuoted : List Lexeme → Bool
  | [] => true
  | .functionHead name :: rest =>
    (asciiLower name != Text.ofString "url" || startsQuoted rest) && urlsQuoted rest
  | _ :: rest => urlsQuoted rest

theorem urlsQuoted_cons (hx : x.isFunction = false) : urlsQuoted (x :: xs) = urlsQuoted xs := by
  cases x with
  | functionHead => cases hx
  | _ => rfl

/-- The first lexeme of a text, in normal form, tells how the text starts. -/
theorem seen_bare (hn : Normal cs) (h : bare cs = .ok (b :: xs)) : Seen b cs := by
  cases cs with
  | nil =>
    rw [bare_nil] at h
    cases h
  | cons c rest =>
    obtain ⟨out, n, ys, hstep, -, hxs⟩ := bare_cons_inv h
    cases out with
    | nil =>
      rcases (lexed_step hn hstep).single with ⟨x, hx⟩ | ⟨x, hx, -⟩ <;> cases hx
    | cons x out =>
      obtain ⟨rfl, -⟩ := List.cons.inj hxs
      exact seen_step hstep

theorem eq_nil_of_bare (hn : Normal cs) (h : bare cs = .ok []) : cs = [] := by
  cases cs with
  | nil => rfl
  | cons c rest =>
    obtain ⟨out, n, ys, hstep, -, hxs⟩ := bare_cons_inv h
    obtain rfl := (List.append_eq_nil_iff.1 hxs.symm).1
    rcases (lexed_step hn hstep).single with ⟨x, hx⟩ | ⟨x, hx, -⟩ <;> cases hx

theorem startsQuoted_iff (hn : Normal cs) (h : bare cs = .ok xs) : startsQuoted xs = true ↔
    ∃ q, (cs.dropWhile isSpace).head? = some q ∧ (q = '"' ∨ q = '\x27') := by
  obtain ⟨gap, ys, hgap, rfl, hys⟩ := bare_dropWhile h
  have hn' : Normal (cs.dropWhile isSpace) := fun c hc => hn c ((List.dropWhile_sublist _).mem hc)
  cases ys with
  | nil =>
    rw [eq_nil_of_bare hn' hys]
    refine iff_of_false ?_ (by simp)
    rcases hgap with rfl | ⟨w, rfl⟩ <;> exact Bool.false_ne_true
  | cons y ys =>
    have hseen := seen_bare hn' hys
    rw [hseen.quote]
    rcases hgap with rfl | ⟨w, rfl⟩
    · have hspace : y.isSpace = false := by
        rw [← hseen.space]
        exact any_head?_dropWhile cs
      cases y with
      | leaf l =>
        cases l with
        | whitespace => cases hspace
        | _ => rfl
      | _ => rfl
    · rfl

theorem bare_single (hn : Normal (c :: rest)) (h : bare (c :: rest) = .ok xs)
    (hf : ∀ x ∈ xs, x.isFirm = true) : ∃ x ys n, xs = x :: ys ∧ step c rest = .ok ([x], n) ∧
      bare (rest.drop n) = .ok ys := by
  obtain ⟨out, n, ys, hstep, hys, rfl⟩ := bare_cons_inv h
  rcases (lexed_step hn hstep).single with ⟨x, rfl⟩ | ⟨x, hx, hfirm⟩
  · exact ⟨x, ys, n, rfl, hstep, hys⟩
  · have := hf x (List.mem_append_left ys hx)
    rw [hfirm] at this
    cases this

/-- Firm lexemes of a text stand side by side, if they do not clash. -/
theorem beside_of_bare (hn : Normal cs) (h : bare cs = .ok xs) (hf : ∀ x ∈ xs, x.isFirm = true)
    (hclash : xs.IsChain fun a b => a.clash b = false) :
    (∀ x ∈ xs, x.Granted) ∧ xs.IsChain Beside ∧ urlsQuoted xs = true := by
  induction xs generalizing cs with
  | nil => exact ⟨List.forall_mem_nil _, .nil, rfl⟩
  | cons x xs ih =>
    cases cs with
    | nil =>
      rw [bare_nil] at h
      cases h
    | cons c rest =>
      obtain ⟨y, ys, n, heq, hstep, hys⟩ := bare_single hn h hf
      obtain ⟨rfl, rfl⟩ := List.cons.inj heq
      have hlexed := lexed_step hn hstep
      have hrest : Normal (rest.drop n) := (normal_cons.1 hn).2.drop n
      obtain ⟨hfx, hfxs⟩ := List.forall_mem_cons.1 hf
      obtain ⟨hgranted, hchain, hquoted⟩ := ih hrest hys hfxs hclash.tail
      refine ⟨List.forall_mem_cons.2 ⟨hlexed.granted x List.mem_cons_self, hgranted⟩,
        List.isChain_cons.2 ⟨fun b hb => ?_, hchain⟩, ?_⟩
      · obtain ⟨more, rfl⟩ := List.head?_eq_some_iff.1 hb
        exact beside_of_stops hfx (seen_bare hrest hys) (hlexed.stops x rfl) (hclash.rel_head? hb)
      · cases x with
        | functionHead name =>
          have hclear := hlexed.quoted name rfl
          rw [urlsQuoted, hquoted, Bool.and_true, Bool.or_eq_true, bne_iff_ne]
          by_cases hurl : asciiLower name = Text.ofString "url"
          · exact .inr ((startsQuoted_iff hrest hys).2 (hclear hurl))
          · exact .inl hurl
        | _ => exact hquoted

/-- Where a text ends, nothing goes on with a lexeme, as before the mark of a broken end. -/
theorem seen_end : Seen (.leaf (.fault .eofInString)) [] where
  space := rfl
  word := rfl
  mark := fun _ _ => Iff.rfl
  hyphen := fun _ => Iff.rfl
  number := fun _ => rfl
  quote := iff_of_false (by simp) Bool.false_ne_true

/-- Lexemes side by side are read back from what is written of them. -/
theorem bare_written (hkept : ∀ x ∈ xs, x.Granted ∧ x.isFirm = true ∧ x.written.isPlain = true)
    (hchain : xs.IsChain Beside) (hquoted : urlsQuoted xs = true) :
    ∃ text, xs.flatMap Lexeme.written = Text.ofChars text ∧ Normal text ∧ bare text = .ok xs := by
  induction xs with
  | nil => exact ⟨[], rfl, List.forall_mem_nil _, bare_nil⟩
  | cons x xs ih =>
    obtain ⟨⟨hg, hf, hp⟩, hxs⟩ := List.forall_mem_cons.1 hkept
    have hquoted' : urlsQuoted xs = true := by
      cases x with
      | functionHead name => exact (Bool.and_eq_true_iff.1 hquoted).2
      | _ => exact hquoted
    obtain ⟨more, hmore, hnormal, hbare⟩ := ih hxs hchain.tail hquoted'
    obtain ⟨text, htext, hnormal', c, cs, rfl, hstep⟩ := exists_restores hg hf hp
    have hparts : Stops x more ∧ Clear x more := by
      have hclear (h : x.isFunction = false → Clear x more) : Clear x more := by
        cases x with
        | functionHead name =>
          intro hurl
          have hor := (Bool.and_eq_true_iff.1 hquoted).1
          rw [Bool.or_eq_true, bne_iff_ne] at hor
          exact (startsQuoted_iff hnormal hbare).1 (hor.resolve_left (absurd hurl))
        | _ => exact h rfl
      cases xs with
      | nil =>
        obtain rfl : more = [] := List.map_eq_nil_iff.1 hmore.symm
        have hside := beside_of_isQuiet hg hf rfl (.inr rfl) [] seen_end
        exact ⟨hside.1, hclear hside.2⟩
      | cons y ys =>
        have hside := (List.isChain_cons.1 hchain).1 y rfl more (seen_bare hnormal hbare)
        exact ⟨hside.1, hclear hside.2⟩
    refine ⟨c :: cs ++ more, ?_, List.forall_mem_append.2 ⟨hnormal', hnormal⟩, ?_⟩
    · rw [List.flatMap_cons, htext, hmore, Text.ofChars_append]
    · rw [List.cons_append, bare_cons (hstep more hparts.1 hparts.2), List.drop_left, hbare]
      rfl

end Lexer

end StylePrune.Css
