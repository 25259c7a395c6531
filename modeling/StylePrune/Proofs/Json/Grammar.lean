import StylePrune.Json.Parser

/-!
# The grammar of JSON

`Value`, `Items` and `Members` say which texts are written for which values, in the standard form of
JSON or in the one that is read (`Dialect`): the reader also knows the numbers that are none, and
refuses long integers. What is read as a number or a word is one of the grammar (`number?_sound`,
`word?_sound`), and those of the grammar are read (`Number.number?`, `word?_append`).
-/

namespace StylePrune.Json

/-! ## The grammar -/

/-- What differs from one form of JSON to another: the words that are values, and the greatest
number of digits of an integer, if there is one. -/
structure Dialect where
  words : List (String × Json)
  longest : Option Nat

namespace Dialect

/-- JSON as it is read. -/
def read : Dialect := ⟨Json.words, some Decimal.maxDigits⟩

end Dialect

/-- Blanks lead from one place of a text to another. -/
def Blanks (cs rest : List Char) : Prop :=
  ∃ blank, (∀ c ∈ blank, isSpace c = true) ∧ cs = blank ++ rest

def Digits (ds : List Char) : Prop := ds ≠ [] ∧ ∀ c ∈ ds, isDigit c = true

/-- The whole part of a number has no zero in front. -/
structure IsWhole (ds : List Char) : Prop where
  digits : Digits ds
  zero : ds.head? = some '0' → ds = ['0']

def signOf (negative : Bool) : List Char := if negative then ['-'] else []

/-- The exponent of a number: an optional sign and digits. -/
inductive IsExponent : List Char → Prop where
  | digits {ds : List Char} (h : Digits ds) : IsExponent ds
  | signed {s : Char} {ds : List Char} (hs : s = '+' ∨ s = '-') (h : Digits ds) :
      IsExponent (s :: ds)

/-- What makes a number no integer, with the digits of its fraction and its exponent. -/
inductive IsTail : List Char → (fraction exponent : List Char) → Prop where
  | fraction {ds : List Char} (h : Digits ds) : IsTail ('.' :: ds) ds []
  | exponent {e : Char} {cs : List Char} (he : e = 'e' ∨ e = 'E') (h : IsExponent cs) :
      IsTail (e :: cs) [] cs
  | both {ds cs : List Char} {e : Char} (hds : Digits ds) (he : e = 'e' ∨ e = 'E')
      (h : IsExponent cs) : IsTail ('.' :: (ds ++ e :: cs)) ds cs

inductive Number (d : Dialect) : List Char → Json → Prop where
  | int (negative : Bool) {whole : List Char} (h : IsWhole whole)
      (hshort : ∀ n ∈ d.longest, whole.length ≤ n) :
      Number d (signOf negative ++ whole)
        (.int (if negative then -Int.ofNat (natOf whole) else Int.ofNat (natOf whole)))
  | float (negative : Bool) {whole tail fraction exponent : List Char} {f : Float}
      (h : IsWhole whole) (htail : IsTail tail fraction exponent)
      (hf : f = Decimal.ofDigits (natOf (whole ++ fraction))
        (exponentOf exponent - Int.ofNat fraction.length)) :
      Number d (signOf negative ++ (whole ++ tail)) (.float (if negative then -f else f))

/-- Four hexadecimal digits and their number. -/
inductive HexUnit : List Char → Nat → Prop where
  | intro {a b c d : Char} {i j k l : Nat} (ha : hexValue? a = some i) (hb : hexValue? b = some j)
      (hc : hexValue? c = some k) (hd : hexValue? d = some l) :
      HexUnit [a, b, c, d] (i * 4096 + j * 256 + k * 16 + l)

def IsHigh (n : Nat) : Prop := 0xD800 ≤ n ∧ n < 0xDC00

def IsLow (n : Nat) : Prop := 0xDC00 ≤ n ∧ n < 0xE000

/-- Whether a text goes on with the escape of a low surrogate. -/
def StartsLow (raw : List Char) : Prop :=
  ∃ low n more, HexUnit low n ∧ IsLow n ∧ raw = '\\' :: 'u' :: (low ++ more)

/-- What stands between the quotes of a string, and the text that it means. -/
inductive StringBody : List Char → Text → Prop where
  | nil : StringBody [] []
  | plain {c : Char} {raw : List Char} {t : Text} (hquote : c ≠ '"') (hescape : c ≠ '\\')
      (hcontrol : 0x1F < c.toNat) (h : StringBody raw t) : StringBody (c :: raw) (.char c :: t)
  | simple {e c : Char} {raw : List Char} {t : Text} (he : simpleEscape? e = some c)
      (h : StringBody raw t) : StringBody ('\\' :: e :: raw) (.char c :: t)
  | pair {high low raw : List Char} {m n : Nat} {t : Text} (hhigh : HexUnit high m)
      (hm : IsHigh m) (hlow : HexUnit low n) (hn : IsLow n) (h : StringBody raw t) :
      StringBody ('\\' :: 'u' :: (high ++ '\\' :: 'u' :: (low ++ raw)))
        (.ofCode (0x10000 + (m - 0xD800) * 0x400 + (n - 0xDC00)) :: t)
  | unit {ds raw : List Char} {n : Nat} {t : Text} (hds : HexUnit ds n)
      (hn : IsHigh n → ¬ StartsLow raw) (h : StringBody raw t) :
      StringBody ('\\' :: 'u' :: (ds ++ raw)) (.ofCode n :: t)

/-- Sets members as they are written: a name that is written twice has its last value in its first
place. -/
def setMembers (read : List (String × Json)) (members : List (Text × Json)) :
    List (String × Json) :=
  members.foldl (fun read m => setMember read (nameOf m.1) m.2) read

mutual

/-- A text starts with a value, and the rest follows it. -/
inductive Value (d : Dialect) : List Char → Json → List Char → Prop where
  | word {w : String} {v : Json} {rest : List Char} (h : (w, v) ∈ d.words) :
      Value d (w.toList ++ rest) v rest
  | number {text rest : List Char} {v : Json} (h : Number d text v) : Value d (text ++ rest) v rest
  | string {raw rest : List Char} {t : Text} (h : StringBody raw t) :
      Value d ('"' :: (raw ++ '"' :: rest)) (ofText t) rest
  | noItems {cs rest : List Char} (h : Blanks cs (']' :: rest)) : Value d ('[' :: cs) (.arr []) rest
  | items {cs start rest : List Char} {vs : List Json} (hblanks : Blanks cs start)
      (h : Items d start vs rest) : Value d ('[' :: cs) (.arr vs) rest
  | noMembers {cs rest : List Char} (h : Blanks cs ('\x7d' :: rest)) :
      Value d ('\x7b' :: cs) (.obj []) rest
  | members {cs start rest : List Char} {ms : List (Text × Json)} (hblanks : Blanks cs start)
      (h : Members d start ms rest) : Value d ('\x7b' :: cs) (.obj (setMembers [] ms)) rest

/-- A text starts with items and the bracket behind them. -/
inductive Items (d : Dialect) : List Char → List Json → List Char → Prop where
  | last {cs after rest : List Char} {v : Json} (h : Value d cs v after)
      (hend : Blanks after (']' :: rest)) : Items d cs [v] rest
  | more {cs after next start rest : List Char} {v : Json} {vs : List Json} (h : Value d cs v after)
      (hcomma : Blanks after (',' :: next)) (hblanks : Blanks next start)
      (hmore : Items d start vs rest) : Items d cs (v :: vs) rest

/-- A text starts with members and the brace behind them. -/
inductive Members (d : Dialect) : List Char → List (Text × Json) → List Char → Prop where
  | last {raw colon next start after rest : List Char} {t : Text} {v : Json}
      (hname : StringBody raw t) (hcolon : Blanks colon (':' :: next)) (hblanks : Blanks next start)
      (h : Value d start v after) (hend : Blanks after ('\x7d' :: rest)) :
      Members d ('"' :: (raw ++ '"' :: colon)) [(t, v)] rest
  | more {raw colon next start after next' start' rest : List Char} {t : Text} {v : Json}
      {ms : List (Text × Json)} (hname : StringBody raw t) (hcolon : Blanks colon (':' :: next))
      (hblanks : Blanks next start) (h : Value d start v after)
      (hcomma : Blanks after (',' :: next')) (hblanks' : Blanks next' start')
      (hmore : Members d start' ms rest) :
      Members d ('"' :: (raw ++ '"' :: colon)) ((t, v) :: ms) rest

end

/-- A text that holds one value, and blanks around it. -/
def Document (d : Dialect) (text : List Char) (v : Json) : Prop :=
  ∃ start after, Blanks text start ∧ Value d start v after ∧ Blanks after []

/-! ## Blanks -/

theorem skipSpace_append {blank : List Char} (h : ∀ c ∈ blank, isSpace c = true)
    (cs : List Char) : skipSpace (blank ++ cs) = skipSpace cs := by
  rw [skipSpace, List.dropWhile_append_of_pos h, skipSpace]

theorem skipSpace_cons {c : Char} (h : isSpace c = false) (cs : List Char) :
    skipSpace (c :: cs) = c :: cs := by
  rw [skipSpace, List.dropWhile_cons_of_neg (by rw [h]; decide)]

theorem blanks_skipSpace (cs : List Char) : Blanks cs (skipSpace cs) :=
  ⟨cs.takeWhile isSpace, List.all_eq_true.1 List.all_takeWhile,
    List.takeWhile_append_dropWhile.symm⟩

theorem skipSpace_eq {cs rest : List Char} {c : Char} (h : Blanks cs (c :: rest))
    (hc : isSpace c = false) : skipSpace cs = c :: rest := by
  obtain ⟨blank, hblank, rfl⟩ := h
  rw [skipSpace_append hblank, skipSpace_cons hc]

theorem Blanks.refl (cs : List Char) : Blanks cs cs := ⟨[], fun _ h => (by cases h), rfl⟩

theorem blanks_space (cs : List Char) : Blanks (' ' :: cs) cs :=
  ⟨[' '], List.forall_mem_singleton.2 rfl, rfl⟩

theorem Blanks.length_le {cs rest : List Char} (h : Blanks cs rest) : rest.length ≤ cs.length := by
  obtain ⟨blank, -, rfl⟩ := h
  rw [List.length_append]
  exact Nat.le_add_left _ _

/-- What follows a value: nothing that would make a number longer. -/
def Stops (rest : List Char) : Prop :=
  ∀ c ∈ rest.head?, isSpace c = true ∨ c = ',' ∨ c = ']' ∨ c = '\x7d'

theorem stops_of_blanks {cs rest : List Char} (h : Blanks cs rest) (hrest : Stops rest) :
    Stops cs := by
  obtain ⟨blank, hblank, rfl⟩ := h
  cases blank with
  | nil => exact hrest
  | cons c blank =>
    intro d hd
    obtain rfl := Option.some.inj hd
    exact .inl (hblank c (.head _))

theorem Stops.cons {c : Char} (h : c = ',' ∨ c = ']' ∨ c = '\x7d') (rest : List Char) :
    Stops (c :: rest) := fun d hd => by
  obtain rfl := Option.some.inj hd
  exact .inr h

theorem Stops.nil : Stops [] := fun _ h => by cases h

/-- No character that a number goes on with follows a value. -/
theorem Stops.plain {rest : List Char} (h : Stops rest) : ∀ c ∈ rest.head?,
    isDigit c = false ∧ c ≠ '.' ∧ (c = 'e' || c = 'E') = false := by
  intro c hc
  rcases h c hc with hspace | rfl | rfl | rfl
  · simp only [isSpace, Bool.or_eq_true, decide_eq_true_eq] at hspace
    rcases hspace with ((rfl | rfl) | rfl) | rfl <;> decide
  all_goals decide

theorem ne_of_isDigit {c d : Char} (hc : isDigit c = true) (hd : isDigit d = false) : c ≠ d := by
  rintro rfl
  rw [hd] at hc
  cases hc

theorem isSpace_of_isDigit {c : Char} (hc : isDigit c = true) : isSpace c = false := by
  rw [Bool.eq_false_iff]
  intro hspace
  simp only [isSpace, Bool.or_eq_true, decide_eq_true_eq] at hspace
  rcases hspace with ((rfl | rfl) | rfl) | rfl <;> cases hc

/-! ## Numbers -/

section numbers

variable {cs rest ds : List Char}

/-- The sign of a number, and the text behind it. -/
def signPart (cs : List Char) : Bool × List Char :=
  match cs with
  | '-' :: rest => (true, rest)
  | _ => (false, cs)

def wholePart (cs : List Char) : List Char :=
  match cs with
  | '0' :: _ => ['0']
  | _ => cs.takeWhile isDigit

def fractionPart (cs : List Char) : List Char :=
  match cs with
  | '.' :: more => more.takeWhile isDigit
  | _ => []

def powerPart (cs : List Char) : List Char :=
  match cs with
  | e :: more => if e = 'e' || e = 'E' then exponentPart more else []
  | [] => []

/-- The text behind a part of a number that a mark introduces. -/
def behind (part cs : List Char) : List Char :=
  if part.isEmpty then cs else cs.drop (part.length + 1)

theorem number?_eq (cs : List Char) : number? cs =
    if (wholePart (signPart cs).2).isEmpty then none
    else
      let whole := wholePart (signPart cs).2
      let rest := (signPart cs).2.drop whole.length
      let fraction := fractionPart rest
      let exponent := powerPart (behind fraction rest)
      if fraction.isEmpty && exponent.isEmpty then
        if Decimal.maxDigits < whole.length then some (.error (.integerTooLong whole.length))
        else some (.ok (.int (if (signPart cs).1 then -Int.ofNat (natOf whole)
          else Int.ofNat (natOf whole)), behind exponent (behind fraction rest)))
      else
        let f := Decimal.ofDigits (natOf (whole ++ fraction))
          (exponentOf exponent - Int.ofNat fraction.length)
        some (.ok (.float (if (signPart cs).1 then -f else f),
          behind exponent (behind fraction rest))) := rfl

/-- A run of digits ends where a text starts that is none. -/
def NoDigit (rest : List Char) : Prop := ∀ c ∈ rest.head?, isDigit c = false

theorem takeWhile_run (hds : ∀ c ∈ ds, isDigit c = true) (hrest : NoDigit rest) :
    (ds ++ rest).takeWhile isDigit = ds := by
  rw [List.takeWhile_append_of_pos hds]
  cases rest with
  | nil => exact List.append_nil ds
  | cons c rest => rw [List.takeWhile_cons_of_neg (by simp [hrest c rfl]), List.append_nil]

theorem digits_takeWhile (h : cs.takeWhile isDigit ≠ []) : Digits (cs.takeWhile isDigit) :=
  ⟨h, List.all_eq_true.1 List.all_takeWhile⟩

theorem eq_append_drop {part : List Char} (h : part <+: cs) : cs = part ++ cs.drop part.length :=
  (List.prefix_iff_eq_append.1 h).symm

theorem signPart_eq (cs : List Char) : cs = signOf (signPart cs).1 ++ (signPart cs).2 := by
  unfold signPart
  split <;> rfl

theorem wholePart_sound (h : wholePart cs ≠ []) :
    IsWhole (wholePart cs) ∧ wholePart cs <+: cs := by
  unfold wholePart at h ⊢
  split at h
  · exact ⟨⟨⟨h, List.forall_mem_singleton.2 rfl⟩, fun _ => rfl⟩, List.prefix_append ['0'] _⟩
  · rename_i hzero
    refine ⟨⟨digits_takeWhile h, fun hhead => ?_⟩, List.takeWhile_prefix _⟩
    cases cs with
    | nil => exact absurd rfl h
    | cons c rest =>
      rw [List.takeWhile_cons] at hhead
      split at hhead
      · obtain rfl := Option.some.inj hhead
        exact absurd rfl (hzero rest)
      · cases hhead

theorem fractionPart_sound (cs : List Char) : fractionPart cs = [] ∨
    Digits (fractionPart cs) ∧ cs = '.' :: (fractionPart cs ++ behind (fractionPart cs) cs) := by
  by_cases h : fractionPart cs = []
  · exact .inl h
  refine .inr ?_
  rw [behind, if_neg (by simpa using h)]
  unfold fractionPart at h ⊢
  split at h
  · refine ⟨digits_takeWhile h, ?_⟩
    rw [List.drop_succ_cons, ← eq_append_drop (List.takeWhile_prefix _)]
  · exact absurd rfl h

theorem exponentPart_sound (h : exponentPart cs ≠ []) :
    IsExponent (exponentPart cs) ∧ exponentPart cs <+: cs := by
  unfold exponentPart at h ⊢
  split at h
  · rename_i s rest
    split at h
    · rename_i hs
      rw [if_pos hs]
      dsimp only at h ⊢
      split at h
      · exact absurd rfl h
      · rename_i hds
        rw [if_neg hds]
        refine ⟨.signed (by simpa using hs) (digits_takeWhile (by simpa using hds)), ?_⟩
        exact List.cons_prefix_cons.2 ⟨rfl, List.takeWhile_prefix _⟩
    · rename_i hs
      rw [if_neg hs]
      exact ⟨.digits (digits_takeWhile h), List.takeWhile_prefix _⟩
  · exact absurd rfl h

theorem powerPart_sound (cs : List Char) : powerPart cs = [] ∨
    ∃ e, (e = 'e' ∨ e = 'E') ∧ IsExponent (powerPart cs) ∧
      cs = e :: (powerPart cs ++ behind (powerPart cs) cs) := by
  by_cases h : powerPart cs = []
  · exact .inl h
  refine .inr ?_
  rw [behind, if_neg (by simpa using h)]
  unfold powerPart at h ⊢
  split at h
  · rename_i e more
    split at h
    · rename_i he
      obtain ⟨hexponent, hprefix⟩ := exponentPart_sound h
      refine ⟨e, by simpa using he, ?_⟩
      rw [if_pos he, List.drop_succ_cons, ← eq_append_drop hprefix]
      exact ⟨hexponent, rfl⟩
    · exact absurd rfl h
  · exact absurd rfl h

/-- A number that is read is one of the grammar. -/
theorem number?_sound {v : Json} (h : number? cs = some (.ok (v, rest))) :
    ∃ text, cs = text ++ rest ∧ Number .read text v := by
  rw [number?_eq] at h
  split at h
  · cases h
  rename_i hne
  have hne : wholePart (signPart cs).2 ≠ [] := by simpa using hne
  obtain ⟨hwhole, hprefix⟩ := wholePart_sound hne
  have hcs := signPart_eq cs
  rw [eq_append_drop hprefix] at hcs
  dsimp only at h
  generalize wholePart (signPart cs).2 = whole at hwhole hcs h
  generalize (signPart cs).2.drop whole.length = left at hcs h
  have hfraction := fractionPart_sound left
  have hpower := powerPart_sound (behind (fractionPart left) left)
  generalize hf : fractionPart left = fraction at hfraction hpower h
  generalize he : powerPart (behind fraction left) = exponent at hpower h
  split at h
  · rename_i hempty
    rw [Bool.and_eq_true, List.isEmpty_iff, List.isEmpty_iff] at hempty
    obtain ⟨rfl, rfl⟩ := hempty
    split at h
    · cases h
    rename_i hshort
    obtain ⟨rfl, rfl⟩ := Prod.mk.inj (Except.ok.inj (Option.some.inj h))
    refine ⟨signOf (signPart cs).1 ++ whole, ?_, .int _ hwhole fun n hn => ?_⟩
    · rw [List.append_assoc]
      exact hcs
    · obtain rfl := Option.some.inj hn
      exact Nat.le_of_not_lt hshort
  · rename_i hempty
    obtain ⟨rfl, rfl⟩ := Prod.mk.inj (Except.ok.inj (Option.some.inj h))
    have htail : ∃ tail, left = tail ++ behind exponent (behind fraction left) ∧
        IsTail tail fraction exponent := by
      rcases hfraction with rfl | ⟨hds, hleft⟩ <;>
        rcases hpower with rfl | ⟨e, hletter, hexp, hmore⟩
      · exact absurd rfl hempty
      · exact ⟨e :: exponent, hmore, .exponent hletter hexp⟩
      · exact ⟨'.' :: fraction, hleft, .fraction hds⟩
      · refine ⟨'.' :: (fraction ++ e :: exponent), ?_, .both hds hletter hexp⟩
        rw [hmore] at hleft
        simpa using hleft
    obtain ⟨tail, hleft, htail⟩ := htail
    refine ⟨signOf (signPart cs).1 ++ (whole ++ tail), ?_, .float _ hwhole htail rfl⟩
    rw [hleft] at hcs
    simpa using hcs

theorem Digits.exists_cons (h : Digits ds) : ∃ d more, ds = d :: more ∧ isDigit d = true := by
  obtain ⟨d, more, rfl⟩ := List.exists_cons_of_ne_nil h.1
  exact ⟨d, more, rfl, h.2 d (.head _)⟩

theorem signPart_signOf (negative : Bool) {c : Char} (hc : isDigit c = true) (cs : List Char) :
    signPart (signOf negative ++ c :: cs) = (negative, c :: cs) := by
  cases negative with
  | true => rfl
  | false =>
    rw [signOf, if_neg (by decide), List.nil_append, signPart]
    intro rest heq
    exact ne_of_isDigit hc rfl (List.cons.inj heq).1

theorem IsWhole.wholePart (h : IsWhole ds) (hrest : NoDigit rest) :
    wholePart (ds ++ rest) = ds := by
  obtain ⟨d, more, rfl, -⟩ := h.digits.exists_cons
  by_cases hzero : d = '0'
  · subst hzero
    rw [h.zero rfl]
    rfl
  · rw [List.cons_append, Json.wholePart, ← List.cons_append, takeWhile_run h.digits.2 hrest]
    intro tail heq
    exact hzero (List.cons.inj heq).1

theorem fractionPart_none (h : ∀ c ∈ rest.head?, c ≠ '.') : fractionPart rest = [] := by
  unfold fractionPart
  split
  · exact absurd rfl (h '.' rfl)
  · rfl

theorem powerPart_none (h : ∀ c ∈ rest.head?, (c = 'e' || c = 'E') = false) :
    powerPart rest = [] := by
  unfold powerPart
  split
  · rename_i e more
    rw [h e rfl, if_neg (by decide)]
  · rfl

theorem IsExponent.exponentPart (h : IsExponent cs) (hrest : NoDigit rest) :
    exponentPart (cs ++ rest) = cs := by
  cases h with
  | digits h =>
    have hrun := takeWhile_run h.2 hrest
    obtain ⟨d, more, rfl, hd⟩ := h.exists_cons
    have hsign : ¬ (d = '+' || d = '-') = true := by
      simp only [Bool.or_eq_true, decide_eq_true_eq]
      rintro (rfl | rfl) <;> cases hd
    rw [List.cons_append] at hrun ⊢
    rw [Json.exponentPart, if_neg hsign, hrun]
  | @signed s ds hs h =>
    have hsign : (s = '+' || s = '-') = true := by simpa using hs
    rw [List.cons_append, Json.exponentPart, if_pos hsign, takeWhile_run h.2 hrest]
    exact if_neg (by simpa using h.1)

theorem IsExponent.ne_nil (h : IsExponent cs) : cs ≠ [] := by
  cases h with
  | digits h => exact h.1
  | signed _ _ => exact List.cons_ne_nil _ _

theorem IsExponent.powerPart {e : Char} (he : e = 'e' ∨ e = 'E') (h : IsExponent cs)
    (hrest : NoDigit rest) : powerPart (e :: (cs ++ rest)) = cs := by
  rw [Json.powerPart, if_pos (by simpa using he), h.exponentPart hrest]

theorem behind_append {part : List Char} (h : part ≠ []) (mark : Char) (rest : List Char) :
    behind part (mark :: (part ++ rest)) = rest := by
  rw [behind, if_neg (by simpa using h), List.drop_succ_cons, List.drop_left]

/-- The parts of a number behind its whole part, before a text that ends it. -/
structure Parts (text fraction exponent rest : List Char) : Prop where
  noDigit : NoDigit text
  point : fractionPart text = fraction
  letter : powerPart (behind fraction text) = exponent
  left : behind exponent (behind fraction text) = rest

theorem Stops.parts (h : Stops rest) : Parts rest [] [] rest where
  noDigit c hc := (h.plain c hc).1
  point := fractionPart_none fun c hc => (h.plain c hc).2.1
  letter := powerPart_none fun c hc => (h.plain c hc).2.2
  left := rfl

theorem IsTail.parts {tail fraction exponent : List Char} (h : IsTail tail fraction exponent)
    (hrest : Stops rest) : Parts (tail ++ rest) fraction exponent rest := by
  have hdigit := hrest.parts.noDigit
  have hletter : ∀ {e : Char}, e = 'e' ∨ e = 'E' → isDigit e = false ∧ e ≠ '.' := by
    rintro e (rfl | rfl) <;> decide
  have starts : ∀ {e : Char} (more : List Char), e = 'e' ∨ e = 'E' → NoDigit (e :: more) :=
    fun more he c hc => by
      obtain rfl := Option.some.inj hc
      exact (hletter he).1
  cases h with
  | fraction h =>
    have hbehind := behind_append h.1 '.' rest
    refine ⟨fun c hc => ?_, takeWhile_run h.2 hdigit, ?_, ?_⟩
    · obtain rfl := Option.some.inj hc
      rfl
    · rw [List.cons_append, hbehind]
      exact hrest.parts.letter
    · rw [List.cons_append, hbehind]
      rfl
  | @exponent e _ he h =>
    refine ⟨starts _ he, fractionPart_none fun c hc => ?_, h.powerPart he hdigit,
      behind_append h.ne_nil e rest⟩
    obtain rfl := Option.some.inj hc
    exact (hletter he).2
  | @both _ _ e hds he h =>
    have htext : '.' :: (fraction ++ e :: exponent) ++ rest =
        '.' :: (fraction ++ e :: (exponent ++ rest)) := by simp
    have hbehind := behind_append hds.1 '.' (e :: (exponent ++ rest))
    rw [htext]
    refine ⟨fun c hc => ?_, takeWhile_run hds.2 (starts _ he), ?_, ?_⟩
    · obtain rfl := Option.some.inj hc
      rfl
    · rw [hbehind, h.powerPart he hdigit]
    · rw [hbehind, behind_append h.ne_nil]

theorem number?_parts (negative : Bool) {whole text fraction exponent : List Char}
    (hwhole : IsWhole whole) (h : Parts text fraction exponent rest) :
    number? (signOf negative ++ (whole ++ text)) =
      if fraction.isEmpty && exponent.isEmpty then
        if Decimal.maxDigits < whole.length then some (.error (.integerTooLong whole.length))
        else some (.ok (.int (if negative then -Int.ofNat (natOf whole)
          else Int.ofNat (natOf whole)), rest))
      else
        some (.ok (.float (if negative then
            -Decimal.ofDigits (natOf (whole ++ fraction))
              (exponentOf exponent - Int.ofNat fraction.length)
          else Decimal.ofDigits (natOf (whole ++ fraction))
              (exponentOf exponent - Int.ofNat fraction.length)), rest)) := by
  have hsign : signPart (signOf negative ++ (whole ++ text)) = (negative, whole ++ text) := by
    obtain ⟨d, more, rfl, hd⟩ := hwhole.digits.exists_cons
    exact signPart_signOf negative hd _
  rw [number?_eq, hsign]
  dsimp only
  rw [hwhole.wholePart h.noDigit, if_neg (by simpa using hwhole.digits.1), List.drop_left,
    h.point, h.letter, h.left]

/-- A number of the grammar is read, if the text behind it ends it. -/
theorem Number.number? {text : List Char} {v : Json} (h : Number .read text v)
    (hrest : Stops rest) : number? (text ++ rest) = some (.ok (v, rest)) := by
  cases h with
  | @int negative whole hwhole hshort =>
    have hlength : ¬ Decimal.maxDigits < whole.length := Nat.not_lt.2 (hshort _ rfl)
    rw [List.append_assoc, number?_parts negative hwhole hrest.parts, if_pos (by rfl),
      if_neg hlength]
  | @float negative whole tail fraction exponent f hwhole htail hf =>
    have hparts : ¬ (fraction.isEmpty && exponent.isEmpty) = true := by
      rw [Bool.and_eq_true, List.isEmpty_iff, List.isEmpty_iff]
      rintro ⟨rfl, rfl⟩
      cases htail with
      | fraction h => exact h.1 rfl
      | exponent _ h => exact h.ne_nil rfl
      | both h _ _ => exact h.1 rfl
    rw [List.append_assoc, List.append_assoc, number?_parts negative hwhole (htail.parts hrest),
      if_neg hparts, ← hf]

/-- A number starts with its sign or with a digit. -/
theorem Number.head {d : Dialect} {text : List Char} {v : Json} (h : Number d text v) :
    ∃ (negative : Bool) (c : Char) (more : List Char),
      text = signOf negative ++ c :: more ∧ isDigit c = true := by
  cases h with
  | int negative h _ =>
    obtain ⟨c, more, rfl, hc⟩ := h.digits.exists_cons
    exact ⟨negative, c, more, rfl, hc⟩
  | float negative h _ _ =>
    obtain ⟨c, more, rfl, hc⟩ := h.digits.exists_cons
    exact ⟨negative, c, _, rfl, hc⟩

end numbers

/-! ## Words -/

theorem word?_sound {cs rest : List Char} {v : Json} (h : word? cs = some (v, rest)) :
    ∃ w, (w, v) ∈ words ∧ cs = w.toList ++ rest := by
  obtain ⟨w, hfound, heq⟩ := Option.map_eq_some_iff.1 h
  obtain ⟨rfl, rfl⟩ := Prod.mk.inj heq
  have hprefix : w.1.toList.isPrefixOf cs = true :=
    List.find?_some (p := fun w : String × Json => w.1.toList.isPrefixOf cs) hfound
  exact ⟨w.1, List.mem_of_find?_eq_some hfound,
    eq_append_drop (List.isPrefixOf_iff_prefix.1 hprefix)⟩

/-- No word is the start of another. -/
theorem word?_append {w : String} {v : Json} (h : (w, v) ∈ words) (rest : List Char) :
    word? (w.toList ++ rest) = some (v, rest) := by
  simp only [words, List.mem_cons, List.not_mem_nil, or_false, Prod.mk.injEq] at h
  rcases h with ⟨rfl, rfl⟩ | ⟨rfl, rfl⟩ | ⟨rfl, rfl⟩ | ⟨rfl, rfl⟩ | ⟨rfl, rfl⟩ | ⟨rfl, rfl⟩ <;> rfl

/-- No word starts as a number does. -/
theorem word?_digit (negative : Bool) {d : Char} (h : isDigit d = true) (rest : List Char) :
    word? (signOf negative ++ d :: rest) = none := by
  have hne {c : Char} (hc : isDigit c = false) : (c == d) = false :=
    beq_eq_false_iff_ne.2 (ne_of_isDigit h hc).symm
  cases negative <;>
    simp [word?, words, signOf, List.isPrefixOf, hne (c := 'n') rfl, hne (c := 't') rfl,
      hne (c := 'f') rfl, hne (c := 'N') rfl, hne (c := 'I') rfl, hne (c := '-') rfl]

end StylePrune.Json
