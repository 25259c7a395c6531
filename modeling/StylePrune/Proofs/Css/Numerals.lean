import StylePrune.Proofs.Css.WrittenNames

/-!
# The texts of numbers

A number is a sign, digits, a fraction and an exponent, some of which may be missing (`Numeral`). The
lexer reads a numeral in full whatever follows it, if that does not go on with it
(`numberLength?_append`), and all that it reads as a number is a numeral that ends so
(`exists_numeral`).
-/

namespace StylePrune.Css.Lexer

variable {cs rest : List Char} {c : Char}

def IsSign (s : List Char) : Prop := s = [] ∨ s = ['+'] ∨ s = ['-']

/-- A point and digits, or nothing. -/
def IsFraction (s : List Char) : Prop :=
  s = [] ∨ ∃ ds, s = '.' :: ds ∧ ds ≠ [] ∧ ds.all isDigit = true

/-- An exponent mark, a sign and digits, or nothing. -/
def IsExponent (s : List Char) : Prop :=
  s = [] ∨ ∃ mark sign ds, s = mark :: (sign ++ ds) ∧ (mark = 'e' ∨ mark = 'E') ∧ IsSign sign ∧
    ds ≠ [] ∧ ds.all isDigit = true

structure Numeral where
  sign : List Char
  whole : List Char
  fraction : List Char
  exponent : List Char
  isSign : IsSign sign
  isWhole : whole.all isDigit = true
  isFraction : IsFraction fraction
  isExponent : IsExponent exponent
  ne_nil : whole ≠ [] ∨ fraction ≠ []

namespace Numeral

def text (n : Numeral) : List Char := n.sign ++ (n.whole ++ (n.fraction ++ n.exponent))

def isInteger (n : Numeral) : Bool := n.fraction.isEmpty && n.exponent.isEmpty

end Numeral

/-! ## The parts of a number -/

/-- A digit stands first. -/
def startsDigit (cs : List Char) : Bool := cs.head?.any isDigit

/-- A point and a digit stand first. -/
def startsPoint (cs : List Char) : Bool := cs.head? == some '.' && startsDigit cs.tail

/-- What follows a number does not go on with it, but for an exponent. -/
def endsNumber (isInteger : Bool) (rest : List Char) : Bool :=
  !startsDigit rest && !(isInteger && startsPoint rest)

theorem takeWhile_eq_nil (h : startsDigit cs = false) : cs.takeWhile isDigit = [] := by
  cases cs with
  | nil => rfl
  | cons c cs => exact List.takeWhile_cons_of_neg (by simpa [startsDigit] using h)

theorem digits_append {ds : List Char} (hds : ds.all isDigit = true)
    (h : startsDigit rest = false) : digits (ds ++ rest) = ds.length := by
  rw [digits, List.takeWhile_append_of_pos (List.all_eq_true.1 hds), takeWhile_eq_nil h,
    List.append_nil]

theorem any_head?_dropWhile {p : Char → Bool} (cs : List Char) :
    (cs.dropWhile p).head?.any p = false := by
  induction cs with
  | nil => rfl
  | cons c cs ih =>
    rw [List.dropWhile_cons]
    split
    · exact ih
    · exact Bool.eq_false_iff.2 ‹_›

/-- The digits that a text starts with, and what follows them. -/
theorem exists_digits (cs : List Char) : ∃ ds rest, cs = ds ++ rest ∧ ds.all isDigit = true ∧
    startsDigit rest = false ∧ digits cs = ds.length :=
  ⟨cs.takeWhile isDigit, cs.dropWhile isDigit, List.takeWhile_append_dropWhile.symm,
    List.all_takeWhile, any_head?_dropWhile cs, rfl⟩

theorem ne_sign_of_isDigit (h : isDigit c = true) : c ≠ '+' ∧ c ≠ '-' ∧ c ≠ '.' := by
  refine ⟨?_, ?_, ?_⟩ <;> rintro rfl <;> exact absurd h (by decide)

def signLength (cs : List Char) : Nat :=
  match cs with
  | c :: _ => if c = '+' || c = '-' then 1 else 0
  | [] => 0

theorem signLength_append {sign : List Char} (h : IsSign sign)
    (hrest : sign = [] → rest.head? ≠ some '+' ∧ rest.head? ≠ some '-') :
    signLength (sign ++ rest) = sign.length := by
  rcases h with rfl | rfl | rfl
  · cases rest with
    | nil => rfl
    | cons c rest =>
      have hc := hrest rfl
      simp only [List.head?_cons, ne_eq, Option.some.injEq] at hc
      rw [List.nil_append, signLength, if_neg (by simpa using hc)]
      rfl
  · rfl
  · rfl

theorem exists_sign (cs : List Char) :
    ∃ sign rest, cs = sign ++ rest ∧ IsSign sign ∧ signLength cs = sign.length := by
  cases cs with
  | nil => exact ⟨[], [], rfl, .inl rfl, rfl⟩
  | cons c rest =>
    by_cases hc : c = '+' ∨ c = '-'
    · refine ⟨[c], rest, rfl, ?_, if_pos (by simpa using hc)⟩
      rcases hc with rfl | rfl
      · exact .inr (.inl rfl)
      · exact .inr (.inr rfl)
    · exact ⟨[], c :: rest, rfl, .inl rfl, if_neg (by simpa using hc)⟩

/-- The number of digits behind the point that a text starts with. -/
def fractionLength (cs : List Char) : Nat :=
  match cs with
  | '.' :: rest => digits rest
  | _ => 0

theorem fractionLength_append {s : List Char} (h : IsFraction s) (hdigit : startsDigit rest = false)
    (hrest : s = [] → startsPoint rest = false) :
    fractionLength (s ++ rest) = s.length - 1 := by
  rcases h with rfl | ⟨ds, rfl, -, hds⟩
  · have hpoint := hrest rfl
    rw [List.nil_append]
    unfold fractionLength
    split
    · rename_i more
      have hnone : startsDigit more = false := hpoint
      rw [digits, takeWhile_eq_nil hnone]
      rfl
    · rfl
  · exact digits_append hds hdigit

theorem exists_fraction (hcs : startsDigit cs = false) :
    ∃ s rest, cs = s ++ rest ∧ IsFraction s ∧ startsDigit rest = false ∧
      (s = [] → startsPoint rest = false) ∧ fractionLength cs = s.length - 1 := by
  cases hpoint : startsPoint cs with
  | false =>
    have hnone : ([] : List Char) = [] → startsPoint cs = false := fun _ => hpoint
    exact ⟨[], cs, rfl, .inl rfl, hcs, hnone, fractionLength_append (.inl rfl) hcs hnone⟩
  | true =>
    simp only [startsPoint, Bool.and_eq_true, beq_iff_eq] at hpoint
    obtain ⟨more, rfl⟩ := List.head?_eq_some_iff.1 hpoint.1
    obtain ⟨ds, rest, rfl, hds, hrest, -⟩ := exists_digits more
    have hne : ds ≠ [] := by
      rintro rfl
      exact absurd (hrest.symm.trans hpoint.2) (by decide)
    have hs : IsFraction ('.' :: ds) := .inr ⟨ds, rfl, hne, hds⟩
    have hsome : '.' :: ds = [] → startsPoint rest = false := fun h =>
      absurd h (List.cons_ne_nil _ _)
    exact ⟨'.' :: ds, rest, rfl, hs, hrest, hsome, fractionLength_append hs hrest hsome⟩

theorem exponentLength_cons (mark : Char) (cs : List Char) :
    exponentLength (mark :: cs) =
      if mark = 'e' || mark = 'E' then
        if digits (cs.drop (signLength cs)) = 0 then 0
        else 1 + signLength cs + digits (cs.drop (signLength cs))
      else 0 := rfl

theorem exponentLength_append {s : List Char} (h : IsExponent s)
    (hdigit : startsDigit rest = false) (hrest : s = [] → exponentLength rest = 0) :
    exponentLength (s ++ rest) = s.length := by
  rcases h with rfl | ⟨mark, sign, ds, rfl, hmark, hsign, hne, hds⟩
  · exact hrest rfl
  obtain ⟨d, more, rfl⟩ := List.exists_cons_of_ne_nil hne
  have hd := ne_sign_of_isDigit (List.all_eq_true.1 hds d List.mem_cons_self)
  have hlength : signLength (sign ++ (d :: more ++ rest)) = sign.length :=
    signLength_append hsign fun _ => by simpa using ⟨hd.1, hd.2.1⟩
  rw [List.cons_append, List.append_assoc, exponentLength_cons, if_pos (by simpa using hmark),
    hlength, List.drop_left, digits_append hds hdigit,
    if_neg (Nat.ne_of_gt (List.length_pos_iff.2 hne))]
  simp only [List.length_cons, List.length_append]
  omega

theorem exists_exponent (cs : List Char) :
    ∃ s rest, cs = s ++ rest ∧ IsExponent s ∧ (s ≠ [] → startsDigit rest = false) ∧
      exponentLength cs = s.length := by
  have none {cs : List Char} (h : exponentLength cs = 0) : ∃ s rest, cs = s ++ rest ∧
      IsExponent s ∧ (s ≠ [] → startsDigit rest = false) ∧ exponentLength cs = s.length :=
    ⟨[], cs, rfl, .inl rfl, fun h => absurd rfl h, h⟩
  cases cs with
  | nil => exact none rfl
  | cons mark cs =>
    by_cases hmark : mark = 'e' ∨ mark = 'E'
    · obtain ⟨sign, more, rfl, hsign, hlength⟩ := exists_sign cs
      obtain ⟨ds, rest, rfl, hds, hrest, hdigits⟩ := exists_digits more
      by_cases hne : ds = []
      · refine none ?_
        rw [exponentLength_cons, hlength, List.drop_left, hdigits, hne, List.length_nil, if_pos rfl]
        exact ite_self 0
      · have hs : IsExponent (mark :: (sign ++ ds)) :=
          .inr ⟨mark, sign, ds, rfl, hmark, hsign, hne, hds⟩
        refine ⟨mark :: (sign ++ ds), rest, by simp, hs, fun _ => hrest, ?_⟩
        rw [← List.append_assoc, ← List.cons_append]
        exact exponentLength_append hs hrest fun h => absurd h (List.cons_ne_nil _ _)
    · exact none (by rw [exponentLength_cons, if_neg (by simpa using hmark)])

/-! ## Numbers -/

theorem numberLength?_eq (cs : List Char) : numberLength? cs =
    let sign := signLength cs
    let whole := digits (cs.drop sign)
    let fraction := fractionLength (cs.drop (sign + whole))
    let mantissa := if fraction = 0 then whole else whole + 1 + fraction
    if mantissa = 0 then none
    else
      let exponent := exponentLength (cs.drop (sign + mantissa))
      some (sign + mantissa + exponent, fraction = 0 && exponent = 0) := rfl

/-- The length of a number in terms of those of its parts, which follow one another. -/
theorem numberLength?_parts {sign whole fraction more : List Char}
    (hsign : signLength (sign ++ (whole ++ (fraction ++ more))) = sign.length)
    (hwhole : digits (whole ++ (fraction ++ more)) = whole.length) (hf : IsFraction fraction)
    (hfraction : fractionLength (fraction ++ more) = fraction.length - 1) :
    numberLength? (sign ++ (whole ++ (fraction ++ more))) =
      if whole = [] ∧ fraction = [] then none
      else some (sign.length + whole.length + fraction.length + exponentLength more,
        fraction.isEmpty && exponentLength more = 0) := by
  rw [numberLength?_eq]
  simp only [hsign, List.drop_left, hwhole, ← List.drop_drop, hfraction]
  rcases hf with rfl | ⟨ds, rfl, hne, -⟩
  · cases whole with
    | nil => rfl
    | cons d whole => simp [Nat.add_assoc]
  · have hlength : ds.length ≠ 0 := by simpa using hne
    have hdrop : (whole ++ '.' :: (ds ++ more)).drop (whole.length + 1 + ds.length) = more := by
      rw [show whole ++ '.' :: (ds ++ more) = whole ++ '.' :: ds ++ more by simp]
      exact List.drop_left' (by simp; omega)
    simp [hlength, hdrop]
    omega

theorem exponent_isEmpty (s : List Char) : (s.length = 0 : Bool) = s.isEmpty := by
  cases s <;> simp

namespace Numeral

variable {n : Numeral}

/-- What stands in front of the exponent starts neither with a digit nor with an exponent mark. -/
theorem startsDigit_exponent (n : Numeral) (h : startsDigit rest = false) :
    startsDigit (n.exponent ++ rest) = false := by
  rcases n.isExponent with he | ⟨mark, s, ds, he, hmark, -⟩
  · rwa [he]
  · rw [he]
    rcases hmark with rfl | rfl <;> rfl

theorem startsDigit_fraction (n : Numeral) (h : startsDigit rest = false) :
    startsDigit (n.fraction ++ (n.exponent ++ rest)) = false := by
  rcases n.isFraction with hf | ⟨ds, hf, -⟩
  · rw [hf]
    exact n.startsDigit_exponent h
  · rw [hf]
    rfl

theorem startsPoint_exponent (n : Numeral) (h : n.exponent = [] → startsPoint rest = false) :
    startsPoint (n.exponent ++ rest) = false := by
  rcases n.isExponent with he | ⟨mark, s, ds, he, hmark, -⟩
  · rw [he]
    exact h he
  · rw [he]
    rcases hmark with rfl | rfl <;> rfl

/-- Without a sign a numeral starts with a digit or a point. -/
theorem head_whole (n : Numeral) (rest : List Char) :
    ∃ c, (n.whole ++ (n.fraction ++ (n.exponent ++ rest))).head? = some c ∧
      (isDigit c = true ∨ c = '.') := by
  have hne := n.ne_nil
  have hwhole := n.isWhole
  cases hw : n.whole with
  | cons d whole =>
    rw [hw] at hwhole
    exact ⟨d, rfl, .inl (List.all_eq_true.1 hwhole d List.mem_cons_self)⟩
  | nil =>
    rcases n.isFraction with hf | ⟨ds, hf, -⟩
    · simp [hw, hf] at hne
    · exact ⟨'.', by rw [hf]; rfl, .inr rfl⟩

end Numeral

/-- A numeral is read whatever follows it, if that does not go on with it. -/
theorem numberLength?_append (n : Numeral) (hends : endsNumber n.isInteger rest = true)
    (hexponent : exponentLength rest = 0) :
    numberLength? (n.text ++ rest) = some (n.text.length, n.isInteger) := by
  simp only [endsNumber, Bool.and_eq_true, Bool.not_eq_true'] at hends
  obtain ⟨hdigit, hpoint⟩ := hends
  have hsign := signLength_append n.isSign fun _ => by
    obtain ⟨c, hc, hstart⟩ := n.head_whole rest
    rw [hc]
    rcases hstart with hd | rfl
    · have := ne_sign_of_isDigit hd
      simpa using ⟨this.1, this.2.1⟩
    · decide
  have hwhole := digits_append n.isWhole (n.startsDigit_fraction hdigit)
  have hfraction := fractionLength_append n.isFraction (n.startsDigit_exponent hdigit) fun hf =>
    n.startsPoint_exponent fun he => by simpa [Numeral.isInteger, hf, he] using hpoint
  have hlength := exponentLength_append n.isExponent hdigit fun _ => hexponent
  have hne : ¬(n.whole = [] ∧ n.fraction = []) := fun h => n.ne_nil.elim (absurd h.1) (absurd h.2)
  rw [Numeral.text, List.append_assoc, List.append_assoc, List.append_assoc,
    numberLength?_parts hsign hwhole n.isFraction hfraction, if_neg hne, hlength,
    exponent_isEmpty, Numeral.isInteger]
  simp only [List.length_append, Nat.add_assoc]

/-- What is read as a number is a numeral, and what follows does not go on with it. -/
theorem exists_numeral {k : Nat} {isInteger : Bool} (h : numberLength? cs = some (k, isInteger)) :
    ∃ n rest, cs = Numeral.text n ++ rest ∧ k = n.text.length ∧ isInteger = n.isInteger ∧
      endsNumber isInteger rest = true := by
  obtain ⟨sign, more, rfl, hsign, hsignLength⟩ := exists_sign cs
  obtain ⟨whole, more, rfl, hwhole, hdigit, hdigits⟩ := exists_digits more
  obtain ⟨fraction, more, rfl, hfraction, hdigit', hpoint, hfractionLength⟩ :=
    exists_fraction hdigit
  rw [numberLength?_parts hsignLength hdigits hfraction hfractionLength] at h
  split at h
  · cases h
  rename_i hne
  obtain ⟨exponent, rest, rfl, hexponent, hdigit'', hlength⟩ := exists_exponent more
  rw [hlength, exponent_isEmpty] at h
  obtain ⟨rfl, rfl⟩ := Prod.mk.inj (Option.some.inj h)
  refine ⟨⟨sign, whole, fraction, exponent, hsign, hwhole, hfraction, hexponent,
    Decidable.not_and_iff_or_not.1 hne⟩, rest, by simp [Numeral.text], ?_, rfl, ?_⟩
  · simp only [Numeral.text, List.length_append, Nat.add_assoc]
  · cases exponent with
    | cons c exponent => simp [endsNumber, hdigit'' (List.cons_ne_nil _ _)]
    | nil =>
      cases fraction with
      | nil => simpa [endsNumber] using ⟨hdigit', hpoint rfl⟩
      | cons c fraction => simpa [endsNumber] using hdigit'

/-- Whether a number starts here. -/
theorem isSome_numberLength? (cs : List Char) : (numberLength? cs).isSome =
    (startsDigit (cs.drop (signLength cs)) || startsPoint (cs.drop (signLength cs))) := by
  obtain ⟨sign, more, rfl, hsign, hsignLength⟩ := exists_sign cs
  obtain ⟨whole, more, rfl, hwhole, hdigit, hdigits⟩ := exists_digits more
  obtain ⟨fraction, more, rfl, hfraction, -, hpoint, hfractionLength⟩ := exists_fraction hdigit
  rw [hsignLength, List.drop_left]
  rw [numberLength?_parts hsignLength hdigits hfraction hfractionLength]
  cases whole with
  | cons d whole =>
    have hd : isDigit d = true := List.all_eq_true.1 hwhole d List.mem_cons_self
    simp [startsDigit, hd]
  | nil =>
    rcases hfraction with rfl | ⟨ds, rfl, hne, hds⟩
    · have hnone := hpoint rfl
      simp only [List.nil_append] at hdigit ⊢
      simp [hdigit, hnone]
    · obtain ⟨d, ds, rfl⟩ := List.exists_cons_of_ne_nil hne
      have hd : isDigit d = true := List.all_eq_true.1 hds d List.mem_cons_self
      simp [startsPoint, startsDigit, hd]

/-! ## How a numeral starts -/

theorem startsIdent_of_head (hc : isNameStart c = false) (hne : c ≠ '-' ∧ c ≠ '\\') :
    startsIdent (c :: rest) = false := by
  rw [startsIdent]
  · exact hc
  all_goals simp [hne]

theorem startsIdent_hyphen (hc : isNameStart c = false) (hne : c ≠ '-' ∧ c ≠ '\\') :
    startsIdent ('-' :: c :: rest) = false := by
  rw [startsIdent]
  · exact hc
  all_goals simp [hne]

theorem isNameStart_of_isDigit (h : isDigit c = true) : isNameStart c = false :=
  Bool.eq_false_iff.2 fun hname => by
    rw [isDigit_of_isNameStart hname] at h
    cases h

namespace Numeral

/-- A digit, a point or a sign. -/
def isStart (c : Char) : Bool := isDigit c || ['.', '+', '-'].contains c

theorem exists_cons (n : Numeral) : ∃ c cs, n.text = c :: cs ∧ isStart c = true := by
  obtain ⟨c, hc, hstart⟩ := n.head_whole []
  obtain ⟨cs, hcs⟩ := List.head?_eq_some_iff.1 hc
  rw [List.append_nil] at hcs
  rw [text, hcs]
  rcases n.isSign with hs | hs | hs
  · refine ⟨c, cs, by rw [hs]; rfl, ?_⟩
    rcases hstart with hd | rfl
    · rw [isStart, hd]
      rfl
    · rfl
  · exact ⟨'+', c :: cs, by rw [hs]; rfl, rfl⟩
  · exact ⟨'-', c :: cs, by rw [hs]; rfl, rfl⟩

theorem startsIdent_append (n : Numeral) (rest : List Char) :
    startsIdent (n.text ++ rest) = false := by
  obtain ⟨c, hc, hstart⟩ := n.head_whole rest
  obtain ⟨cs, hcs⟩ := List.head?_eq_some_iff.1 hc
  have hname : isNameStart c = false ∧ c ≠ '-' ∧ c ≠ '\\' := by
    rcases hstart with hd | rfl
    · exact ⟨isNameStart_of_isDigit hd, (ne_sign_of_isDigit hd).2.1, by rintro rfl; cases hd⟩
    · decide
  rw [text, List.append_assoc, List.append_assoc, List.append_assoc, hcs]
  rcases n.isSign with hs | hs | hs
  · rw [hs]
    exact startsIdent_of_head hname.1 hname.2
  · rw [hs]
    rfl
  · rw [hs]
    exact startsIdent_hyphen hname.1 hname.2

theorem normal (n : Numeral) : ∀ c ∈ n.text, normalChar c = c := by
  have hdigit {ds : List Char} (h : ds.all isDigit = true) : ∀ c ∈ ds, normalChar c = c :=
    fun c hc => normalChar_of_class (by decide) (List.all_eq_true.1 h c hc)
  have hsign {s : List Char} (h : IsSign s) : ∀ c ∈ s, normalChar c = c := by
    rcases h with rfl | rfl | rfl <;> exact normal_of_none rfl
  refine List.forall_mem_append.2 ⟨hsign n.isSign, List.forall_mem_append.2 ⟨hdigit n.isWhole,
    List.forall_mem_append.2 ⟨?_, ?_⟩⟩⟩
  · rcases n.isFraction with hf | ⟨ds, hf, -, hds⟩
    · rw [hf]
      exact List.forall_mem_nil _
    · rw [hf]
      exact List.forall_mem_cons.2 ⟨by decide, hdigit hds⟩
  · rcases n.isExponent with he | ⟨mark, s, ds, he, hmark, hs, -, hds⟩
    · rw [he]
      exact List.forall_mem_nil _
    · rw [he]
      refine List.forall_mem_cons.2 ⟨?_, List.forall_mem_append.2 ⟨hsign hs, hdigit hds⟩⟩
      rcases hmark with rfl | rfl <;> decide

end Numeral

end StylePrune.Css.Lexer
