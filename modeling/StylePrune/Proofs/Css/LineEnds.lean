import StylePrune.Css.Lexer

/-!
# The source of a normal form

A text is read in its normal form, with line ends written as `\n`. `rawTake n` and `rawDrop n` part
the text itself where its normal form is parted behind `n` characters, so that what was read can be
found in the text as it was given (`normalize_rawDrop`). `Starts` tells what one character of the
normal form stands for.
-/

namespace StylePrune.Css

/-- The beginning of a text that the first `n` characters of its normal form stand for. -/
def rawTake : Nat → List Char → List Char
  | 0, _ => []
  | _ + 1, [] => []
  | n + 1, '\r' :: '\n' :: cs => '\r' :: '\n' :: rawTake n cs
  | n + 1, c :: cs => c :: rawTake n cs

/-- What is left of a text behind `rawTake n`. -/
def rawDrop : Nat → List Char → List Char
  | 0, cs => cs
  | _ + 1, [] => []
  | n + 1, '\r' :: '\n' :: cs => rawDrop n cs
  | n + 1, _ :: cs => rawDrop n cs

/-- What one character that is not part of a pair stands for. -/
def normalChar (c : Char) : Char :=
  if c = '\r' ∨ c = '\x0c' then '\n' else if c = '\x00' then '\uFFFD' else c

theorem normalChar_eq {c d : Char} (h : normalChar d = c) :
    d = c ∨ c = '\n' ∧ (d = '\r' ∨ d = '\x0c') ∨ c = '\uFFFD' ∧ d = '\x00' := by
  unfold normalChar at h
  split at h
  · exact .inr (.inl ⟨h.symm, ‹_›⟩)
  split at h
  · exact .inr (.inr ⟨h.symm, ‹_›⟩)
  · exact .inl h

/-- The first character of the normal form of a text is `c`, and `rest` is what is left of the text
behind what it stands for. -/
inductive Starts (c : Char) (rest : List Char) : List Char → Prop
  | pair (h : c = '\n') : Starts c rest ('\r' :: '\n' :: rest)
  | char {d : Char} (h : normalChar d = c) (hpair : ∀ more, d = '\r' → rest ≠ '\n' :: more) :
    Starts c rest (d :: rest)

theorem normalize_cons {d : Char} {cs : List Char} (h : ∀ more, d = '\r' → cs ≠ '\n' :: more) :
    normalize (d :: cs) = normalChar d :: normalize cs := by
  rw [normalize]
  · rfl
  · exact h

theorem normalize_eq_nil {raw : List Char} (h : normalize raw = []) : raw = [] := by
  unfold normalize at h
  split at h
  · rfl
  · cases h
  · cases h

theorem starts_of_normalize {c : Char} {cs raw : List Char} (h : normalize raw = c :: cs) :
    ∃ rest, Starts c rest raw ∧ normalize rest = cs := by
  unfold normalize at h
  split at h
  · cases h
  · obtain ⟨hc, hcs⟩ := List.cons.inj h
    exact ⟨_, .pair hc.symm, hcs⟩
  · rename_i hpair
    obtain ⟨hc, hcs⟩ := List.cons.inj h
    exact ⟨_, .char hc hpair, hcs⟩

namespace Starts

variable {c : Char} {rest raw : List Char} {n : Nat}

theorem normalize_eq (h : Starts c rest raw) : normalize raw = c :: normalize rest := by
  cases h with
  | pair hc => rw [hc]; rfl
  | char hc hpair => rw [normalize_cons hpair, hc]

theorem rawDrop_succ (h : Starts c rest raw) : rawDrop (n + 1) raw = rawDrop n rest := by
  cases h with
  | pair => rfl
  | char hc hpair => rw [rawDrop]; exact hpair

/-- Characters but line ends and U+FFFD stand for themselves. -/
theorem eq_cons (h : Starts c rest raw) (hline : c ≠ '\n') (hnul : c ≠ '\uFFFD') :
    raw = c :: rest := by
  cases h with
  | pair hc => exact absurd hc hline
  | char hc =>
    rcases normalChar_eq hc with rfl | ⟨hc, -⟩ | ⟨hc, -⟩
    · rfl
    · exact absurd hc hline
    · exact absurd hc hnul

end Starts

theorem rawTake_append_rawDrop (n : Nat) (raw : List Char) :
    rawTake n raw ++ rawDrop n raw = raw := by
  fun_induction rawTake n raw with
  | case1 => rfl
  | case2 => rfl
  | case3 n cs ih => rw [rawDrop, List.cons_append, List.cons_append, ih]
  | case4 n c cs hpair ih =>
    rw [rawDrop, List.cons_append, ih]
    exact hpair

theorem normalize_rawDrop (n : Nat) (raw : List Char) :
    normalize (rawDrop n raw) = (normalize raw).drop n := by
  fun_induction rawDrop n raw with
  | case1 => rfl
  | case2 => rfl
  | case3 n cs ih => rw [ih, normalize, List.drop_succ_cons]
  | case4 n c cs hpair ih => rw [ih, normalize_cons hpair, List.drop_succ_cons]

theorem rawDrop_add (m n : Nat) (raw : List Char) :
    rawDrop (m + n) raw = rawDrop n (rawDrop m raw) := by
  fun_induction rawDrop m raw with
  | case1 => rw [Nat.zero_add]
  | case2 m => cases n <;> rw [Nat.succ_add] <;> rfl
  | case3 m cs ih => rw [Nat.succ_add, rawDrop, ih]
  | case4 m c cs hpair ih =>
    rw [Nat.succ_add, rawDrop, ih]
    exact hpair

theorem rawTake_add (m n : Nat) (raw : List Char) :
    rawTake (m + n) raw = rawTake m raw ++ rawTake n (rawDrop m raw) := by
  fun_induction rawTake m raw with
  | case1 => rw [Nat.zero_add]; rfl
  | case2 m => cases n <;> rw [Nat.succ_add] <;> rfl
  | case3 m cs ih => rw [Nat.succ_add, rawTake, ih, rawDrop]; rfl
  | case4 m c cs hpair ih =>
    rw [Nat.succ_add, rawTake, ih, rawDrop]
    · rfl
    · exact hpair
    · exact hpair

theorem length_rawDrop_le (n : Nat) (raw : List Char) : (rawDrop n raw).length ≤ raw.length := by
  conv => rhs; rw [← rawTake_append_rawDrop n raw, List.length_append]
  exact Nat.le_add_left ..

theorem Starts.length_rawDrop_lt {c : Char} {rest raw : List Char} (h : Starts c rest raw)
    (n : Nat) : (rawDrop (n + 1) raw).length < raw.length := by
  have hrest : rest.length < raw.length := by
    cases h with
    | pair => exact Nat.lt_succ_of_lt (Nat.lt_succ_self _)
    | char => exact Nat.lt_succ_self _
  rw [h.rawDrop_succ]
  exact Nat.lt_of_le_of_lt (length_rawDrop_le n rest) hrest

/-! ## Texts in normal form -/

/-- A text in normal form holds no character that stands for another. -/
theorem Starts.eq_of_normal {c : Char} {rest raw : List Char} (h : Starts c rest raw)
    (hn : normalize raw = raw) : raw = c :: rest ∧ normalize rest = rest := by
  rw [h.normalize_eq] at hn
  cases h with
  | pair hc => exact absurd (hc.symm.trans (List.cons.inj hn).1) (by decide)
  | char hc => exact ⟨congrArg (· :: rest) (List.cons.inj hn).1.symm, (List.cons.inj hn).2⟩

theorem raw_of_normal (n : Nat) {raw : List Char} (h : normalize raw = raw) :
    rawTake n raw = raw.take n ∧ rawDrop n raw = raw.drop n := by
  induction n generalizing raw with
  | zero => exact ⟨rfl, rfl⟩
  | succ n ih =>
    cases raw with
    | nil => exact ⟨rfl, rfl⟩
    | cons c cs =>
      obtain ⟨rest, hstarts, -⟩ := starts_of_normalize h
      obtain ⟨hraw, hrest⟩ := hstarts.eq_of_normal h
      obtain rfl := (List.cons.inj hraw).2
      cases hstarts with
      | char _ hpair =>
        rw [rawTake, rawDrop, (ih hrest).1, (ih hrest).2]
        · exact ⟨rfl, rfl⟩
        · exact hpair
        · exact hpair

/-- The characters that a normal form writes in another way. -/
def rewritten : List Char := ['\r', '\x0c', '\x00']

theorem normalChar_of_notMem {c : Char} (h : c ∉ rewritten) : normalChar c = c := by
  simp only [rewritten, List.mem_cons, List.not_mem_nil, or_false, not_or] at h
  rw [normalChar, if_neg (not_or.2 ⟨h.1, h.2.1⟩), if_neg h.2.2]

theorem normalChar_of_class {p : Char → Bool} (hp : rewritten.any p = false) {c : Char}
    (h : p c = true) : normalChar c = c :=
  normalChar_of_notMem fun hc => List.any_eq_false.1 hp c hc h

theorem normal_of_none {cs : List Char} (h : rewritten.any cs.contains = false) :
    ∀ c ∈ cs, normalChar c = c :=
  fun _ hc => normalChar_of_class h (List.contains_iff_mem.2 hc)

/-- A normal form holds nothing that would be written in another way. -/
theorem normalChar_of_normalize (cs : List Char) : ∀ c ∈ normalize cs, normalChar c = c := by
  fun_induction normalize cs with
  | case1 => exact List.forall_mem_nil _
  | case2 cs ih => exact List.forall_mem_cons.2 ⟨by decide, ih⟩
  | case3 c cs _ ih =>
    refine List.forall_mem_cons.2 ⟨?_, ih⟩
    split
    · decide
    split
    · decide
    · exact normalChar_of_notMem (by simp [rewritten, *])

/-- A text without line ends to rewrite and without NUL is its own normal form. -/
theorem normalize_of_forall {cs : List Char} (h : ∀ c ∈ cs, normalChar c = c) :
    normalize cs = cs := by
  induction cs with
  | nil => rfl
  | cons c cs ih =>
    obtain ⟨hc, hcs⟩ := List.forall_mem_cons.1 h
    have hpair : ∀ more, c = '\r' → cs ≠ '\n' :: more := by
      rintro _ rfl
      exact absurd hc (by decide)
    rw [normalize_cons hpair, hc, ih hcs]

end StylePrune.Css
