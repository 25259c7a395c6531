import StylePrune.Css.Balance

/-!
# Pairing brackets on raw text

The verdict of the pairing does not depend on lines (`isOk_run_congr`), so it is a question about the
text and the brackets that are open (`accepts`). `accepts_inert`, `accepts_escape` and the laws for
brackets, strings and comments say what each character does to it.
-/

namespace StylePrune.Css

theorem Bracket.eq_opener {c : Char} {b : Bracket} (h : ofOpener? c = some b) : c = b.opener := by
  unfold ofOpener? at h
  grind [opener]

theorem Bracket.eq_closer {c : Char} {b : Bracket} (h : ofCloser? c = some b) : c = b.closer := by
  unfold ofCloser? at h
  grind [closer]

namespace Balance

/-- Reading a character that starts neither an escape nor a comment. -/
theorem run_plain {opened : List Open} {line : Nat} {c : Char} {rest : List Char}
    (he : c ≠ '\\') (hc : ∀ more, c = '/' → rest ≠ '*' :: more) :
    run .plain opened line (c :: rest) =
      if c = '\n' then run .plain opened (line + 1) rest
      else if c = '"' ∨ c = '\x27' then run (.string c) opened line rest
      else
        match Bracket.ofOpener? c with
        | some b => run .plain (⟨b.closer, line⟩ :: opened) line rest
        | none =>
          if (Bracket.ofCloser? c).isSome then
            match opened with
            | innermost :: outer =>
              if innermost.closer = c then run .plain outer line rest
              else .error (.unexpected c line)
            | [] => .error (.unexpected c line)
          else run .plain opened line rest := by
  cases opened <;> rw [run] <;> first | exact he | exact hc | rfl

/-- Reading a character of a string. -/
theorem run_string {quote : Char} {opened : List Open} {line : Nat} {c : Char} {rest : List Char} :
    run (.string quote) opened line (c :: rest) =
      if c = quote then run .plain opened line rest
      else if c = '\n' then run .plain opened (line + 1) rest
      else if c = '\\' then
        match rest with
        | [] => atEnd opened
        | _ :: rest => run (.string quote) opened line rest
      else run (.string quote) opened line rest := by
  cases rest <;> simp only [run]

theorem isOk_atEnd (opened : List Open) : (atEnd opened).isOk = opened.isEmpty := by
  cases opened <;> rfl

/-- Lines play no part in the verdict. -/
theorem isOk_run_congr {mode : Mode} {opened opened' : List Open} {line line' : Nat}
    {cs : List Char} (h : opened.map Open.closer = opened'.map Open.closer) :
    (run mode opened line cs).isOk = (run mode opened' line' cs).isOk := by
  have ended : ∀ {o o' : List Open}, o.map Open.closer = o'.map Open.closer →
      (atEnd o).isOk = (atEnd o').isOk := fun h => by
    rw [isOk_atEnd, isOk_atEnd, ← List.isEmpty_map, h, List.isEmpty_map]
  fun_induction run mode opened line cs generalizing opened' line' with
  | case1 => simp only [run]
  | case2 mode opened line hm =>
    rw [run]
    · exact ended h
    · exact hm
  | case3 opened line => simpa only [run] using ended h
  | case4 opened line head rest ih => simpa only [run] using ih h
  | case5 opened line rest ih => simpa only [run] using ih h
  | case6 opened line rest h1 h2 ih => rw [run_plain h1 h2, if_pos rfl]; exact ih h
  | case7 opened line c rest h1 h2 hc hq ih =>
    rw [run_plain h1 h2, if_neg hc, if_pos hq]; exact ih h
  | case8 opened line c rest h1 h2 hc hq b hb ih =>
    rw [run_plain h1 h2, if_neg hc, if_neg hq, hb]
    exact ih (by simpa using h)
  | case9 line rest innermost outer h1 h2 hc hq hb hcl ih =>
    obtain _ | ⟨i, o⟩ := opened'
    · cases h
    obtain ⟨hi, ho⟩ := List.cons.inj h
    rw [run_plain h1 h2, if_neg hc, if_neg hq, hb]
    simp only [hcl, hi.symm, if_true]
    exact ih ho
  | case10 line c rest h1 h2 hc hq hb hcl innermost outer hne =>
    obtain _ | ⟨i, o⟩ := opened'
    · cases h
    obtain ⟨hi, -⟩ := List.cons.inj h
    rw [run_plain h1 h2, if_neg hc, if_neg hq, hb]
    simp only [hcl, hi.symm, if_true, if_neg hne]
    rfl
  | case11 line c rest h1 h2 hc hq hb hcl =>
    obtain _ | ⟨i, o⟩ := opened'
    · rw [run_plain h1 h2, if_neg hc, if_neg hq, hb]
      simp only [hcl, if_true]
      rfl
    · cases h
  | case12 opened line c rest h1 h2 hc hq hb hcl ih =>
    rw [run_plain h1 h2, if_neg hc, if_neg hq, hb]
    simp only [if_neg hcl]
    exact ih h
  | case13 opened line c rest ih => rw [run_string, if_pos rfl]; exact ih h
  | case14 quote opened line rest hq ih => rw [run_string, if_neg hq, if_pos rfl]; exact ih h
  | case15 quote opened line hq hn =>
    rw [run_string, if_neg hq, if_neg hn, if_pos rfl]; exact ended h
  | case16 quote opened line head rest hq hn ih =>
    rw [run_string, if_neg hq, if_neg hn, if_pos rfl]; exact ih h
  | case17 quote opened line c rest hq hn he ih =>
    rw [run_string, if_neg hq, if_neg hn, if_neg he]; exact ih h
  | case18 opened line rest ih => simpa only [run] using ih h
  | case19 opened line c rest hc ih =>
    rw [run]
    · exact ih h
    · exact hc

/-- Brackets that wait to be closed, with no lines to report. -/
def waiting (opened : List Bracket) : List Open := opened.map fun b => ⟨b.closer, 0⟩

theorem isOk_atEnd_waiting (opened : List Bracket) :
    (atEnd (waiting opened)).isOk = opened.isEmpty := by
  rw [isOk_atEnd, waiting, List.isEmpty_map]

/-- Whether a text closes the brackets that are open, those that it opens, and no others. -/
def accepts (mode : Mode) (opened : List Bracket) (cs : List Char) : Bool :=
  (run mode (waiting opened) 0 cs).isOk

theorem checkBalance_isOk (css : List Char) : (checkBalance css).isOk = accepts .plain [] css :=
  isOk_run_congr rfl

/-! ## Plain text -/

section Plain

variable {opened : List Bracket} {rest : List Char}

@[simp] theorem accepts_nil : accepts .plain opened [] = opened.isEmpty :=
  isOk_atEnd_waiting opened

/-- Characters that are or start a bracket, string, comment or escape. -/
def special : List Char := ['\\', '/', '"', '\x27', '(', ')', '[', ']', '\x7b', '\x7d']

def isInert (c : Char) : Bool := !special.contains c

/-- A class of characters without special ones is inert. -/
theorem isInert_of_class {p : Char → Bool} (hp : special.any p = false) {c : Char}
    (h : p c = true) : isInert c = true := by
  rw [isInert, Bool.not_eq_true', List.contains_eq_mem, decide_eq_false_iff_not]
  exact fun hc => List.any_eq_false.1 hp c hc h

/-- A slash that starts no comment is as inert as other characters. -/
theorem accepts_inert {c : Char} (h : isInert c = true ∨ c = '/' ∧ rest.head? ≠ some '*') :
    accepts .plain opened (c :: rest) = accepts .plain opened rest := by
  have hc : c ≠ '\\' ∧ (∀ more, c = '/' → rest ≠ '*' :: more) ∧ ¬ (c = '"' ∨ c = '\x27') ∧
      Bracket.ofOpener? c = none ∧ Bracket.ofCloser? c = none := by
    rcases h with h | ⟨rfl, h⟩
    · simp only [isInert, special, Bool.not_eq_true', List.contains_eq_mem, List.mem_cons,
        List.not_mem_nil, or_false, decide_eq_false_iff_not, not_or] at h
      simp_all [Bracket.ofOpener?, Bracket.ofCloser?]
    · exact ⟨by decide, fun more _ hr => h (by rw [hr]; rfl), by decide, rfl, rfl⟩
  obtain ⟨he, hs, hq, ho, hcl⟩ := hc
  rw [accepts, run_plain he hs, ho, hcl, if_neg hq]
  split
  · exact isOk_run_congr rfl
  · rfl

/-- A backslash hides the character behind it. -/
@[simp] theorem accepts_escape {c : Char} :
    accepts .plain opened ('\\' :: c :: rest) = accepts .plain opened rest := rfl

@[simp] theorem accepts_lone_backslash : accepts .plain opened ['\\'] = opened.isEmpty :=
  isOk_atEnd_waiting opened

@[simp] theorem accepts_opener {b : Bracket} :
    accepts .plain opened (b.opener :: rest) = accepts .plain (b :: opened) rest := by
  cases b <;> rw [accepts, run_plain (by decide) fun _ h => absurd h (by decide)] <;> rfl

@[simp] theorem accepts_closer {b : Bracket} :
    accepts .plain opened (b.closer :: rest) =
      match opened with
      | innermost :: outer => decide (innermost = b) && accepts .plain outer rest
      | [] => false := by
  cases opened with
  | nil => cases b <;> rw [accepts, run_plain (by decide) fun _ h => absurd h (by decide)] <;> rfl
  | cons innermost outer =>
    cases b <;> cases innermost <;>
      rw [accepts, run_plain (by decide) fun _ h => absurd h (by decide)] <;> rfl

@[simp] theorem accepts_quote {q : Char} (hq : q = '"' ∨ q = '\x27') :
    accepts .plain opened (q :: rest) = accepts (.string q) opened rest := by
  rcases hq with rfl | rfl <;>
    rw [accepts, run_plain (by decide) fun _ h => absurd h (by decide)] <;> rfl

@[simp] theorem accepts_comment :
    accepts .plain opened ('/' :: '*' :: rest) = accepts .comment opened rest := rfl

end Plain

/-! ## Strings and comments -/

section Strings

variable {opened : List Bracket} {rest : List Char} {q : Char}

theorem accepts_string_nil : accepts (.string q) opened [] = opened.isEmpty :=
  isOk_atEnd_waiting opened

theorem accepts_string_quote :
    accepts (.string q) opened (q :: rest) = accepts .plain opened rest := by
  rw [accepts, run_string, if_pos rfl]; rfl

/-- A line end breaks a string off. -/
theorem accepts_string_newline (hq : '\n' ≠ q) :
    accepts (.string q) opened ('\n' :: rest) = accepts .plain opened ('\n' :: rest) := by
  rw [accepts_inert (.inl (by decide)), accepts, run_string, if_neg hq, if_pos rfl]
  exact isOk_run_congr rfl

theorem accepts_string_escape (hq : '\\' ≠ q) {c : Char} :
    accepts (.string q) opened ('\\' :: c :: rest) = accepts (.string q) opened rest := by
  rw [accepts, run_string, if_neg hq, if_neg (by decide), if_pos rfl]; rfl

theorem accepts_string_lone_backslash (hq : '\\' ≠ q) :
    accepts (.string q) opened ['\\'] = opened.isEmpty := by
  rw [accepts, run_string, if_neg hq, if_neg (by decide), if_pos rfl]
  exact isOk_atEnd_waiting opened

theorem accepts_string_other {c : Char} (hq : c ≠ q) (hn : c ≠ '\n') (he : c ≠ '\\') :
    accepts (.string q) opened (c :: rest) = accepts (.string q) opened rest := by
  rw [accepts, run_string, if_neg hq, if_neg hn, if_neg he]; rfl

theorem accepts_comment_end :
    accepts .comment opened ('*' :: '/' :: rest) = accepts .plain opened rest := rfl

theorem accepts_comment_other {c : Char} (h : ∀ more, c = '*' → rest ≠ '/' :: more) :
    accepts .comment opened (c :: rest) = accepts .comment opened rest := by
  rw [accepts, run]
  · exact isOk_run_congr rfl
  · exact h

end Strings

end Balance

end StylePrune.Css
