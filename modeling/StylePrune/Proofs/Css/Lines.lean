import StylePrune.Proofs.Css.NextLine

/-!
# Lexemes and brackets of a text with more on the next line

The lexemes of two texts of which the second stands on a line of its own are those of the one and
then of the other, with one lexeme for the white space between them, if the first ends in lexemes
that may stand last and its comments are ended (`Lexer.bare_append`). The raw pairing of brackets
parts there too, if it would notice a bracket on the next line (`Balance.checkBalance_append`).
-/

namespace StylePrune.Css

namespace Lexer

variable {cs more : List Char}

/-! ## Lexemes without their places -/

/-- The lexemes of a text, apart from where they stand. -/
def bare (cs : List Char) : Except IntegerTooLong (List Lexeme) :=
  (lexemesFrom .start cs).map (·.map (·.2))

theorem map_lexemesFrom_cons {c : Char} {out : List Lexeme} {n : Nat} (p : Position)
    (h : step c cs = .ok (out, n)) :
    (lexemesFrom p (c :: cs)).map (·.map (·.2)) =
      ((lexemesFrom (p.after (c :: cs.take n)) (cs.drop n)).map (·.map (·.2))).map (out ++ ·) := by
  rw [lexemesFrom, h]
  simp only
  cases lexemesFrom (p.after (c :: cs.take n)) (cs.drop n) with
  | error e => rfl
  | ok xs => exact congrArg Except.ok (by simp [Function.comp_def])

/-- Lexemes do not depend on where the text starts. -/
theorem map_lexemesFrom (p : Position) (cs : List Char) :
    (lexemesFrom p cs).map (·.map (·.2)) = bare cs := by
  rw [bare]
  generalize Position.start = q
  induction hn : cs.length using Nat.strongRecOn generalizing p q cs with
  | ind n ih =>
    cases cs with
    | nil => rw [lexemesFrom, lexemesFrom]
    | cons c rest =>
      cases hstep : step c rest with
      | error e => rw [lexemesFrom, hstep, lexemesFrom, hstep]
      | ok r =>
        have hless : (rest.drop r.2).length < n := by
          rw [← hn, List.length_drop, List.length_cons]
          omega
        rw [map_lexemesFrom_cons p hstep, map_lexemesFrom_cons q hstep, ih _ hless _ _ _ rfl]

theorem bare_nil : bare [] = .ok [] := by
  rw [bare, lexemesFrom]; rfl

theorem bare_cons {c : Char} {out : List Lexeme} {n : Nat} (h : step c cs = .ok (out, n)) :
    bare (c :: cs) = (bare (cs.drop n)).map (out ++ ·) := by
  rw [bare, map_lexemesFrom_cons .start h, map_lexemesFrom]

/-- The lexemes of a text are those of a first step and of what it leaves. -/
theorem bare_cons_inv {c : Char} {xs : List Lexeme} (h : bare (c :: cs) = .ok xs) :
    ∃ out n ys, step c cs = .ok (out, n) ∧ bare (cs.drop n) = .ok ys ∧ xs = out ++ ys := by
  cases hstep : step c cs with
  | error e =>
    rw [bare, lexemesFrom, hstep] at h
    cases h
  | ok r =>
    rw [bare_cons hstep] at h
    cases hys : bare (cs.drop r.2) with
    | error e => rw [hys] at h; cases h
    | ok ys =>
      rw [hys] at h
      exact ⟨r.1, r.2, ys, rfl, hys, (Except.ok.inj h).symm⟩

/-- One white space lexeme or none. -/
def Gap (xs : List Lexeme) : Prop := xs = [] ∨ ∃ w, xs = [.leaf (.whitespace w)]

theorem step_space {c : Char} (h : isSpace c = true) (cs : List Char) :
    step c cs = .ok ([.leaf (.whitespace (c :: cs.takeWhile isSpace))],
      (cs.takeWhile isSpace).length) := by
  unfold step
  rw [if_pos h]
  rfl

theorem drop_takeWhile_length {p : Char → Bool} (cs : List Char) :
    cs.drop (cs.takeWhile p).length = cs.dropWhile p := by
  induction cs with
  | nil => rfl
  | cons c cs ih =>
    rw [List.takeWhile_cons, List.dropWhile_cons]
    split
    · exact ih
    · rfl

/-- White space before a text is a lexeme of its own. -/
theorem bare_dropWhile {xs : List Lexeme} (h : bare cs = .ok xs) :
    ∃ gap ys, Gap gap ∧ xs = gap ++ ys ∧ bare (cs.dropWhile isSpace) = .ok ys := by
  cases cs with
  | nil => exact ⟨[], xs, .inl rfl, rfl, h⟩
  | cons c rest =>
    by_cases hc : isSpace c = true
    · obtain ⟨out, n, ys, hstep, hys, rfl⟩ := bare_cons_inv h
      rw [step_space hc] at hstep
      obtain ⟨rfl, rfl⟩ := Prod.mk.inj (Except.ok.inj hstep)
      rw [drop_takeWhile_length] at hys
      rw [List.dropWhile_cons, if_pos hc]
      exact ⟨_, ys, .inr ⟨_, rfl⟩, rfl, hys⟩
    · rw [List.dropWhile_cons, if_neg hc]
      exact ⟨[], xs, .inl rfl, rfl, h⟩

/-- Lexemes of two texts, the second on a line of its own, with one lexeme for the white space
between them. -/
theorem bare_append {xs ys : List Lexeme} (hxs : bare cs = .ok xs) (hys : bare more = .ok ys)
    (hended : ∀ piece ∈ pieces cs, isEnded piece.1 piece.2 = true)
    (hlast : ∀ x ∈ xs.getLast?, isLast x = true) :
    ∃ xs' ys' w before after, Gap before ∧ Gap after ∧ xs = xs' ++ before ∧ ys = after ++ ys' ∧
      bare (cs ++ '\n' :: more) = .ok (xs' ++ .leaf (.whitespace w) :: ys') := by
  obtain ⟨after, ys', hafter, rfl, hys'⟩ := bare_dropWhile hys
  suffices ∃ xs' w before, Gap before ∧ xs = xs' ++ before ∧
      bare (cs ++ '\n' :: more) = .ok (xs' ++ .leaf (.whitespace w) :: ys') by
    obtain ⟨xs', w, before, hbefore, rfl, h⟩ := this
    exact ⟨xs', ys', w, before, after, hbefore, hafter, rfl, rfl, h⟩
  have hline : bare ('\n' :: more) =
      .ok (.leaf (.whitespace ('\n' :: more.takeWhile isSpace)) :: ys') := by
    rw [bare_cons (step_space rfl more), drop_takeWhile_length, hys']
    rfl
  induction hn : cs.length using Nat.strongRecOn generalizing cs xs with
  | ind n ih =>
    cases cs with
    | nil =>
      obtain rfl := Except.ok.inj (bare_nil.symm.trans hxs)
      exact ⟨[], _, [], .inl rfl, rfl, hline⟩
    | cons c rest =>
      obtain ⟨out, n, zs, hstep, hzs, rfl⟩ := bare_cons_inv hxs
      rw [pieces, hstep, List.forall_mem_cons] at hended
      obtain ⟨hpiece, hpieces⟩ := hended
      have behind : (n < rest.length ∨ isFirm (c :: rest.take n) out = true) → n ≤ rest.length →
          ∃ xs' w before, Gap before ∧ out ++ zs = xs' ++ before ∧
            bare (c :: (rest ++ '\n' :: more)) = .ok (xs' ++ .leaf (.whitespace w) :: ys') := by
        intro hfeed hle
        have hlast' : ∀ x ∈ zs.getLast?, isLast x = true := fun x hx => hlast x (by
          rw [List.getLast?_append, Option.mem_def.1 hx]
          rfl)
        have hless : (rest.drop n).length < (c :: rest).length := by
          rw [List.length_drop, List.length_cons]
          omega
        obtain ⟨xs', w, before, hbefore, rfl, h⟩ := ih _ (hn ▸ hless) hzs hpieces hlast' rfl
        refine ⟨out ++ xs', w, before, hbefore, (List.append_assoc ..).symm, ?_⟩
        rw [bare_cons (step_feed hstep hfeed), drop_feed hle, h, List.append_assoc]
        rfl
      by_cases hleft : n < rest.length
      · exact behind (.inl hleft) (Nat.le_of_lt hleft)
      have hnil : rest.drop n = [] := List.drop_eq_nil_of_le (Nat.le_of_not_lt hleft)
      rw [hnil, bare_nil] at hzs
      obtain rfl := Except.ok.inj hzs
      by_cases hspace : isSpace c = true
      · -- The text ends in white space, which goes on behind the line feed.
        rw [step_space hspace] at hstep
        obtain ⟨rfl, rfl⟩ := Prod.mk.inj (Except.ok.inj hstep)
        rw [drop_takeWhile_length] at hnil
        refine ⟨[], c :: (rest ++ '\n' :: more).takeWhile isSpace, _, .inr ⟨_, rfl⟩, rfl, ?_⟩
        rw [List.cons_append, bare_cons (step_space hspace _), drop_takeWhile_length,
          List.dropWhile_append, hnil, if_pos (by rfl), List.dropWhile_cons, if_pos (by rfl), hys']
        rfl
      · rw [List.append_nil] at hlast
        obtain ⟨hfirm, hle⟩ := isFirm_of_isLast hstep hspace hpiece hlast
        exact behind (.inr hfirm) hle

end Lexer

/-! ## Raw brackets -/

namespace Balance

/-- A text that is accepted, and after which an opening bracket on the next line is noticed, is read
up to its end: what follows on the next line is read as if it stood alone. -/
theorem isOk_run_append {mode : Mode} {opened : List Open} {line : Nat} {cs : List Char}
    (h : (run mode opened line cs).isOk = true)
    (hseen : (run mode opened line (cs ++ ['\n', '\x7b'])).isOk = false) (more : List Char) :
    (run mode opened line (cs ++ '\n' :: more)).isOk = (run .plain [] 1 more).isOk := by
  have ended : ∀ (opened : List Open) (line : Nat), (atEnd opened).isOk = true →
      (run .plain opened line more).isOk = (run .plain [] 1 more).isOk := fun opened line h => by
    rw [isOk_atEnd, List.isEmpty_iff] at h
    exact isOk_run_congr (by rw [h])
  have parts : ∀ {p : Prop} {m : Char} {rest more : List Char}, '\n' ≠ m →
      (∀ x, p → rest ≠ m :: x) → ∀ x, p → rest ++ '\n' :: more ≠ m :: x := by
    rintro p m rest more hm hne x hp heq
    cases rest with
    | nil => exact hm (List.cons.inj heq).1
    | cons c rest => exact hne rest hp (congrArg (· :: rest) (List.cons.inj heq).1)
  fun_induction run mode opened line cs with
  | case1 opened line => exact absurd hseen (by simp [run, Except.isOk, Except.toBool])
  | case2 mode opened line hm =>
    cases mode with
    | comment => exact absurd rfl hm
    | plain => exact ended opened (line + 1) h
    | string q =>
      rw [List.nil_append, run_string]
      split
      · exact ended opened line h
      · exact ended opened (line + 1) h
  | case3 opened line => exact ended opened line h
  | case4 opened line head rest ih => exact ih h hseen
  | case5 opened line rest ih => exact ih h hseen
  | case6 opened line rest h1 h2 ih =>
    rw [List.cons_append, run_plain h1 (parts (by decide) h2), if_pos rfl] at hseen ⊢
    exact ih h hseen
  | case7 opened line c rest h1 h2 hc hq ih =>
    rw [List.cons_append, run_plain h1 (parts (by decide) h2), if_neg hc, if_pos hq] at hseen ⊢
    exact ih h hseen
  | case8 opened line c rest h1 h2 hc hq b hb ih =>
    rw [List.cons_append, run_plain h1 (parts (by decide) h2), if_neg hc, if_neg hq, hb] at hseen ⊢
    exact ih h hseen
  | case9 line rest innermost outer h1 h2 hc hq hb hcl ih =>
    rw [List.cons_append, run_plain h1 (parts (by decide) h2), if_neg hc, if_neg hq, hb] at hseen ⊢
    simp only [hcl, if_true] at hseen ⊢
    exact ih h hseen
  | case10 | case11 => cases h
  | case12 opened line c rest h1 h2 hc hq hb hcl ih =>
    rw [List.cons_append, run_plain h1 (parts (by decide) h2), if_neg hc, if_neg hq, hb] at hseen ⊢
    simp only [if_neg hcl] at hseen ⊢
    exact ih h hseen
  | case13 opened line c rest ih =>
    rw [List.cons_append, run_string, if_pos rfl] at hseen ⊢
    exact ih h hseen
  | case14 quote opened line rest hq ih =>
    rw [List.cons_append, run_string, if_neg hq, if_pos rfl] at hseen ⊢
    exact ih h hseen
  | case15 quote opened line hq hn =>
    -- A backslash hides the line feed too, and the string goes on.
    rw [List.cons_append, run_string, if_neg hq, if_neg hn, if_pos rfl] at hseen
    simp only [List.nil_append, run_string] at hseen
    split at hseen <;> exact absurd (h.symm.trans hseen) (by decide)
  | case16 quote opened line head rest hq hn ih =>
    rw [List.cons_append, run_string, if_neg hq, if_neg hn, if_pos rfl] at hseen ⊢
    exact ih h hseen
  | case17 quote opened line c rest hq hn he ih =>
    rw [List.cons_append, run_string, if_neg hq, if_neg hn, if_neg he] at hseen ⊢
    exact ih h hseen
  | case18 opened line rest ih => exact ih h hseen
  | case19 opened line c rest hc ih =>
    rw [List.cons_append, run] at hseen ⊢
    · exact ih h hseen
    · exact parts (by decide) hc
    · exact parts (by decide) hc

theorem checkBalance_append {css : List Char} (h : checkBalance css = .ok ())
    (hseen : (checkBalance (css ++ ['\n', '\x7b'])).isOk = false) (more : List Char) :
    (checkBalance (css ++ '\n' :: more)).isOk = (checkBalance more).isOk :=
  isOk_run_append (by rw [← checkBalance, h]; rfl) hseen more

end Balance

end StylePrune.Css
