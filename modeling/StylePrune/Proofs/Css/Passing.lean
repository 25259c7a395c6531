import StylePrune.Proofs.Css.LineEnds
import StylePrune.Proofs.Css.RawBrackets

/-!
# Raw brackets and the readers of the lexer

The lexer reads the normal form of a text, and the raw pairing the text itself. What a reader takes
up is passed over by the pairing: names with their escapes and numbers are calm (`Calm.skips`), and
so are, if their source is clear, comments (`accepts_comment_text`), strings (`accepts_quoted`) and
unquoted addresses (`accepts_bare`). A comment is clear if its own mark ends it, a string if a line
feed stands in it only behind a backslash, and an address if no quote, bracket or start of a comment
stands in it but behind a backslash.
-/

namespace StylePrune.Css.Lexer

open Balance (accepts isInert isInert_of_class accepts_inert)

variable {opened : List Bracket} {c : Char} {cs rest raw : List Char} {m n : Nat}

/-- The raw pairing passes over what the first `n` characters of the normal form stand for. -/
def Skips (raw : List Char) (n : Nat) : Prop :=
  ∀ opened, accepts .plain opened raw = accepts .plain opened (rawDrop n raw)

/-- The first `n` characters of a text are inert, or stand behind a backslash. -/
inductive Calm : List Char → Nat → Prop
  | zero {cs : List Char} : Calm cs 0
  | inert {c : Char} {cs : List Char} {n : Nat} (hc : isInert c = true) (h : Calm cs n) :
    Calm (c :: cs) (n + 1)
  | escape {c : Char} {cs : List Char} {n : Nat} (h : Calm cs n) : Calm ('\\' :: c :: cs) (n + 2)
  /-- A backslash at the end of the text. -/
  | last : Calm ['\\'] 1

/-! ## Calm texts -/

theorem accepts_starts (h : Starts c rest raw) (hc : isInert c = true) :
    accepts .plain opened raw = accepts .plain opened rest := by
  cases h with
  | pair => rw [accepts_inert (.inl (by decide)), accepts_inert (.inl (by decide))]
  | char hd =>
    refine accepts_inert (.inl ?_)
    rcases normalChar_eq hd with rfl | ⟨-, rfl | rfl⟩ | ⟨-, rfl⟩
    · exact hc
    all_goals decide

theorem accepts_escape_starts (h : Starts c rest raw) :
    accepts .plain opened ('\\' :: raw) = accepts .plain opened rest := by
  cases h with
  | pair => rw [Balance.accepts_escape, accepts_inert (.inl (by decide))]
  | char => exact Balance.accepts_escape

namespace Calm

/-- What is calm in the normal form is passed over in the text. -/
theorem skips (h : Calm cs n) (hraw : normalize raw = cs) : Skips raw n := by
  intro opened
  induction h generalizing raw with
  | zero => rfl
  | inert hc _ ih =>
    obtain ⟨rest, hstarts, hrest⟩ := starts_of_normalize hraw
    rw [accepts_starts hstarts hc, ih hrest, hstarts.rawDrop_succ]
  | escape _ ih =>
    obtain ⟨more, hstarts, hmore⟩ := starts_of_normalize hraw
    obtain ⟨rest, hescaped, hrest⟩ := starts_of_normalize hmore
    obtain rfl := hstarts.eq_cons (by decide) (by decide)
    rw [accepts_escape_starts hescaped, ih hrest, hstarts.rawDrop_succ, hescaped.rawDrop_succ]
  | last =>
    obtain ⟨rest, hstarts, hrest⟩ := starts_of_normalize hraw
    obtain rfl := hstarts.eq_cons (by decide) (by decide)
    obtain rfl := normalize_eq_nil hrest
    exact Balance.accepts_lone_backslash.trans Balance.accepts_nil.symm

theorem add (h : Calm cs m) (h' : Calm (cs.drop m) n) : Calm cs (m + n) := by
  induction h with
  | zero => rwa [Nat.zero_add]
  | inert hc _ ih => exact Nat.succ_add _ n ▸ (ih h').inert hc
  | escape _ ih => exact (Nat.succ_add _ n).trans (congrArg _ (Nat.succ_add _ n)) ▸ (ih h').escape
  | last =>
    cases h'
    exact last

theorem of_beginning {ds : List Char} (h : ds <+: cs) (hd : ∀ d ∈ ds, isInert d = true) :
    Calm cs ds.length := by
  obtain ⟨rest, rfl⟩ := h
  induction ds with
  | nil => exact zero
  | cons d ds ih =>
    obtain ⟨hc, hds⟩ := List.forall_mem_cons.1 hd
    exact (ih hds).inert hc

theorem takeWhile {p : Char → Bool} (hp : Balance.special.any p = false) (h : rest <+: cs) :
    Calm cs (rest.takeWhile p).length :=
  of_beginning ((List.takeWhile_prefix p).trans h) fun _ hd =>
    isInert_of_class hp (List.all_eq_true.1 List.all_takeWhile _ hd)

end Calm

/-! ## Names -/

/-- The digits of an escape by number and the blank that ends it. -/
def isEscapeTail (c : Char) : Bool := isHex c || isSpace c

/-- An escape takes up one character and then digits and a blank only. -/
theorem escape_tail (c : Char) (rest : List Char) :
    ∃ ds more, rest = ds ++ more ∧ (escape (c :: rest)).2 = ds.length + 1 ∧
      ∀ d ∈ ds, isEscapeTail d = true := by
  have hex : ∀ d ∈ (rest.take 5).takeWhile isHex, isEscapeTail d = true := fun d hd => by
    have := List.all_eq_true.1 (List.all_takeWhile (p := isHex) (l := rest.take 5)) d hd
    simp [isEscapeTail, this]
  rw [escape, List.take_succ_cons, List.takeWhile_cons]
  by_cases hc : isHex c = true
  · rw [if_pos hc]
    generalize hds : (rest.take 5).takeWhile isHex = ds at hex
    obtain ⟨more, rfl⟩ : ds <+: rest :=
      hds ▸ (List.takeWhile_prefix _).trans (List.take_prefix _ _)
    simp only [List.isEmpty_cons, Bool.false_eq_true, if_false, List.length_cons,
      List.drop_succ_cons, List.drop_left]
    cases more with
    | nil => exact ⟨ds, [], rfl, rfl, hex⟩
    | cons d more =>
      by_cases hs : isSpace d = true
      · refine ⟨ds ++ [d], more, by simp, by simp [hs], fun x hx => ?_⟩
        rcases List.mem_append.1 hx with hx | hx
        · exact hex x hx
        · rw [List.mem_singleton.1 hx, isEscapeTail, hs, Bool.or_true]
      · exact ⟨ds, d :: more, rfl, by simp [hs], hex⟩
  · rw [if_neg hc]
    exact ⟨[], rest, rfl, rfl, by simp⟩

theorem calm_escape (rest : List Char) : Calm ('\\' :: rest) ((escape rest).2 + 1) := by
  cases rest with
  | nil => exact .last
  | cons c rest =>
    obtain ⟨ds, more, rfl, hlength, htail⟩ := escape_tail c rest
    rw [hlength]
    refine .escape (.of_beginning (List.prefix_append ds more) fun d hd => ?_)
    exact isInert_of_class (by decide) (htail d hd)

theorem calm_name (cs : List Char) : Calm cs (name cs).2 := by
  fun_induction name cs with
  | case1 => exact .zero
  | case2 c rest hc value n hn ih =>
    rw [hn] at ih
    exact ih.inert (isInert_of_class (by decide) hc)
  | case3 c rest hc h p k hk value n hn ih =>
    rw [hn] at ih
    obtain ⟨rfl, -⟩ : c = '\\' ∧ _ := by simpa using h
    have hescape := calm_escape rest
    rw [hk] at hescape
    rw [show n + k + 1 = k + 1 + n by omega]
    exact hescape.add ih
  | case4 => exact .zero

/-! ## Numbers -/

theorem calm_digits (cs : List Char) : Calm cs (digits cs) :=
  Calm.takeWhile (by decide) List.prefix_rfl

theorem calm_sign (cs : List Char) :
    Calm cs (match cs with
      | c :: _ => if c = '+' || c = '-' then 1 else 0
      | [] => 0) := by
  split
  · split
    · rename_i h
      exact Calm.zero.inert (isInert_of_class (p := fun c => c = '+' || c = '-') (by decide) h)
    · exact Calm.zero
  · exact Calm.zero

theorem calm_exponent (cs : List Char) : Calm cs (exponentLength cs) := by
  fun_cases exponentLength cs with
  | case1 | case3 | case4 => exact Calm.zero
  | case2 c rest hc sign n hn =>
    rw [Nat.add_assoc, Nat.add_comm]
    exact ((calm_sign rest).add (calm_digits _)).inert
      (isInert_of_class (p := fun c => c = 'e' || c = 'E') (by decide) hc)

theorem calm_number {isInteger : Bool} (h : numberLength? cs = some (n, isInteger)) :
    Calm cs n := by
  unfold numberLength? at h
  extract_lets sign whole fraction mantissa at h
  split at h
  · cases h
  obtain ⟨rfl, -⟩ := Prod.mk.inj (Option.some.inj h)
  have hwhole : Calm cs (sign + whole) := (calm_sign cs).add (calm_digits _)
  have hfraction : fraction = 0 ∨
      ∃ rest, cs.drop (sign + whole) = '.' :: rest ∧ fraction = digits rest := by
    simp only [fraction]
    split
    · rename_i rest hrest
      exact .inr ⟨rest, hrest, rfl⟩
    · exact .inl rfl
  have hmantissa : Calm cs (sign + mantissa) := by
    by_cases hf : fraction = 0
    · simpa only [mantissa, hf, if_true] using hwhole
    obtain ⟨rest, hrest, hdigits⟩ := hfraction.resolve_left hf
    rw [show sign + mantissa = sign + whole + (digits rest + 1) by
      simp only [mantissa, if_neg hf, hdigits]; omega]
    exact hwhole.add (hrest ▸ (calm_digits rest).inert (by decide))
  exact hmantissa.add (calm_exponent _)

theorem calm_unicodeRange (cs : List Char) : Calm cs (unicodeRange cs).2.2 := by
  unfold unicodeRange
  extract_lets first marks used
  have hused : Calm cs used :=
    (Calm.takeWhile (p := isHex) (by decide) (List.take_prefix 6 cs)).add
      (Calm.takeWhile (p := (· = '?')) (by decide) (List.take_prefix _ _))
  split
  · exact hused
  split
  · rename_i rest hrest
    extract_lets last
    split
    · exact hused
    · rw [Nat.add_assoc, Nat.add_comm 1]
      exact hused.add (hrest ▸ (Calm.takeWhile (p := isHex) (by decide)
        (List.take_prefix 6 rest)).inert (by decide))
  · exact hused

/-! ## Comments -/

theorem isSuffixOf_mark_cons {d : Char} {text : List Char} (h : d = '*' → text ≠ ['/']) :
    ['*', '/'].isSuffixOf (d :: text) = ['*', '/'].isSuffixOf text := by
  rw [Bool.eq_iff_iff, List.isSuffixOf_iff_suffix, List.isSuffixOf_iff_suffix, List.suffix_cons_iff]
  refine or_iff_right fun hmark => ?_
  obtain ⟨hd, htext⟩ := List.cons.inj hmark
  exact h hd.symm htext.symm

/-- A comment that its own mark ends is passed over, and any other hides the rest of the text. -/
theorem accepts_comment_text (hraw : normalize raw = cs) :
    accepts .comment opened raw =
      (!(['*', '/'].isSuffixOf (rawTake (comment cs).2 raw)) ||
        accepts .plain opened (rawDrop (comment cs).2 raw)) := by
  fun_induction comment cs generalizing raw with
  | case1 =>
    obtain rfl := normalize_eq_nil hraw
    rfl
  | case2 rest =>
    obtain ⟨more, hstar, hmore⟩ := starts_of_normalize hraw
    obtain ⟨more', hslash, -⟩ := starts_of_normalize hmore
    obtain rfl := hslash.eq_cons (by decide) (by decide)
    obtain rfl := hstar.eq_cons (by decide) (by decide)
    exact Balance.accepts_comment_end
  | case3 c rest hc text n hn ih =>
    obtain ⟨more, hstarts, hmore⟩ := starts_of_normalize hraw
    have hopen : c = '*' → ∀ behind, more ≠ '/' :: behind := by
      rintro rfl behind rfl
      rw [normalize_cons fun _ h => absurd h (by decide)] at hmore
      exact hc (normalize behind) rfl hmore.symm
    have htake : c = '*' → rawTake n more ≠ ['/'] := fun h htake =>
      hopen h (rawDrop n more) ((rawTake_append_rawDrop n more).symm.trans (by rw [htake]; rfl))
    rw [hn] at ih
    rw [hstarts.rawDrop_succ]
    cases hstarts with
    | pair =>
      have hfeed : '\n' ≠ '*' := by decide
      have hreturn : '\r' ≠ '*' := by decide
      rw [rawTake, isSuffixOf_mark_cons fun h => absurd h hreturn,
        isSuffixOf_mark_cons fun h => absurd h hfeed,
        Balance.accepts_comment_other fun _ h => absurd h hreturn,
        Balance.accepts_comment_other fun _ h => absurd h hfeed, ih hmore]
    | @char d hd hpair =>
      have hstar : d = '*' → c = '*' := fun h => by rw [← hd, h]; rfl
      rw [rawTake, isSuffixOf_mark_cons fun h => htake (hstar h),
        Balance.accepts_comment_other fun behind h => hopen (hstar h) behind, ih hmore]
      exact hpair

/-! ## Strings -/

/-- A text with line feeds only behind backslashes. -/
def linesEscaped : List Char → Bool
  | [] => true
  | '\\' :: _ :: rest => linesEscaped rest
  | c :: rest => c != '\n' && linesEscaped rest

theorem linesEscaped_cons {c : Char} {rest : List Char} (hc : c ≠ '\\') :
    linesEscaped (c :: rest) = (c != '\n' && linesEscaped rest) := by
  rw [linesEscaped]
  exact fun _ _ he _ => hc he

/-- One character of a string, if it is neither a quote nor a backslash nor a line feed. -/
theorem accepts_string_starts (opened : List Bracket) {q : Char} (hq : q = '"' ∨ q = '\x27')
    (h : Starts c rest raw) (hc : c ≠ q ∧ c ≠ '\\')
    (hlines : linesEscaped (rawTake (n + 1) raw) = true) :
    accepts (.string q) opened raw = accepts (.string q) opened rest ∧
      linesEscaped (rawTake n rest) = true := by
  cases h with
  | pair => cases hlines
  | @char d hd hpair =>
    have hne : d ≠ q ∧ d ≠ '\\' := by
      rcases normalChar_eq hd with rfl | ⟨-, rfl | rfl⟩ | ⟨-, rfl⟩
      · exact hc
      all_goals rcases hq with rfl | rfl <;> decide
    rw [rawTake, linesEscaped_cons hne.2, Bool.and_eq_true] at hlines
    · exact ⟨Balance.accepts_string_other hne.1 (by simpa using hlines.1) hne.2, hlines.2⟩
    · exact hpair

/-- Characters of an escape by number are inert in strings too, but for line feeds. -/
theorem ne_of_isEscapeTail {q c : Char} (hq : q = '"' ∨ q = '\x27') (h : isEscapeTail c = true) :
    c ≠ q ∧ c ≠ '\\' := by
  constructor <;> rintro rfl
  · rcases hq with rfl | rfl <;> exact absurd h (by decide)
  · exact absurd h (by decide)

theorem accepts_string_tail (opened : List Bracket) {q : Char} (hq : q = '"' ∨ q = '\x27')
    {ds more : List Char} (hd : ∀ d ∈ ds, isEscapeTail d = true) (hraw : normalize raw = ds ++ more)
    (hlines : linesEscaped (rawTake (ds.length + n) raw) = true) :
    accepts (.string q) opened raw = accepts (.string q) opened (rawDrop ds.length raw) ∧
      linesEscaped (rawTake n (rawDrop ds.length raw)) = true := by
  induction ds generalizing raw with
  | nil => exact ⟨rfl, by rwa [List.length_nil, Nat.zero_add] at hlines⟩
  | cons d ds ih =>
    obtain ⟨hd, hds⟩ := List.forall_mem_cons.1 hd
    obtain ⟨rest, hstarts, hrest⟩ := starts_of_normalize hraw
    rw [List.length_cons, Nat.succ_add] at hlines
    obtain ⟨hstep, hlines⟩ :=
      accepts_string_starts opened hq hstarts (ne_of_isEscapeTail hq hd) hlines
    rw [hstep, List.length_cons, hstarts.rawDrop_succ]
    exact ih hds hrest hlines

theorem accepts_quoted {q : Char} (hq : q = '"' ∨ q = '\x27') (hraw : normalize raw = cs)
    (hlines : linesEscaped (rawTake (quoted q cs).2.2 raw) = true)
    (hend : (quoted q cs).2.1 = .newline → (rawDrop (quoted q cs).2.2 raw).head? = some '\n') :
    accepts (.string q) opened raw = accepts .plain opened (rawDrop (quoted q cs).2.2 raw) := by
  have hqe : '\\' ≠ q := by rcases hq with rfl | rfl <;> decide
  have hqn : '\n' ≠ q := by rcases hq with rfl | rfl <;> decide
  have hqu : q ≠ '\uFFFD' := by rcases hq with rfl | rfl <;> decide
  fun_induction quoted q cs generalizing raw with
  | case1 =>
    obtain rfl := normalize_eq_nil hraw
    exact Balance.accepts_string_nil.trans Balance.accepts_nil.symm
  | case2 rest =>
    obtain ⟨more, hstarts, -⟩ := starts_of_normalize hraw
    obtain rfl := hstarts.eq_cons hqn.symm hqu
    rw [hstarts.rawDrop_succ]
    exact Balance.accepts_string_quote
  | case3 =>
    obtain ⟨more, hstarts, hmore⟩ := starts_of_normalize hraw
    obtain rfl := hstarts.eq_cons (by decide) (by decide)
    obtain rfl := normalize_eq_nil hmore
    exact (Balance.accepts_string_lone_backslash hqe).trans Balance.accepts_nil.symm
  | case4 more value stop n hn _ ih =>
    obtain ⟨behind, hstarts, hbehind⟩ := starts_of_normalize hraw
    obtain rfl := hstarts.eq_cons (by decide) (by decide)
    obtain ⟨rest, hline, hrest⟩ := starts_of_normalize hbehind
    rw [hn] at ih
    rw [hstarts.rawDrop_succ, hline.rawDrop_succ] at hend ⊢
    cases hline with
    | pair => cases hlines
    | char _ hpair =>
      rw [Balance.accepts_string_escape hqe]
      refine ih hrest ?_ hend
      rwa [rawTake, rawTake, linesEscaped] at hlines
      · exact hpair
      · exact fun _ h => absurd h (by decide)
  | case5 rest hempty hline p k hk value stop n hn _ ih =>
    rw [hn] at ih
    obtain ⟨behind, hstarts, hbehind⟩ := starts_of_normalize hraw
    obtain rfl := hstarts.eq_cons (by decide) (by decide)
    cases rest with
    | nil => exact absurd rfl hempty
    | cons c rest =>
      obtain ⟨ds, more, rfl, hlength, htail⟩ := escape_tail c rest
      obtain rfl : k = ds.length + 1 := by rw [← hlength, hk]
      obtain ⟨after, hescaped, hafter⟩ := starts_of_normalize hbehind
      rw [show n + (ds.length + 1) + 1 = (ds.length + n) + 1 + 1 by omega] at hlines hend ⊢
      rw [hstarts.rawDrop_succ, hescaped.rawDrop_succ, rawDrop_add] at hend ⊢
      cases hescaped with
      | pair hc => exact absurd (hc ▸ rfl) (hline (ds ++ more))
      | char _ hpair =>
        rw [rawTake, rawTake, linesEscaped] at hlines
        · obtain ⟨htext, hlines⟩ := accepts_string_tail opened hq htail hafter hlines
          rw [Balance.accepts_string_escape hqe, htext]
          refine ih ?_ hlines hend
          rw [normalize_rawDrop, hafter, List.drop_succ_cons]
        · exact hpair
        · exact fun _ h => absurd h (by decide)
  | case6 rest hne _ =>
    obtain ⟨more, hmore⟩ := List.head?_eq_some_iff.1 (hend rfl)
    obtain rfl : raw = '\n' :: more := hmore
    exact Balance.accepts_string_newline hqn
  | case7 c rest hc he hl value stop n hn ih =>
    rw [hn] at ih
    obtain ⟨behind, hstarts, hbehind⟩ := starts_of_normalize hraw
    obtain ⟨hstep, hlines⟩ := accepts_string_starts opened hq hstarts ⟨hc, he⟩ hlines
    rw [hstarts.rawDrop_succ] at hend ⊢
    rw [hstep]
    exact ih hbehind hlines hend

/-- What is left of a text behind a string that a line end ends. -/
theorem quoted_newline {q : Char} (h : (quoted q cs).2.1 = .newline) :
    (cs.drop (quoted q cs).2.2).head? = some '\n' := by
  fun_induction quoted q cs with
  | case1 | case2 | case3 => cases h
  | case4 more value stop n hn _ ih =>
    rw [hn] at ih
    exact ih h
  | case5 rest _ _ p k hk value stop n hn _ ih =>
    rw [hn] at ih
    rw [show n + k + 1 = k + n + 1 by omega, List.drop_succ_cons, ← List.drop_drop]
    exact ih h
  | case6 => rfl
  | case7 c rest _ _ _ value stop n hn ih =>
    rw [hn] at ih
    exact ih h

/-! ## Addresses -/

/-- The text of an unquoted address behind its opening bracket, up to its closing one, without a
quote, bracket or start of a comment but behind a backslash. -/
def isBare : List Char → Bool
  | [] => false
  | [')'] => true
  | '\\' :: _ :: rest => isBare rest
  | c :: rest => (isInert c || c == '/' && rest.head? != some '*') && isBare rest

theorem accepts_bare {body rest : List Char} (h : isBare body = true) :
    accepts .plain (.paren :: opened) (body ++ rest) = accepts .plain opened rest := by
  fun_induction isBare body with
  | case1 => cases h
  | case2 =>
    rw [List.singleton_append]
    exact (Balance.accepts_closer (b := .paren)).trans (by simp)
  | case3 c more ih =>
    rw [List.cons_append, List.cons_append, Balance.accepts_escape]
    exact ih h
  | case4 c more hlast hescape ih =>
    rw [Bool.and_eq_true] at h
    have hmore : (more ++ rest).head? = more.head? := by
      cases more with
      | nil => cases h.2
      | cons d more => rfl
    rw [List.cons_append, accepts_inert, ih h.2]
    simpa [hmore] using h.1

/-- What stands behind the first opening bracket that no backslash hides. -/
def behindBracket : List Char → List Char
  | [] => []
  | '\\' :: _ :: rest => behindBracket rest
  | c :: rest => if c = '(' then rest else behindBracket rest

theorem behindBracket_append {text rest : List Char} (h : ∀ c ∈ text, c ≠ '\\' ∧ c ≠ '(') :
    behindBracket (text ++ rest) = behindBracket rest := by
  induction text with
  | nil => rfl
  | cons c text ih =>
    obtain ⟨⟨he, hc⟩, htext⟩ := List.forall_mem_cons.1 h
    rw [List.cons_append, behindBracket, if_neg hc, ih htext]
    exact fun _ _ hb _ => he hb

/-- In a calm text no bracket stands but behind a backslash. -/
theorem behindBracket_calm {more : List Char} (h : Calm cs n) (hraw : normalize raw = cs)
    (hn : cs.drop n = '(' :: more) (rest : List Char) :
    behindBracket (rawTake n raw ++ '(' :: rest) = rest := by
  induction h generalizing raw with
  | zero =>
    rw [rawTake, List.nil_append, behindBracket, if_pos rfl]
    exact fun _ _ h _ => absurd h (by decide)
  | @inert c cs n hc _ ih =>
    obtain ⟨tail, hstarts, htail⟩ := starts_of_normalize hraw
    have inert : ∀ d, isInert d = true → d ≠ '\\' ∧ d ≠ '(' := by
      rintro d hd
      constructor <;> rintro rfl <;> exact absurd hd (by decide)
    rw [List.drop_succ_cons] at hn
    cases hstarts with
    | pair =>
      rw [rawTake, List.cons_append, List.cons_append]
      exact (@behindBracket_append ['\r', '\n'] _ (by simp)).trans (ih htail hn)
    | @char d hd hpair =>
      rw [rawTake, List.cons_append, ← List.singleton_append, behindBracket_append, ih htail hn]
      · intro x hx
        obtain rfl := List.mem_singleton.1 hx
        rcases normalChar_eq hd with rfl | ⟨-, rfl | rfl⟩ | ⟨-, rfl⟩
        · exact inert _ hc
        all_goals decide
      · exact hpair
  | escape _ ih =>
    obtain ⟨behind, hstarts, hbehind⟩ := starts_of_normalize hraw
    obtain rfl := hstarts.eq_cons (by decide) (by decide)
    obtain ⟨tail, hescaped, htail⟩ := starts_of_normalize hbehind
    rw [List.drop_succ_cons, List.drop_succ_cons] at hn
    cases hescaped with
    | pair =>
      rw [rawTake, rawTake, List.cons_append, List.cons_append, List.cons_append, behindBracket]
      · exact (@behindBracket_append ['\n'] _ (by simp)).trans (ih htail hn)
      · exact fun _ h => absurd h (by decide)
    | char _ hpair =>
      rw [rawTake, rawTake, List.cons_append, List.cons_append, behindBracket, ih htail hn]
      · exact hpair
      · exact fun _ h => absurd h (by decide)
  | last => cases hn

end StylePrune.Css.Lexer
