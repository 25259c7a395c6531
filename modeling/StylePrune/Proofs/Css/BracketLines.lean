import StylePrune.Proofs.Css.RawBrackets

/-!
# The lines of brackets that do not pair

How the pairing takes each character is read off first (`seen`), and what makes a bracket wrong is
said of the text before it: `Blames`. The pairing keeps the brackets that are open in step with the
text before (`Stacked`), so an imbalance is that of the one wrong bracket, on its line
(`checkBalance_line`). A line end behind a backslash does not count.
-/

namespace StylePrune.Css.Balance

/-! ## How characters are taken -/

/-- How a character is taken: for what it is, as a part of a comment or a string, or behind a
backslash. -/
inductive Role where
  | plain
  | hidden
  | escaped
deriving DecidableEq

/-- A character with how it is taken. -/
abbrev Seen := Char × Role

/-- The characters of a text as the pairing takes them. -/
def seen : Mode → List Char → List Seen
  | _, [] => []
  | .plain, '\\' :: rest =>
    match rest with
    | [] => [('\\', .hidden)]
    | c :: rest => ('\\', .hidden) :: (c, .escaped) :: seen .plain rest
  | .plain, '/' :: '*' :: rest => ('/', .hidden) :: ('*', .hidden) :: seen .comment rest
  | .plain, c :: rest =>
    (c, .plain) :: seen (if c = '"' ∨ c = '\x27' then .string c else .plain) rest
  | .string quote, c :: rest =>
    if c = quote then (c, .hidden) :: seen .plain rest
    else if c = '\n' then (c, .plain) :: seen .plain rest
    else if c = '\\' then
      match rest with
      | [] => [(c, .hidden)]
      | d :: rest => (c, .hidden) :: (d, .escaped) :: seen (.string quote) rest
    else (c, .hidden) :: seen (.string quote) rest
  | .comment, '*' :: '/' :: rest => ('*', .hidden) :: ('/', .hidden) :: seen .plain rest
  | .comment, c :: rest => (c, .hidden) :: seen .comment rest

/-- The bracket that a character opens. -/
def Seen.opens? (m : Seen) : Option Bracket :=
  if m.2 = .plain then Bracket.ofOpener? m.1 else none

/-- The bracket that a character closes. -/
def Seen.closes? (m : Seen) : Option Bracket :=
  if m.2 = .plain then Bracket.ofCloser? m.1 else none

/-- Whether a character is a line end that counts. -/
def Seen.endsLine (m : Seen) : Bool := m.1 = '\n' && m.2 ≠ .escaped

/-- The number of the line behind a part of a text. -/
def lineBehind (before : List Seen) : Nat := 1 + before.countP Seen.endsLine

/-! ## Wrong brackets -/

/-- Every bracket of a part of a text is closed or opened in it by its own counterpart. -/
inductive Balanced : List Seen → Prop
  | nil : Balanced []
  | other {m : Seen} (hopens : m.opens? = none) (hcloses : m.closes? = none) : Balanced [m]
  | append {ms more : List Seen} (h : Balanced ms) (hmore : Balanced more) : Balanced (ms ++ more)
  | group (b : Bracket) {ms : List Seen} (h : Balanced ms) :
    Balanced ((b.opener, .plain) :: (ms ++ [(b.closer, .plain)]))

/-- A bracket is the innermost one open behind a part of a text. -/
def InnermostOpen (b : Bracket) (before : List Seen) : Prop :=
  ∃ outer inner, before = outer ++ (b.opener, .plain) :: inner ∧ Balanced inner

/-- A closing bracket behind a part of a text does not match the innermost open one. -/
def Mismatches (before : List Seen) (m : Seen) : Prop :=
  ∃ b, m.closes? = some b ∧ ¬ InnermostOpen b before

/-- No closing bracket of a text is wrong. -/
def Sound (text : List Seen) : Prop :=
  ∀ before m after, text = before ++ m :: after → ¬ Mismatches before m

/-- The wrong bracket of a text stands behind `before`: the first closing bracket that does not
match the innermost open one, or without such a bracket the innermost one still open at the end. -/
inductive Blames (text : List Seen) : List Seen → (Nat → Imbalance) → Prop
  | unexpected {before : List Seen} {m : Seen} {after : List Seen}
    (htext : text = before ++ m :: after) (hsound : Sound before) (h : Mismatches before m) :
    Blames text before (.unexpected m.1)
  | unclosed {outer : List Seen} {b : Bracket} {inner : List Seen}
    (htext : text = outer ++ (b.opener, .plain) :: inner) (hinner : Balanced inner)
    (hsound : Sound text) : Blames text outer (.unclosed b.closer)

/-! ## Pairing the characters one by one -/

/-- Pairs the brackets of characters as they are taken, with `opened` open. -/
def pair : List Open → Nat → List Seen → Except Imbalance Unit
  | opened, _, [] => atEnd opened
  | opened, line, m :: rest =>
    match m.opens? with
    | some b => pair (⟨b.closer, line⟩ :: opened) line rest
    | none =>
      match m.closes? with
      | none => pair opened (line + if m.endsLine then 1 else 0) rest
      | some b =>
        match opened with
        | innermost :: outer =>
          if innermost.closer = b.closer then pair outer line rest
          else .error (.unexpected m.1 line)
        | [] => .error (.unexpected m.1 line)

variable {mode : Mode} {opened opened' : List Open} {line : Nat} {cs css : List Char} {c : Char}
  {b : Bracket} {m : Seen} {ms rest before after outer inner : List Seen} {e : Imbalance}

theorem pair_opens (h : m.opens? = some b) :
    pair opened line (m :: rest) = pair (⟨b.closer, line⟩ :: opened) line rest := by
  simp only [pair, h]

theorem pair_other (hopens : m.opens? = none) (hcloses : m.closes? = none) :
    pair opened line (m :: rest) = pair opened (line + if m.endsLine then 1 else 0) rest := by
  simp only [pair, hopens, hcloses]

theorem Seen.eq_of_opens? (h : m.opens? = some b) : m = (b.opener, .plain) := by
  rw [Seen.opens?] at h
  split at h
  · rename_i hrole
    exact Prod.ext (Bracket.eq_opener h) hrole
  · cases h

theorem Seen.eq_of_closes? (h : m.closes? = some b) : m = (b.closer, .plain) := by
  rw [Seen.closes?] at h
  split at h
  · rename_i hrole
    exact Prod.ext (Bracket.eq_closer h) hrole
  · cases h

theorem Seen.opens?_of_closes? (h : m.closes? = some b) : m.opens? = none := by
  rw [eq_of_closes? h]
  cases b <;> rfl

theorem pair_closes {innermost : Open} (h : m.closes? = some b) :
    pair (innermost :: opened) line (m :: rest) =
      if innermost.closer = b.closer then pair opened line rest
      else .error (.unexpected m.1 line) := by
  simp only [pair, Seen.opens?_of_closes? h, h]

theorem pair_closes_nil (h : m.closes? = some b) :
    pair [] line (m :: rest) = .error (.unexpected m.1 line) := by
  simp only [pair, Seen.opens?_of_closes? h, h]

/-! ## The open brackets in step with the text -/

theorem lineBehind_append :
    lineBehind (before ++ ms) = lineBehind before + ms.countP Seen.endsLine := by
  rw [lineBehind, List.countP_append, ← Nat.add_assoc, ← lineBehind]

theorem lineBehind_opener : lineBehind (before ++ [(b.opener, .plain)]) = lineBehind before := by
  rw [lineBehind_append]
  cases b <;> rfl

theorem pair_balanced (h : Balanced ms) :
    pair opened line (ms ++ rest) = pair opened (line + ms.countP Seen.endsLine) rest := by
  induction h generalizing opened line rest with
  | nil => rfl
  | other hopens hcloses =>
    rw [List.singleton_append, pair_other hopens hcloses, List.countP_singleton]
  | append _ _ ih ihmore =>
    rw [List.append_assoc, ih, ihmore, List.countP_append, Nat.add_assoc]
  | group b _ ih =>
    rw [List.cons_append, List.append_assoc, pair_opens (b := b) (by cases b <;> rfl), ih,
      List.singleton_append, pair_closes (b := b) (by cases b <;> rfl),
      if_pos rfl]
    congr 1
    cases b <;> simp [Seen.endsLine, Bracket.opener, Bracket.closer]

/-- The brackets that are open behind a part of a text, innermost first. -/
inductive Stacked : List Open → List Seen → Prop
  | nil {before : List Seen} (h : Balanced before) : Stacked [] before
  | cons {opened : List Open} {outer inner : List Seen} (b : Bracket) (h : Stacked opened outer)
    (hinner : Balanced inner) :
    Stacked (⟨b.closer, lineBehind outer⟩ :: opened) (outer ++ (b.opener, .plain) :: inner)

theorem Stacked.append (h : Stacked opened before) (hms : Balanced ms) :
    Stacked opened (before ++ ms) := by
  cases h with
  | nil h => exact .nil (h.append hms)
  | cons b h hinner =>
    rw [List.append_assoc, List.cons_append]
    exact .cons b h (hinner.append hms)

theorem pair_stacked (h : Stacked opened before) :
    pair [] 1 (before ++ rest) = pair opened (lineBehind before) rest := by
  induction h generalizing rest with
  | nil h => exact pair_balanced h
  | @cons opened outer inner b h hinner ih =>
    rw [List.append_assoc, List.cons_append, ih, pair_opens (b := b) (by cases b <;> rfl),
      pair_balanced hinner, List.append_cons, lineBehind_append, lineBehind_opener]

/-- Only one list of brackets is open behind a part of a text, as far as the verdict goes. -/
theorem Stacked.atEnd_eq (h : Stacked opened before) (h' : Stacked opened' before) :
    atEnd opened = atEnd opened' := by
  have hpair : pair [] 1 (before ++ []) = pair opened (lineBehind before) [] := pair_stacked h
  rw [pair_stacked h'] at hpair
  exact hpair.symm

theorem Sound.of_append (h : Sound (before ++ after)) : Sound before := by
  rintro front m back rfl
  exact h front m (back ++ after) (by rw [List.append_assoc, List.cons_append])

/-- The brackets open behind a text without wrong closing brackets. -/
theorem Sound.stacked (h : Sound before) : ∃ opened, Stacked opened before := by
  induction hn : before.length using Nat.strongRecOn generalizing before with
  | ind n ih =>
    rcases List.eq_nil_or_concat before with rfl | ⟨front, m, rfl⟩
    · exact ⟨[], .nil .nil⟩
    · rw [List.concat_eq_append] at h hn
      rw [List.concat_eq_append]
      have hless : front.length < n := by
        rw [← hn, List.length_append]
        exact Nat.lt_succ_self _
      cases hopens : m.opens? with
      | some b =>
        obtain ⟨opened, hfront⟩ := ih _ hless h.of_append rfl
        rw [Seen.eq_of_opens? hopens]
        exact ⟨_, .cons b hfront .nil⟩
      | none =>
        cases hcloses : m.closes? with
        | none =>
          obtain ⟨opened, hfront⟩ := ih _ hless h.of_append rfl
          exact ⟨opened, hfront.append (.other hopens hcloses)⟩
        | some b =>
          -- The bracket that is closed stands further back, so the induction is on the length.
          have hopen : InnermostOpen b front :=
            Classical.byContradiction fun hnot => h front m [] rfl ⟨b, hcloses, hnot⟩
          obtain ⟨outer, inner, rfl, hinner⟩ := hopen
          obtain ⟨opened, houter⟩ := ih outer.length (by
            rw [List.length_append] at hless
            omega) h.of_append.of_append rfl
          rw [Seen.eq_of_closes? hcloses, List.append_assoc, List.cons_append]
          exact ⟨opened, houter.append (.group b hinner)⟩

theorem closer_injective {b b' : Bracket} (h : b.closer = b'.closer) : b = b' := by
  cases b <;> cases b' <;> first | rfl | exact absurd h (by decide)

theorem innermostOpen_iff (hsound : Sound before) (h : Stacked opened before) :
    InnermostOpen b before ↔ ∃ line outer, opened = ⟨b.closer, line⟩ :: outer := by
  constructor
  · rintro ⟨outer, inner, rfl, hinner⟩
    obtain ⟨opened', houter⟩ := hsound.of_append.stacked
    have hend := h.atEnd_eq (houter.cons b hinner)
    cases opened with
    | nil => cases hend
    | cons innermost opened =>
      obtain ⟨closer, line⟩ := innermost
      cases hend
      exact ⟨_, _, rfl⟩
  · rintro ⟨line, outer, rfl⟩
    generalize hb : b.closer = closer at h
    cases h with
    | cons b' h hinner =>
      obtain rfl := closer_injective hb
      exact ⟨_, _, rfl, hinner⟩

/-! ## The wrong bracket -/

theorem pair_of_blames {error : Nat → Imbalance} (h : Blames ms before error) :
    pair [] 1 ms = .error (error (lineBehind before)) := by
  cases h with
  | @unexpected m after htext hsound hmis =>
    obtain ⟨b, hcloses, hopen⟩ := hmis
    obtain ⟨opened, h⟩ := hsound.stacked
    rw [htext, pair_stacked h]
    rw [innermostOpen_iff hsound h] at hopen
    cases opened with
    | nil => exact pair_closes_nil hcloses
    | cons innermost opened =>
      rw [pair_closes hcloses, if_neg]
      intro heq
      exact hopen ⟨innermost.line, opened, by rw [← heq]⟩
  | @unclosed b inner htext hinner hsound =>
    obtain ⟨opened, h⟩ := (htext ▸ hsound).of_append.stacked
    rw [htext, ← List.append_nil (before ++ _), pair_stacked (h.cons b hinner)]
    rfl

theorem Sound.append_singleton (h : Sound before) (hm : ¬ Mismatches before m) :
    Sound (before ++ [m]) := by
  intro front m' back heq
  rcases List.eq_nil_or_concat back with rfl | ⟨back, last, rfl⟩
  · obtain ⟨rfl, hlast⟩ := List.append_inj' heq rfl
    cases hlast
    exact hm
  · rw [List.concat_eq_append, ← List.cons_append, ← List.append_assoc] at heq
    exact h front m' back (List.append_inj' heq rfl).1

/-- An error of the pairing is that of the wrong bracket. -/
theorem blames_of_pair (hsound : Sound before) (hstacked : Stacked opened before)
    (h : pair opened (lineBehind before) rest = .error e) :
    ∃ front error, Blames (before ++ rest) front error := by
  induction rest generalizing before opened with
  | nil =>
    rw [List.append_nil]
    cases hstacked with
    | nil => cases h
    | cons b h hinner => exact ⟨_, _, .unclosed rfl hinner hsound⟩
  | cons m rest ih =>
    by_cases hmis : Mismatches before m
    · exact ⟨_, _, .unexpected rfl hsound hmis⟩
    · have hsound' := hsound.append_singleton hmis
      obtain ⟨opened', hstacked'⟩ := hsound'.stacked
      rw [List.append_cons]
      refine ih hsound' hstacked' ?_
      rw [← pair_stacked hstacked', ← List.append_cons, pair_stacked hstacked]
      exact h

/-! ## From the text to its characters -/

theorem map_seen (mode : Mode) (cs : List Char) : (seen mode cs).map Prod.fst = cs := by
  fun_induction seen mode cs <;> simp_all

theorem seen_plain (he : c ≠ '\\') (hc : ∀ more, c = '/' → cs ≠ '*' :: more) :
    seen .plain (c :: cs) =
      (c, .plain) :: seen (if c = '"' ∨ c = '\x27' then .string c else .plain) cs := by
  rw [seen]
  · exact he
  · exact hc

theorem seen_string {quote : Char} :
    seen (.string quote) (c :: cs) =
      if c = quote then (c, .hidden) :: seen .plain cs
      else if c = '\n' then (c, .plain) :: seen .plain cs
      else if c = '\\' then
        match cs with
        | [] => [(c, .hidden)]
        | d :: rest => (c, .hidden) :: (d, .escaped) :: seen (.string quote) rest
      else (c, .hidden) :: seen (.string quote) cs := by
  cases cs <;> simp only [seen]

theorem pair_hidden : pair opened line ((c, .hidden) :: rest) =
    pair opened (if c = '\n' then line + 1 else line) rest := by
  rw [pair_other rfl rfl, Seen.endsLine]
  by_cases hc : c = '\n'
  · rw [if_pos hc, hc]
    rfl
  · simp [hc]

theorem pair_escaped : pair opened line ((c, .escaped) :: rest) = pair opened line rest := by
  rw [pair_other rfl rfl, Seen.endsLine]
  simp

/-- An error of the pairing is what pairing the characters as they are seen gives. -/
theorem pair_seen (hmode : mode ≠ .string '\n') (h : run mode opened line cs = .error e) :
    pair opened line (seen mode cs) = .error e := by
  have plain_ne : Mode.plain ≠ .string '\n' := Mode.noConfusion
  have comment_ne : Mode.comment ≠ .string '\n' := Mode.noConfusion
  fun_induction run mode opened line cs with
  | case1 => cases h
  | case2 mode opened line hend => rwa [seen]
  | case3 opened line =>
    rw [seen, pair_hidden]
    exact h
  | case4 opened line head rest ih =>
    rw [seen, pair_hidden, pair_escaped]
    exact ih plain_ne h
  | case5 opened line rest ih =>
    rw [seen, pair_hidden, pair_hidden]
    exact ih comment_ne h
  | case6 opened line rest he hc ih =>
    rw [seen_plain he hc, pair_other rfl rfl]
    exact ih plain_ne h
  | case7 opened line c rest he hc hn hq ih =>
    have hopens : Seen.opens? (c, .plain) = none := by rcases hq with rfl | rfl <;> rfl
    have hcloses : Seen.closes? (c, .plain) = none := by rcases hq with rfl | rfl <;> rfl
    rw [seen_plain he hc, if_pos hq, pair_other hopens hcloses, Seen.endsLine]
    simpa [hn] using ih (by simpa using hn) h
  | case8 opened line c rest he hc hn hq b hb ih =>
    have hopens : Seen.opens? (c, .plain) = some b := hb
    rw [seen_plain he hc, if_neg hq, pair_opens hopens]
    exact ih plain_ne h
  | case9 line rest innermost outer he hc hn hq hb hcl ih =>
    obtain ⟨b, hcloses⟩ : ∃ b, Seen.closes? (innermost.closer, .plain) = some b :=
      Option.isSome_iff_exists.1 hcl
    rw [seen_plain he hc, if_neg hq, pair_closes hcloses, if_pos (Bracket.eq_closer hcloses)]
    exact ih plain_ne h
  | case10 line c rest he hc hn hq hb hcl innermost outer hne =>
    obtain ⟨b, hcloses⟩ : ∃ b, Seen.closes? (c, .plain) = some b := Option.isSome_iff_exists.1 hcl
    rw [seen_plain he hc, if_neg hq, pair_closes hcloses,
      if_neg (Bracket.eq_closer hcloses ▸ hne)]
    exact h
  | case11 line c rest he hc hn hq hb hcl =>
    obtain ⟨b, hcloses⟩ : ∃ b, Seen.closes? (c, .plain) = some b := Option.isSome_iff_exists.1 hcl
    rw [seen_plain he hc, if_neg hq, pair_closes_nil hcloses]
    exact h
  | case12 opened line c rest he hc hn hq hb hcl ih =>
    have hopens : Seen.opens? (c, .plain) = none := hb
    have hcloses : Seen.closes? (c, .plain) = none := Option.not_isSome_iff_eq_none.1 hcl
    rw [seen_plain he hc, if_neg hq, pair_other hopens hcloses, Seen.endsLine]
    simpa [hn] using ih plain_ne h
  | case13 opened line quote rest ih =>
    have hn : quote ≠ '\n' := fun heq => hmode (congrArg Mode.string heq)
    rw [seen_string, if_pos rfl, pair_hidden, if_neg hn]
    exact ih plain_ne h
  | case14 quote opened line rest hq ih =>
    rw [seen_string, if_neg hq, if_pos rfl, pair_other rfl rfl]
    exact ih plain_ne h
  | case15 quote opened line hq hn =>
    rw [seen_string, if_neg hq, if_neg hn, if_pos rfl, pair_hidden]
    exact h
  | case16 quote opened line head rest hq hn ih =>
    rw [seen_string, if_neg hq, if_neg hn, if_pos rfl]
    simp only [pair_hidden, pair_escaped]
    exact ih hmode h
  | case17 quote opened line c rest hq hn he ih =>
    rw [seen_string, if_neg hq, if_neg hn, if_neg he, pair_hidden, if_neg hn]
    exact ih hmode h
  | case18 opened line rest ih =>
    rw [seen, pair_hidden, pair_hidden]
    exact ih plain_ne h
  | case19 opened line c rest hc ih =>
    rw [seen, pair_hidden]
    · exact ih comment_ne h
    · exact hc

/-- All line ends count but those behind a backslash. -/
theorem count_eq_countP_endsLine (ms : List Seen) :
    (ms.map Prod.fst).count '\n' = ms.countP Seen.endsLine + ms.count ('\n', .escaped) := by
  induction ms with
  | nil => rfl
  | cons m ms ih =>
    obtain ⟨c, role⟩ := m
    rw [List.map_cons, List.count_cons, ih, List.countP_cons, List.count_cons, Seen.endsLine]
    cases role <;> by_cases hc : c = '\n' <;> simp [hc] <;> omega

theorem Blames.isPrefix {error : Nat → Imbalance} (h : Blames ms before error) : before <+: ms := by
  cases h with
  | unexpected htext => exact ⟨_, htext.symm⟩
  | unclosed htext => exact ⟨_, htext.symm⟩

theorem map_of_isPrefix (h : before <+: seen .plain css) :
    before.map Prod.fst = css.take before.length := by
  obtain ⟨more, hmore⟩ := h
  rw [← map_seen .plain css, ← hmore, List.map_append, List.take_left' (List.length_map Prod.fst)]

theorem Blames.error_inj {error : Nat → Imbalance} (h : Blames ms before error) {m n : Nat} :
    error m = error n ↔ m = n := by
  cases h with
  | unexpected => rw [Imbalance.unexpected.injEq, eq_self, true_and]
  | unclosed => rw [Imbalance.unclosed.injEq, eq_self, true_and]

/-- An imbalance names the wrong bracket of the text, and there is one. Its line is that of the
bracket, where the line ends before it are counted that stand behind no backslash: the number of
all line ends before it and one, unless one of them stands behind a backslash. -/
theorem checkBalance_line (h : checkBalance css = .error e) :
    (∃ before error, Blames (seen .plain css) before error) ∧
      ∀ before error, Blames (seen .plain css) before error →
        before.map Prod.fst = css.take before.length ∧
        e = error (1 + before.countP Seen.endsLine) ∧
        (e = error (1 + (css.take before.length).count '\n') ↔ ('\n', .escaped) ∉ before) := by
  have hpair : pair [] (lineBehind []) (seen .plain css) = .error e :=
    pair_seen Mode.noConfusion h
  refine ⟨?_, fun before error hblames => ?_⟩
  · exact blames_of_pair (fun front m back heq => by simp at heq) (.nil .nil) hpair
  · have heq : e = error (1 + before.countP Seen.endsLine) :=
      Except.error.inj (hpair.symm.trans (pair_of_blames hblames))
    refine ⟨map_of_isPrefix hblames.isPrefix, heq, ?_⟩
    rw [← map_of_isPrefix hblames.isPrefix, count_eq_countP_endsLine, heq, hblames.error_inj,
      ← List.count_eq_zero]
    omega

/-- Line ends in a comment, in plain text and at the end of a string that they break off. -/
theorem checkBalance_line_mixed :
    let css := ['/', '*', '\n', '*', '/', '(', '\n', '\x27', '\n', '\\', ')', ']']
    checkBalance css = .error (.unexpected ']' 4) ∧
      ∃ before error, Blames (seen .plain css) before error ∧
        Imbalance.unexpected ']' 4 = error (1 + (css.take before.length).count '\n') := by
  intro css
  have hcss : checkBalance css = .error (.unexpected ']' 4) := rfl
  obtain ⟨⟨before, error, hblames⟩, h⟩ := checkBalance_line hcss
  have hclear : ('\n', Role.escaped) ∉ seen .plain css := by decide +kernel
  exact ⟨hcss, before, error, hblames,
    (h before error hblames).2.2.2 fun hmem => hclear (hblames.isPrefix.subset hmem)⟩

/-- A line end that stands behind a backslash is passed over, here in a string. -/
theorem checkBalance_line_skipped :
    let css := ['"', '\\', '\n', '"', '\x7d']
    let before := [('"', .plain), ('\\', .hidden), ('\n', .escaped), ('"', .hidden)]
    checkBalance css = .error (.unexpected '\x7d' 1) ∧
      Blames (seen .plain css) before (.unexpected '\x7d') ∧
      1 + (css.take before.length).count '\n' = 2 := by
  intro css before
  have hsound : Sound before := by
    rintro front m back heq ⟨b, hb, -⟩
    have hcloses : ∀ m ∈ before, Seen.closes? m = none := by decide +kernel
    rw [hcloses m (by rw [heq]; simp)] at hb
    cases hb
  have hmis : Mismatches before ('\x7d', .plain) := by
    refine ⟨.curly, rfl, ?_⟩
    rintro ⟨outer, inner, heq, -⟩
    have hopen : (Bracket.curly.opener, Role.plain) ∉ before := by decide +kernel
    exact hopen (by rw [heq]; simp)
  exact ⟨rfl, .unexpected rfl hsound hmis, rfl⟩

end StylePrune.Css.Balance
