import StylePrune.Glob.Basic
import StylePrune.Proofs.Disk.Places

/-!
# Globs segment by segment

A glob is matched along the whole text of a path, and what it means is said name by name:
`SegmentsMatch`. What the pieces of a glob read is split at their slashes (`reads_iff`), so the two
agree on every path without a line end. On other paths two stars pass over no line end, and one at
the very end of the path may be left out (`isMatch_iff`).
-/

namespace StylePrune.Glob

/-! ## Names and segments -/

/-- In a segment a star is any run of characters, a question mark one character, and everything else
itself. -/
inductive NameMatches : List Char → List Char → Prop
  | nil : NameMatches [] []
  | star (run : List Char) {segment name : List Char} (h : NameMatches segment name) :
    NameMatches ('*' :: segment) (run ++ name)
  | one (c : Char) {segment name : List Char} (h : NameMatches segment name) :
    NameMatches ('?' :: segment) (c :: name)
  | char {c : Char} (hstar : c ≠ '*') (hone : c ≠ '?') {segment name : List Char}
    (h : NameMatches segment name) : NameMatches (c :: segment) (c :: name)

/-- Two stars, the segment that stands for any number of names. -/
def stars : List Char := ['*', '*']

/-- Segments match names in order. Two stars stand for any number of `free` names, for at least one
if they come last; any other segment matches one name. -/
inductive SegmentsMatch (free : List Char → Prop) : List (List Char) → List (List Char) → Prop
  | nil : SegmentsMatch free [] []
  | deep {glob skipped names : List (List Char)} (hne : glob ≠ [])
    (hskipped : ∀ n ∈ skipped, free n) (h : SegmentsMatch free glob names) :
    SegmentsMatch free (stars :: glob) (skipped ++ names)
  | last {names : List (List Char)} (hne : names ≠ []) (hnames : ∀ n ∈ names, free n) :
    SegmentsMatch free [stars] names
  | name {segment name : List Char} {glob names : List (List Char)} (hsegment : segment ≠ stars)
    (hname : NameMatches segment name) (h : SegmentsMatch free glob names) :
    SegmentsMatch free (segment :: glob) (name :: names)

/-- The text of segments or names below the root. -/
def joined (names : List (List Char)) : List Char := List.intercalate ['/'] names

/-- The absolute path of some names, or the absolute glob of some segments. -/
def rooted (names : List (List Char)) : String := String.ofList ('/' :: joined names)

/-- A segment without slashes of either kind that holds two stars in a row only as a whole. -/
def IsSegment (s : List Char) : Prop := '/' ∉ s ∧ '\\' ∉ s ∧ (stars <:+: s → s = stars)

/-- A name without line ends. -/
def LineFree (n : List Char) : Prop := '\n' ∉ n

variable {glob names path : List (List Char)}

theorem SegmentsMatch.ne_nil {free : List Char → Prop} (h : SegmentsMatch free glob names)
    (hne : glob ≠ []) : names ≠ [] := by
  induction h with
  | nil => exact absurd rfl hne
  | deep hglob _ _ ih => exact List.append_ne_nil_of_right_ne_nil _ (ih hglob)
  | last hnames => exact hnames
  | name => exact List.cons_ne_nil _ _

/-- Only the names themselves have to be free. -/
theorem SegmentsMatch.of_free {free free' : List Char → Prop} (h : SegmentsMatch free glob names)
    (hfree : ∀ n ∈ names, free' n) : SegmentsMatch free' glob names := by
  induction h with
  | nil => exact .nil
  | deep hne _ _ ih =>
    obtain ⟨hskipped, hnames⟩ := List.forall_mem_append.1 hfree
    exact .deep hne hskipped (ih hnames)
  | last hne _ => exact .last hne hfree
  | name hs hname _ ih => exact .name hs hname (ih (List.forall_mem_cons.1 hfree).2)

/-! ## Joined names -/

theorem joined_singleton (n : List Char) : joined [n] = n := List.intercalate_singleton

theorem joined_cons (n : List Char) (hne : names ≠ []) :
    joined (n :: names) = n ++ '/' :: joined names := by
  obtain ⟨m, more, rfl⟩ := List.exists_cons_of_ne_nil hne
  rw [joined, List.intercalate_cons_cons, List.append_assoc]
  rfl

theorem joined_append (hnames : names ≠ []) (hpath : path ≠ []) :
    joined (names ++ path) = joined names ++ '/' :: joined path := by
  induction names with
  | nil => exact absurd rfl hnames
  | cons n names ih =>
    by_cases hne : names = []
    · rw [hne, joined_singleton]
      exact joined_cons n hpath
    · rw [List.cons_append, joined_cons n (List.append_ne_nil_of_left_ne_nil hne _), ih hne,
        joined_cons n hne, List.append_assoc, List.cons_append]

theorem joined_splitOn (text : List Char) : joined (splitOn '/' text) = text :=
  intercalate_splitOn '/' text

theorem splitOn_joined (hne : names ≠ []) (h : ∀ n ∈ names, '/' ∉ n) :
    splitOn '/' (joined names) = names := by
  induction names with
  | nil => exact absurd rfl hne
  | cons n names ih =>
    obtain ⟨hn, hnames⟩ := List.forall_mem_cons.1 h
    by_cases hempty : names = []
    · rw [hempty, joined_singleton]
      exact splitOn_of_notMem hn
    · rw [joined_cons n hempty, splitOn_append, splitOn_of_notMem hn, ih hempty hnames]
      rfl

theorem mem_joined {c : Char} (h : c ∈ joined names) : c = '/' ∨ ∃ n ∈ names, c ∈ n := by
  induction names with
  | nil => cases h
  | cons n names ih =>
    by_cases hne : names = []
    · rw [hne, joined_singleton] at h
      exact .inr ⟨n, List.mem_cons_self, h⟩
    · rw [joined_cons n hne, List.mem_append, List.mem_cons] at h
      rcases h with h | h | h
      · exact .inr ⟨n, List.mem_cons_self, h⟩
      · exact .inl h
      · exact (ih h).imp_right fun ⟨m, hm, hc⟩ => ⟨m, List.mem_cons_of_mem n hm, hc⟩

/-- Some more of the last name is some more of the text. -/
theorem joined_concat (n more : List Char) :
    joined (names ++ [n ++ more]) = joined (names ++ [n]) ++ more := by
  by_cases hne : names = []
  · rw [hne, List.nil_append, List.nil_append, joined_singleton, joined_singleton]
  · rw [joined_append hne (List.cons_ne_nil _ _), joined_append hne (List.cons_ne_nil _ _),
      joined_singleton, joined_singleton, List.append_assoc, List.cons_append]

/-! ## What pieces read -/

/-- The runs of characters that a piece stands for. -/
def Piece.Takes : Piece → List Char → Prop
  | .char c, run => run = [c]
  | .one, run => ∃ c, run = [c] ∧ inName c = true
  | .within, run => ∀ c ∈ run, inName c = true
  | .anything, run => ∀ c ∈ run, inLine c = true
  | .directories, run => run = [] ∨ ∃ names, run = names ++ ['/'] ∧ ∀ c ∈ names, inLine c = true

/-- The texts that pieces stand for, one run for each. -/
inductive Reads : List Piece → List Char → Prop
  | nil : Reads [] []
  | cons {p : Piece} {run : List Char} (hrun : p.Takes run) {ps : List Piece} {text : List Char}
    (h : Reads ps text) : Reads (p :: ps) (run ++ text)

variable {p : Piece} {ps qs : List Piece} {text front segment : List Char}

theorem afterSome_iff {skips : Char → Bool} {goal : List Char → Bool} :
    afterSome skips goal text = true ↔
      ∃ run rest, text = run ++ rest ∧ (∀ c ∈ run, skips c = true) ∧ goal rest = true := by
  induction text with
  | nil =>
    rw [afterSome]
    constructor
    · exact fun h => ⟨[], [], rfl, List.forall_mem_nil _, h⟩
    · rintro ⟨run, rest, heq, -, hgoal⟩
      rwa [(List.append_eq_nil_iff.1 heq.symm).2] at hgoal
  | cons c text ih =>
    rw [afterSome, Bool.or_eq_true, Bool.and_eq_true, ih]
    constructor
    · rintro (hgoal | ⟨hc, run, rest, rfl, hrun, hgoal⟩)
      · exact ⟨[], c :: text, rfl, List.forall_mem_nil _, hgoal⟩
      · exact ⟨c :: run, rest, rfl, List.forall_mem_cons.2 ⟨hc, hrun⟩, hgoal⟩
    · rintro ⟨run, rest, heq, hrun, hgoal⟩
      cases run with
      | nil => exact .inl (heq ▸ hgoal)
      | cons d run =>
        obtain ⟨rfl, rfl⟩ := List.cons.inj heq
        obtain ⟨hc, hrun⟩ := List.forall_mem_cons.1 hrun
        exact .inr ⟨hc, run, rest, rfl, hrun, hgoal⟩

theorem afterSlash_iff {goal : List Char → Bool} : afterSlash goal text = true ↔
    ∃ run rest, text = run ++ '/' :: rest ∧ (∀ c ∈ run, inLine c = true) ∧ goal rest = true := by
  induction text with
  | nil => exact iff_of_false Bool.false_ne_true fun ⟨run, rest, heq, _⟩ => by simp at heq
  | cons c text ih =>
    rw [afterSlash, Bool.or_eq_true, Bool.and_eq_true, Bool.and_eq_true, ih]
    constructor
    · rintro (⟨hc, hgoal⟩ | ⟨hc, run, rest, rfl, hrun, hgoal⟩)
      · exact ⟨[], text, by rw [of_decide_eq_true hc]; rfl, List.forall_mem_nil _, hgoal⟩
      · exact ⟨c :: run, rest, rfl, List.forall_mem_cons.2 ⟨hc, hrun⟩, hgoal⟩
    · rintro ⟨run, rest, heq, hrun, hgoal⟩
      cases run with
      | nil =>
        obtain ⟨rfl, rfl⟩ := List.cons.inj heq
        exact .inl ⟨rfl, hgoal⟩
      | cons d run =>
        obtain ⟨rfl, rfl⟩ := List.cons.inj heq
        obtain ⟨hc, hrun⟩ := List.forall_mem_cons.1 hrun
        exact .inr ⟨hc, run, rest, rfl, hrun, hgoal⟩

/-- Matching takes one run after the other. -/
theorem piecesMatch_cons : piecesMatch (p :: ps) text = true ↔
    ∃ run rest, text = run ++ rest ∧ p.Takes run ∧ piecesMatch ps rest = true := by
  cases p with
  | char c =>
    cases text with
    | nil =>
      refine iff_of_false Bool.false_ne_true ?_
      rintro ⟨_, _, heq, rfl, _⟩
      cases heq
    | cons d rest =>
      rw [piecesMatch, Bool.and_eq_true, decide_eq_true_eq]
      constructor
      · rintro ⟨rfl, h⟩
        exact ⟨[d], rest, rfl, rfl, h⟩
      · rintro ⟨_, rest, heq, rfl, h⟩
        obtain ⟨rfl, rfl⟩ := List.cons.inj heq
        exact ⟨rfl, h⟩
  | one =>
    cases text with
    | nil =>
      refine iff_of_false Bool.false_ne_true ?_
      rintro ⟨_, _, heq, ⟨c, rfl, _⟩, _⟩
      cases heq
    | cons d rest =>
      rw [piecesMatch, Bool.and_eq_true]
      constructor
      · rintro ⟨hd, h⟩
        exact ⟨[d], rest, rfl, ⟨d, rfl, hd⟩, h⟩
      · rintro ⟨_, rest, heq, ⟨c, rfl, hc⟩, h⟩
        obtain ⟨rfl, rfl⟩ := List.cons.inj heq
        exact ⟨hc, h⟩
  | within => exact afterSome_iff
  | anything => exact afterSome_iff
  | directories =>
    rw [piecesMatch, Bool.or_eq_true, afterSlash_iff]
    constructor
    · rintro (h | ⟨run, rest, rfl, hrun, h⟩)
      · exact ⟨[], text, rfl, .inl rfl, h⟩
      · exact ⟨run ++ ['/'], rest, by rw [← List.append_cons], .inr ⟨run, rfl, hrun⟩, h⟩
    · rintro ⟨_, rest, rfl, rfl | ⟨run, rfl, hrun⟩, h⟩
      · exact .inl h
      · exact .inr ⟨run, rest, by rw [← List.append_cons], hrun, h⟩

/-- Pieces match a text that they stand for, with a line end behind it or not. -/
theorem piecesMatch_iff : piecesMatch ps text = true ↔
    Reads ps text ∨ ∃ front, text = front ++ ['\n'] ∧ Reads ps front := by
  induction ps generalizing text with
  | nil =>
    rw [piecesMatch, Bool.or_eq_true, decide_eq_true_eq, decide_eq_true_eq]
    constructor
    · rintro (rfl | rfl)
      · exact .inl .nil
      · exact .inr ⟨[], rfl, .nil⟩
    · rintro (h | ⟨_, rfl, h⟩) <;> cases h
      · exact .inl rfl
      · exact .inr rfl
  | cons p ps ih =>
    rw [piecesMatch_cons]
    constructor
    · rintro ⟨run, rest, rfl, hrun, h⟩
      rcases ih.1 h with hreads | ⟨front, rfl, hreads⟩
      · exact .inl (.cons hrun hreads)
      · exact .inr ⟨run ++ front, by rw [List.append_assoc], .cons hrun hreads⟩
    · rintro (h | ⟨_, rfl, h⟩)
      · cases h with
        | cons hrun h => exact ⟨_, _, rfl, hrun, ih.2 (.inl h)⟩
      · cases h with
        | cons hrun h => exact ⟨_, _, List.append_assoc .., hrun, ih.2 (.inr ⟨_, rfl, h⟩)⟩

theorem reads_cons : Reads (p :: ps) text ↔
    ∃ run rest, text = run ++ rest ∧ p.Takes run ∧ Reads ps rest := by
  constructor
  · intro h
    cases h with
    | cons hrun h => exact ⟨_, _, rfl, hrun, h⟩
  · rintro ⟨run, rest, rfl, hrun, h⟩
    exact .cons hrun h

theorem reads_append : Reads (ps ++ qs) text ↔
    ∃ front rest, text = front ++ rest ∧ Reads ps front ∧ Reads qs rest := by
  induction ps generalizing text with
  | nil =>
    constructor
    · exact fun h => ⟨[], text, rfl, .nil, h⟩
    · rintro ⟨_, rest, rfl, hnil, h⟩
      cases hnil
      exact h
  | cons p ps ih =>
    constructor
    · intro h
      cases h with
      | cons hrun h =>
        obtain ⟨front, rest, rfl, hps, hqs⟩ := ih.1 h
        exact ⟨_, rest, (List.append_assoc ..).symm, .cons hrun hps, hqs⟩
    · rintro ⟨_, rest, rfl, h, hqs⟩
      cases h with
      | cons hrun hps =>
        rw [List.append_assoc]
        exact .cons hrun (ih.2 ⟨_, rest, rfl, hps, hqs⟩)

/-! ## The pieces of segments -/

/-- The piece of a character that is no part of two stars. -/
def Piece.ofChar (c : Char) : Piece :=
  if c = '*' then .within else if c = '?' then .one else .char c

theorem pieces_cons {c : Char} (h : c = '*' → text.head? ≠ some '*') :
    pieces (c :: text) = .ofChar c :: pieces text := by
  by_cases hstar : c = '*'
  · subst hstar
    rw [pieces]
    · rfl
    · rintro rest rfl
      exact h rfl rfl
    · rintro rest rfl
      exact h rfl rfl
  · rw [Piece.ofChar, if_neg hstar]
    by_cases hone : c = '?'
    · subst hone
      rfl
    · rw [if_neg hone, pieces]
      · exact fun _ hc => absurd hc hstar
      · exact fun _ hc => absurd hc hstar
      · exact hstar
      · exact hone

theorem pieces_segment (h : ¬ stars <:+: segment) (htext : text.head? ≠ some '*') :
    pieces (segment ++ text) = segment.map .ofChar ++ pieces text := by
  induction segment with
  | nil => rfl
  | cons c segment ih =>
    rw [List.cons_append, pieces_cons, ih fun hinfix => h (List.infix_cons hinfix)]
    · rfl
    · rintro rfl
      cases segment with
      | nil => exact htext
      | cons d segment =>
        intro hd
        obtain rfl := Option.some.inj hd
        exact h ⟨[], segment, rfl⟩

theorem inName_iff {run : List Char} : (∀ c ∈ run, inName c = true) ↔ '/' ∉ run := by
  simp only [inName, decide_eq_true_eq]
  exact ⟨fun h hmem => h _ hmem rfl, fun h c hc heq => h (heq ▸ hc)⟩

theorem inLine_iff {run : List Char} : (∀ c ∈ run, inLine c = true) ↔ LineFree run := by
  simp only [inLine, decide_eq_true_eq]
  exact ⟨fun h hmem => h _ hmem rfl, fun h c hc heq => h (heq ▸ hc)⟩

/-- The pieces of a segment stand for the names that it matches. -/
theorem reads_segment (hsegment : '/' ∉ segment) :
    Reads (segment.map .ofChar) text ↔ NameMatches segment text ∧ '/' ∉ text := by
  induction segment generalizing text with
  | nil =>
    constructor
    · intro h
      cases h
      exact ⟨.nil, List.not_mem_nil⟩
    · rintro ⟨h, -⟩
      cases h
      exact .nil
  | cons c segment ih =>
    obtain ⟨hc, hsegment⟩ := List.ne_and_not_mem_of_not_mem_cons hsegment
    rw [List.map_cons, reads_cons, Piece.ofChar]
    simp only [ih hsegment]
    split
    · rename_i hstar
      subst hstar
      constructor
      · rintro ⟨run, rest, rfl, hrun, hname, hrest⟩
        exact ⟨.star run hname, List.not_mem_append (inName_iff.1 hrun) hrest⟩
      · rintro ⟨h, hslash⟩
        cases h with
        | star run hname =>
          rw [List.mem_append, not_or] at hslash
          exact ⟨run, _, rfl, inName_iff.2 hslash.1, hname, hslash.2⟩
        | char hstar => exact absurd rfl hstar
    split
    · rename_i hstar hone
      subst hone
      constructor
      · rintro ⟨_, rest, rfl, ⟨d, rfl, hd⟩, hname, hrest⟩
        have hslash : '/' ≠ d := Ne.symm (of_decide_eq_true hd)
        exact ⟨.one d hname, List.not_mem_cons_of_ne_of_not_mem hslash hrest⟩
      · rintro ⟨h, hslash⟩
        cases h with
        | one d hname =>
          obtain ⟨hd, hslash⟩ := List.ne_and_not_mem_of_not_mem_cons hslash
          exact ⟨[d], _, rfl, ⟨d, rfl, decide_eq_true (Ne.symm hd)⟩, hname, hslash⟩
        | char _ hone => exact absurd rfl hone
    · rename_i hstar hone
      constructor
      · rintro ⟨_, rest, rfl, rfl, hname, hrest⟩
        exact ⟨.char hstar hone hname, List.not_mem_cons_of_ne_of_not_mem hc hrest⟩
      · rintro ⟨h, hslash⟩
        cases h with
        | star => exact absurd rfl hstar
        | one => exact absurd rfl hone
        | char _ _ hname =>
          exact ⟨[c], _, rfl, rfl, hname, (List.ne_and_not_mem_of_not_mem_cons hslash).2⟩

theorem lineFree_iff : LineFree text ↔ ∀ n ∈ splitOn '/' text, LineFree n := by
  constructor
  · exact fun h n hn hmem => h (mem_of_mem_splitOn hn hmem)
  · intro h hmem
    rw [← joined_splitOn text] at hmem
    rcases mem_joined hmem with hslash | ⟨n, hn, hmem⟩
    · exact absurd hslash (by decide)
    · exact h n hn hmem

/-- Every text is that of the names between its slashes. -/
theorem exists_names (text : List Char) : ∃ names, splitOn '/' text = names ∧ names ≠ [] ∧
    text = joined names ∧ ∀ n ∈ names, '/' ∉ n :=
  ⟨_, rfl, splitOn_ne_nil '/' text, (joined_splitOn text).symm, fun _ => notMem_of_mem_splitOn⟩

/-- Two stars that come last stand for the rest of a line. -/
theorem reads_last :
    Reads (pieces stars) text ↔ SegmentsMatch LineFree [stars] (splitOn '/' text) := by
  have hreads : Reads (pieces stars) text ↔ LineFree text := by
    rw [show pieces stars = [.anything] from rfl, reads_cons]
    constructor
    · rintro ⟨run, rest, rfl, hrun, h⟩
      cases h
      rw [List.append_nil]
      exact inLine_iff.1 hrun
    · exact fun h => ⟨text, [], (List.append_nil text).symm, inLine_iff.2 h, .nil⟩
  obtain ⟨names, hsplit, hne, -, -⟩ := exists_names text
  rw [hreads, lineFree_iff, hsplit]
  constructor
  · exact .last hne
  · intro h
    cases h with
    | deep hglob => exact absurd rfl hglob
    | last _ hnames => exact hnames
    | name hs => exact absurd rfl hs

/-- Another segment that comes last stands for one name. -/
theorem reads_single (hslash : '/' ∉ segment) (hs : segment ≠ stars)
    (hstars : ¬ stars <:+: segment) :
    Reads (pieces segment) text ↔ SegmentsMatch LineFree [segment] (splitOn '/' text) := by
  have hpieces : pieces segment = segment.map .ofChar := by
    rw [← List.append_nil segment, pieces_segment hstars (by decide), List.append_nil,
      show pieces [] = [] from rfl, List.append_nil]
  rw [hpieces, reads_segment hslash]
  constructor
  · rintro ⟨hname, htext⟩
    rw [splitOn_of_notMem htext]
    exact .name hs hname .nil
  · obtain ⟨names, hsplit, -, rfl, hfree⟩ := exists_names text
    rw [hsplit]
    intro h
    cases h with
    | deep | last => exact absurd rfl hs
    | @name _ name _ _ _ hname h =>
      cases h
      rw [joined_singleton]
      exact ⟨hname, hfree name List.mem_cons_self⟩

/-- Two stars before other segments stand for nothing or for names with their slashes. -/
theorem reads_deep (hne : glob ≠ [])
    (ih : ∀ {text}, Reads (pieces (joined glob)) text ↔
      SegmentsMatch LineFree glob (splitOn '/' text)) :
    Reads (pieces (stars ++ '/' :: joined glob)) text ↔
      SegmentsMatch LineFree (stars :: glob) (splitOn '/' text) := by
  rw [show pieces (stars ++ '/' :: joined glob) = .directories :: pieces (joined glob) from rfl,
    reads_cons]
  constructor
  · rintro ⟨_, rest, rfl, rfl | ⟨run, rfl, hrun⟩, h⟩
    · exact .deep hne (List.forall_mem_nil _) (ih.1 h)
    · rw [← List.append_cons, splitOn_append]
      exact .deep hne (lineFree_iff.1 (inLine_iff.1 hrun)) (ih.1 h)
  · obtain ⟨names, hsplit, -, htext, hfree⟩ := exists_names text
    rw [hsplit]
    intro h
    cases h with
    | last => exact absurd rfl hne
    | name hs => exact absurd rfl hs
    | @deep _ skipped names _ hskipped h =>
      obtain ⟨-, hnames⟩ := List.forall_mem_append.1 hfree
      have hread := ih.2 (by rwa [splitOn_joined (h.ne_nil hne) hnames])
      by_cases hnone : skipped = []
      · rw [hnone] at htext
        exact ⟨[], _, htext, .inl rfl, hread⟩
      · rw [joined_append hnone (h.ne_nil hne)] at htext
        refine ⟨joined skipped ++ ['/'], _, by rw [htext, List.append_cons],
          .inr ⟨_, rfl, inLine_iff.2 fun hmem => ?_⟩, hread⟩
        rcases mem_joined hmem with hline | ⟨n, hn, hmem⟩
        · exact absurd hline (by decide)
        · exact hskipped n hn hmem

/-- Another segment before others stands for one name with its slash. -/
theorem reads_before (hslash : '/' ∉ segment) (hs : segment ≠ stars) (hstars : ¬ stars <:+: segment)
    (hne : glob ≠ [])
    (ih : ∀ {text}, Reads (pieces (joined glob)) text ↔
      SegmentsMatch LineFree glob (splitOn '/' text)) :
    Reads (pieces (segment ++ '/' :: joined glob)) text ↔
      SegmentsMatch LineFree (segment :: glob) (splitOn '/' text) := by
  have hhead : ('/' :: joined glob).head? ≠ some '*' := by
    rw [List.head?_cons]
    decide
  rw [pieces_segment hstars hhead, pieces_cons fun h => absurd h (by decide),
    show Piece.ofChar '/' = .char '/' from rfl, reads_append]
  constructor
  · rintro ⟨name, _, rfl, hname, h⟩
    obtain ⟨_, rest, rfl, rfl, hrest⟩ := reads_cons.1 h
    obtain ⟨hname, hfree⟩ := (reads_segment hslash).1 hname
    rw [List.singleton_append, splitOn_append, splitOn_of_notMem hfree]
    exact .name hs hname (ih.1 hrest)
  · obtain ⟨names, hsplit, -, htext, hfree⟩ := exists_names text
    rw [hsplit]
    intro h
    cases h with
    | deep | last => exact absurd rfl hs
    | @name _ name _ names _ hname h =>
      obtain ⟨hnameFree, hnamesFree⟩ := List.forall_mem_cons.1 hfree
      rw [joined_cons name (h.ne_nil hne)] at htext
      have hread := ih.2 (by rwa [splitOn_joined (h.ne_nil hne) hnamesFree])
      exact ⟨name, _, htext, (reads_segment hslash).2 ⟨hname, hnameFree⟩,
        reads_cons.2 ⟨['/'], _, rfl, rfl, hread⟩⟩

/-- What the pieces of segments stand for, seen name by name. -/
theorem reads_joined (hne : glob ≠ []) (hglob : ∀ s ∈ glob, IsSegment s) :
    Reads (pieces (joined glob)) text ↔ SegmentsMatch LineFree glob (splitOn '/' text) := by
  induction glob generalizing text with
  | nil => exact absurd rfl hne
  | cons s glob ih =>
    obtain ⟨⟨hslash, -, hstars⟩, hglob⟩ := List.forall_mem_cons.1 hglob
    by_cases hrest : glob = []
    · subst hrest
      rw [joined_singleton]
      by_cases hs : s = stars
      · rw [hs]
        exact reads_last
      · exact reads_single hslash hs (mt hstars hs)
    · rw [joined_cons s hrest]
      by_cases hs : s = stars
      · rw [hs]
        exact reads_deep hrest (ih hrest hglob)
      · exact reads_before hslash hs (mt hstars hs) hrest (ih hrest hglob)

/-! ## Globs and paths -/

theorem isMatch_rooted (hglob : ∀ s ∈ glob, IsSegment s) :
    isMatch (rooted glob) (rooted path) = piecesMatch (pieces (joined glob)) (joined path) := by
  have hslashes : normalizeSlashes (rooted glob) = rooted glob := by
    rw [← String.toList_inj, normalizeSlashes, String.toList_map]
    refine (List.map_congr_left fun c hc => if_neg ?_).trans (List.map_id _)
    rintro rfl
    rw [rooted, String.toList_ofList] at hc
    rcases List.mem_cons.1 hc with hc | hc
    · exact absurd hc (by decide)
    · rcases mem_joined hc with hc | ⟨s, hs, hc⟩
      · exact absurd hc (by decide)
      · exact (hglob s hs).2.1 hc
  rw [isMatch, hslashes, rooted, rooted, String.toList_ofList, String.toList_ofList,
    pieces_cons fun h => absurd h (by decide)]
  exact Bool.true_and _

/-- A glob matches a path if its segments match the names, where two stars pass over no line end and
one at the very end of the path may be left out. -/
theorem isMatch_iff (hglob : ∀ s ∈ glob, IsSegment s) (hglobNe : glob ≠ [])
    (hpath : ∀ n ∈ path, '/' ∉ n) (hpathNe : path ≠ []) :
    isMatch (rooted glob) (rooted path) = true ↔
      SegmentsMatch LineFree glob path ∨ ∃ names last, path = names ++ [last ++ ['\n']] ∧
        SegmentsMatch LineFree glob (names ++ [last]) := by
  rw [isMatch_rooted hglob, piecesMatch_iff, reads_joined hglobNe hglob,
    splitOn_joined hpathNe hpath]
  refine or_congr_right ⟨?_, ?_⟩
  · rintro ⟨front, hfront, h⟩
    rw [reads_joined hglobNe hglob] at h
    obtain ⟨names, last, hnames⟩ : ∃ names last, splitOn '/' front = names ++ [last] :=
      ⟨_, _, (List.dropLast_concat_getLast (splitOn_ne_nil '/' front)).symm⟩
    refine ⟨names, last, ?_, hnames ▸ h⟩
    have hfree : ∀ n ∈ names ++ [last], '/' ∉ n := fun n hn =>
      notMem_of_mem_splitOn (hnames ▸ hn)
    obtain ⟨hbefore, hlast⟩ := List.forall_mem_append.1 hfree
    rw [← splitOn_joined hpathNe hpath, hfront, ← joined_splitOn front, hnames, ← joined_concat]
    refine splitOn_joined (by simp) (List.forall_mem_append.2 ⟨hbefore, fun n hn => ?_⟩)
    rw [List.mem_singleton.1 hn]
    exact List.not_mem_append (hlast last List.mem_cons_self) (by decide)
  · rintro ⟨names, last, rfl, h⟩
    obtain ⟨hnames, hlast⟩ := List.forall_mem_append.1 hpath
    refine ⟨joined (names ++ [last]), joined_concat last ['\n'], ?_⟩
    rw [reads_joined hglobNe hglob, splitOn_joined (by simp)]
    · exact h
    · refine List.forall_mem_append.2 ⟨hnames, fun n hn hmem => ?_⟩
      rw [List.mem_singleton.1 hn] at hmem
      exact hlast _ List.mem_cons_self (List.mem_append_left _ hmem)

/-- A glob matches a path if its segments match the names in order, where two stars pass over no
line end and one at the very end of the path may be left out. On a path without line ends that is
the match segment by segment, in which two stars stand for any names. -/
theorem isMatch_iff_segmentsMatch (hglob : ∀ s ∈ glob, IsSegment s) (hglobNe : glob ≠ [])
    (hpath : ∀ n ∈ path, '/' ∉ n) (hpathNe : path ≠ []) :
    (isMatch (rooted glob) (rooted path) = true ↔
      SegmentsMatch LineFree glob path ∨ ∃ names last, path = names ++ [last ++ ['\n']] ∧
        SegmentsMatch LineFree glob (names ++ [last])) ∧
      ((∀ n ∈ path, LineFree n) → (isMatch (rooted glob) (rooted path) = true ↔
        SegmentsMatch (fun _ => True) glob path)) := by
  have hexact := isMatch_iff hglob hglobNe hpath hpathNe
  refine ⟨hexact, fun hfree => hexact.trans ⟨?_, fun h => .inl (h.of_free hfree)⟩⟩
  rintro (h | ⟨names, last, rfl, -⟩)
  · exact h.of_free fun _ _ => trivial
  · exact absurd (List.mem_append_right last List.mem_cons_self)
      (hfree _ (List.mem_append_right names List.mem_cons_self))

/-- Two stars for no name and for two, one star for a part of a name, and a question mark. -/
theorem isMatch_iff_segmentsMatch_deep :
    let glob := ["src".toList, stars, stars, "?*.js".toList]
    let path := ["src".toList, "a".toList, "b b".toList, "x.y.js".toList]
    rooted glob = "/src/**/**/?*.js" ∧ rooted path = "/src/a/b b/x.y.js" ∧
      (∀ s ∈ glob, IsSegment s) ∧ glob ≠ [] ∧ (∀ n ∈ path, '/' ∉ n) ∧ path ≠ [] ∧
      (∀ n ∈ path, LineFree n) ∧ isMatch (rooted glob) (rooted path) = true ∧
      SegmentsMatch (fun _ => True) glob path := by
  intro glob path
  have hglob : ∀ s ∈ glob, IsSegment s := by
    unfold IsSegment
    decide +kernel
  have hpath : ∀ n ∈ path, '/' ∉ n := by decide +kernel
  have hfree : ∀ n ∈ path, LineFree n := by
    unfold LineFree
    decide +kernel
  have hmatch : isMatch (rooted glob) (rooted path) = true := by decide +kernel
  refine ⟨by decide +kernel, by decide +kernel, hglob, List.cons_ne_nil _ _, hpath,
    List.cons_ne_nil _ _, hfree, hmatch, ?_⟩
  exact ((isMatch_iff_segmentsMatch hglob (List.cons_ne_nil _ _) hpath
    (List.cons_ne_nil _ _)).2 hfree).1 hmatch

/-- A path that ends in a line end matches the glob without it, and two stars do not stand for a
name with a line end. -/
theorem isMatch_lineEnds :
    rooted [['a']] = "/a" ∧ rooted [['a', '\n']] = "/a\n" ∧ isMatch "/a" "/a\n" = true ∧
      ¬ SegmentsMatch (fun _ => True) [['a']] [['a', '\n']] ∧
      rooted [stars, ['b']] = "/**/b" ∧ rooted [['x', '\n', 'y'], ['b']] = "/x\ny/b" ∧
      isMatch "/**/b" "/x\ny/b" = false ∧
      SegmentsMatch (fun _ => True) [stars, ['b']] [['x', '\n', 'y'], ['b']] := by
  refine ⟨by decide +kernel, by decide +kernel, by decide +kernel, fun h => ?_, by decide +kernel,
    by decide +kernel, by decide +kernel, ?_⟩
  · cases h with
    | name _ hname _ =>
      cases hname with
      | char _ _ hname => cases hname
  · have hlast : SegmentsMatch (fun _ => True) [['b']] [['b']] :=
      .name (by decide) (.char (by decide) (by decide) .nil) .nil
    exact SegmentsMatch.deep (List.cons_ne_nil _ _)
      (fun n (_ : n ∈ [['x', '\n', 'y']]) => trivial) hlast

end StylePrune.Glob
