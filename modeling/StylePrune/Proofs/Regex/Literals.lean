import StylePrune.Content.Expression

/-!
# Patterns of literal text

A text in which every character with a meaning is escaped is read as its characters, one after the
other (`sequence_escaped`). So the pattern of all texts that start with a class token is read back
from its source (`read_startPattern`), and it matches these texts and no others
(`find?_startPattern`).
-/

namespace StylePrune.Regex.Reader

/-! ## Steps of the reader -/

variable {α β : Type} {s s' : State} {flags : Flags} {level : Level} {fuel : Nat}
  {nodes : List Node}

theorem bind_ok {x : Read α} {f : α → Read β} {a : α} (h : x s = .ok (a, s')) :
    (x >>= f) s = f a s' := by
  simp only [bind, StateT.bind, h, Except.bind]

theorem bind_get (f : State → Read β) : ((get : Read State) >>= f) s = f s s := rfl

theorem bind_peek (f : Option Token → Read β) : (peek >>= f) s = f s.next s := rfl

theorem sequence_end (h : s.next = none) :
    sequence flags level (fuel + 1) nodes s = .ok (flattened nodes.reverse, s) := by
  rw [sequence, bind_peek, h]
  rfl

/-- Characters that a pattern has to escape outside sets and comments. -/
def marks : List Char := "|)[?*+\x7b.^$(".toList

theorem sequence_literal {c : Char} (h : s.next = some (.plain c)) (hs : advance s = .ok ((), s'))
    (hflags : flags.verbose = false) (hc : marks.contains c = false) :
    sequence flags level (fuel + 1) nodes s =
      sequence flags level fuel (literal flags c.toNat :: nodes) s' := by
  have hne {d : Char} (hd : marks.contains d = true) : c ≠ d := by
    rintro rfl
    rw [hd] at hc
    cases hc
  have hbar : c ≠ '|' := hne rfl
  have hround : c ≠ ')' := hne rfl
  have hset : c ≠ '[' := hne rfl
  have hmaybe : c ≠ '?' := hne rfl
  have hmany : c ≠ '*' := hne rfl
  have hplus : c ≠ '+' := hne rfl
  have hbrace : c ≠ '\x7b' := hne rfl
  have hpoint : c ≠ '.' := hne rfl
  have hstart : c ≠ '^' := hne rfl
  have hend : c ≠ '$' := hne rfl
  have hgroup : c ≠ '(' := hne rfl
  rw [sequence, bind_peek, h]
  simp only [Token.plain.injEq, hbar, hround, decide_false, Bool.or_self, Bool.false_eq_true,
    ↓reduceIte, bind_ok hs, bind_get, hflags, Bool.false_and, hset, hmaybe, hmany, hplus, hbrace,
    hpoint, hstart, hend, hgroup]

theorem sequence_escape {c : Char} {e : Escape} {s'' : State} (h : s.next = some (.escape c))
    (hs : advance s = .ok ((), s')) (he : escape flags c s' = .ok (e, s'')) :
    sequence flags level (fuel + 1) nodes s =
      sequence flags level fuel (e.toNode flags :: nodes) s'' := by
  rw [sequence, bind_peek, h]
  simp only [reduceCtorEq, decide_false, Bool.or_self, Bool.false_eq_true, ↓reduceIte, bind_ok hs,
    bind_get, bind_ok he]

theorem sequence_lineStart (h : s.next = some (.plain '^')) (hs : advance s = .ok ((), s'))
    (hflags : flags.verbose = false) :
    sequence flags level (fuel + 1) nodes s =
      sequence flags level fuel (.anchor (.lineStart flags.multiline) :: nodes) s' := by
  rw [sequence, bind_peek, h]
  simp only [Token.plain.injEq, Char.reduceEq, decide_false, Bool.or_self, Bool.false_eq_true,
    ↓reduceIte, bind_ok hs, bind_get, hflags, Bool.false_and, decide_true, Bool.true_or, lineAnchor]

/-! ## Escaped text -/

/-- A character as `escapeRegex` writes it. -/
def escapedChar (c : Char) : List Char := if specialChars.contains c then ['\\', c] else [c]

theorem toList_escapeRegex (text : String) :
    (escapeRegex text).toList = text.toList.flatMap escapedChar := by
  rw [escapeRegex, String.toList_ofList]
  rfl

/-- The token that is read of an escaped character. -/
def tokenFor (c : Char) : Token := if specialChars.contains c then .escape c else .plain c

theorem tokenOf_escaped (cs : List Char) (position : Nat) :
    tokenOf (cs.flatMap escapedChar) position =
      .ok (cs.head?.map tokenFor, cs.tail.flatMap escapedChar) := by
  cases cs with
  | nil => rfl
  | cons c cs =>
    by_cases hc : specialChars.contains c = true
    · simp only [List.flatMap_cons, escapedChar, hc, if_true, List.cons_append, List.nil_append,
        List.head?_cons, Option.map_some, tokenFor, List.tail_cons, tokenOf]
    · have hslash : c ≠ '\\' := by
        rintro rfl
        exact hc rfl
      simp only [List.flatMap_cons, escapedChar, hc, if_false, Bool.false_eq_true,
        List.cons_append, List.nil_append, List.head?_cons, Option.map_some, tokenFor,
        List.tail_cons]
      rw [tokenOf.eq_4] <;> simp [hslash]

/-- The state before the escaped characters `cs`, with all else as in `s`. -/
def before (s : State) (cs : List Char) (position : Nat) : State :=
  { s with next := cs.head?.map tokenFor, later := cs.tail.flatMap escapedChar, position }

theorem advance_before (s : State) (c : Char) (cs : List Char) (position : Nat) :
    advance (before s (c :: cs) position) =
      .ok ((), before s cs (position + (tokenFor c).length)) := by
  rw [advance, bind_get]
  simp only [before, List.head?_cons, Option.map_some, List.tail_cons, tokenOf_escaped]
  rfl

theorem categoryEscape?_eq_none {c : Char} (h : isAsciiLetter c = false) :
    categoryEscape? c = none := by
  unfold categoryEscape?
  split <;> first | rfl | exact absurd h (by decide)

theorem controlEscape?_eq_none {c : Char} (h : isAsciiLetter c = false) (hc : c ≠ '\\') :
    controlEscape? c = none := by
  unfold controlEscape?
  split <;> first | rfl | exact absurd h (by decide) | exact absurd rfl hc

/-- The escape of a character with a meaning is that character. -/
theorem escape_special {c : Char} (h : specialChars.contains c = true) (s : State) :
    escape flags c s = .ok (.code c.toNat, s) := by
  by_cases hslash : c = '\\'
  · subst hslash
    rfl
  have hplain := List.all_eq_true.1 (show specialChars.all
    (fun c => !isAsciiLetter c && !isDigit c) = true from by decide) c (List.contains_iff_mem.1 h)
  rw [Bool.and_eq_true, Bool.not_eq_true', Bool.not_eq_true'] at hplain
  have hne {d : Char} (hd : isAsciiLetter d || isDigit d) : c ≠ d := by
    rintro rfl
    rw [hplain.1, hplain.2] at hd
    cases hd
  have hcommon : commonEscape c = pure (.code c.toNat) := by
    rw [commonEscape, if_neg (hne rfl), if_neg (hne rfl), if_neg (hne rfl), if_neg (hne rfl),
      hplain.1, hplain.2]
    rfl
  rw [escape, if_neg (hne rfl), if_neg (hne rfl), if_neg (hne rfl), if_neg (hne rfl),
    categoryEscape?_eq_none hplain.1, controlEscape?_eq_none hplain.1 hslash]
  simp only
  rw [if_neg (hne rfl), hplain.2, if_neg (by decide), hcommon]
  rfl

theorem marks_special : marks.all specialChars.contains = true := by decide

theorem sequence_escaped (level : Level) (s : State) (hflags : flags.verbose = false)
    (cs : List Char) :
    ∀ (position fuel : Nat) (nodes : List Node), cs.length < fuel →
      ∃ stop, sequence flags level fuel nodes (before s cs position) =
        .ok (flattened (nodes.reverse ++ cs.map fun c => literal flags c.toNat),
          before s [] stop) := by
  induction cs with
  | nil =>
    intro position fuel nodes hfuel
    obtain ⟨fuel, rfl⟩ := Nat.exists_eq_succ_of_ne_zero (by omega : fuel ≠ 0)
    exact ⟨position, by rw [sequence_end rfl, List.map_nil, List.append_nil]⟩
  | cons c cs ih =>
    intro position fuel nodes hfuel
    rw [List.length_cons] at hfuel
    obtain ⟨fuel, rfl⟩ := Nat.exists_eq_succ_of_ne_zero (by omega : fuel ≠ 0)
    have hs := advance_before s c cs position
    obtain ⟨stop, hstop⟩ := ih (position + (tokenFor c).length) fuel
      (literal flags c.toNat :: nodes) (by omega)
    have hnodes : nodes.reverse ++ (c :: cs).map (fun c => literal flags c.toNat) =
        (literal flags c.toNat :: nodes).reverse ++ cs.map fun c => literal flags c.toNat := by simp
    refine ⟨stop, ?_⟩
    rw [hnodes, ← hstop]
    by_cases hc : specialChars.contains c = true
    · have htoken : tokenFor c = .escape c := by rw [tokenFor, if_pos hc]
      exact sequence_escape (congrArg some htoken) hs (escape_special hc _)
    · have htoken : tokenFor c = .plain c := by rw [tokenFor, if_neg hc]
      refine sequence_literal (congrArg some htoken) hs hflags ?_
      rw [Bool.eq_false_iff]
      exact fun hm => hc (List.all_eq_true.1 marks_special c (List.contains_iff_mem.1 hm))

/-- Whether a node holds no others. -/
def isLeaf : Node → Bool
  | .one _ | .anchor _ => true
  | _ => false

theorem eq_of_isLeaf {n : Node} (h : isLeaf n = true) : (∃ t, n = .one t) ∨ ∃ a, n = .anchor a := by
  cases n with
  | one t => exact .inl ⟨t, rfl⟩
  | anchor a => exact .inr ⟨a, rfl⟩
  | _ => cases h

theorem flattened_leaves {nodes : List Node} (h : ∀ n ∈ nodes, isLeaf n = true) :
    flattened nodes = nodes := by
  induction nodes with
  | nil => rfl
  | cons n nodes ih =>
    rw [List.forall_mem_cons] at h
    obtain ⟨t, rfl⟩ | ⟨a, rfl⟩ := eq_of_isLeaf h.1 <;> exact congrArg (_ :: ·) (ih h.2)

theorem fault?_leaves {nodes : List Node} (h : ∀ n ∈ nodes, isLeaf n = true) (template : Bool) :
    fault? template (.seq nodes) = none := by
  rw [fault?]
  induction nodes with
  | nil => rfl
  | cons n nodes ih =>
    rw [List.forall_mem_cons] at h
    obtain ⟨t, rfl⟩ | ⟨a, rfl⟩ := eq_of_isLeaf h.1 <;>
      rw [listFault?, ih h.2, fault?, Option.or_none]

theorem looksTooFar_leaves {nodes : List Node} (h : ∀ n ∈ nodes, isLeaf n = true) :
    looksTooFar (.seq nodes) = false := by
  rw [looksTooFar]
  induction nodes with
  | nil => rfl
  | cons n nodes ih =>
    rw [List.forall_mem_cons] at h
    obtain ⟨t, rfl⟩ | ⟨a, rfl⟩ := eq_of_isLeaf h.1 <;>
      rw [someLooksTooFar, ih h.2, looksTooFar, Bool.or_false]

theorem length_le_escapedChar (cs : List Char) : cs.length ≤ (cs.flatMap escapedChar).length := by
  induction cs with
  | nil => exact Nat.zero_le _
  | cons c cs ih =>
    have : 0 < (escapedChar c).length := by
      rw [escapedChar]
      split <;> exact Nat.succ_pos _
    rw [List.flatMap_cons, List.length_append, List.length_cons]
    omega

end StylePrune.Regex.Reader

namespace StylePrune.Regex

theorem Pattern.read_eq {source : String} {flags : Flags} {next : Option Reader.Token}
    {later : List Char} {n : Node} {s : Reader.State}
    (htoken : Reader.tokenOf source.toList 0 = .ok (next, later))
    (h : Reader.whole flags ⟨next, later, 0, flags, [some .zero], [], none, []⟩ = .ok (n, s)) :
    Pattern.read source flags = .ok ⟨source, s.flags, s.widths.length - 1, n⟩ := by
  rw [Pattern.read, htoken]
  simp only [StateT.run, h]

end StylePrune.Regex

namespace StylePrune.Content

open Regex Regex.Reader

theorem startPattern_body (text : String) : (startPattern text).body =
    .seq (.anchor (.lineStart false) :: text.toList.map fun c => literal {} c.toNat) := rfl

/-- The pattern of all texts that start with a text is read from its source. -/
theorem read_startPattern (text : String) :
    Pattern.read (startPattern text).source {} = .ok (startPattern text) := by
  let start : Reader.State :=
    ⟨some (.plain '^'), text.toList.flatMap escapedChar, 0, {}, [some .zero], [], none, []⟩
  have hsource : tokenOf (startPattern text).source.toList 0 =
      .ok (some (.plain '^'), text.toList.flatMap escapedChar) := by
    rw [startPattern, String.toList_append, toList_escapeRegex]
    rfl
  have hleaves : ∀ n ∈ Node.anchor (.lineStart false) ::
      text.toList.map fun c => literal {} c.toNat, isLeaf n = true := by
    refine List.forall_mem_cons.2 ⟨rfl, fun n hn => ?_⟩
    obtain ⟨c, -, rfl⟩ := List.mem_map.1 hn
    rfl
  have hadvance : advance start = .ok ((), before start text.toList 1) := by
    rw [advance, bind_get]
    simp only [start, tokenOf_escaped]
    rfl
  have hlong : text.toList.length ≤ start.later.length := length_le_escapedChar text.toList
  obtain ⟨fuel, hfuel⟩ : ∃ fuel, 4 * (start.later.length + 3) = fuel + 2 :=
    ⟨4 * (start.later.length + 3) - 2, by omega⟩
  obtain ⟨stop, hstop⟩ := sequence_escaped (.top true) start
    (show ({} : Flags).verbose = false from rfl) text.toList 1 fuel [.anchor (.lineStart false)]
    (by omega)
  have hsequence : sequence {} (.top true) (fuel + 1) [] start = .ok
      (.anchor (.lineStart false) :: text.toList.map fun c => literal {} c.toNat,
        before start [] stop) := by
    rw [sequence_lineStart rfl hadvance rfl, hstop]
    exact congrArg (fun nodes => Except.ok (nodes, _)) (flattened_leaves hleaves)
  have halternatives : alternatives {} false (fuel + 2) [] start =
      .ok ((startPattern text).body, before start [] stop) := by
    rw [alternatives, bind_get]
    exact bind_ok hsequence
  have hwhole : whole {} start = .ok ((startPattern text).body, before start [] stop) := by
    rw [whole, bind_ok (show leftLength start = .ok (start.later.length + 3, start) from rfl),
      hfuel, bind_ok halternatives, bind_get]
    simp only [before, start, startPattern_body, fault?_leaves hleaves, looksTooFar_leaves hleaves]
    rfl
  exact Pattern.read_eq hsource hwhole

/-! ## Written patterns -/

theorem take_body (body letters : List Char) : (body ++ '/' :: letters).take
    ((body ++ '/' :: letters).length - letters.length - 1) = body := by
  rw [List.length_append, List.length_cons, ← Nat.add_assoc, Nat.add_right_comm,
    Nat.add_sub_cancel, Nat.add_sub_cancel, List.take_left]

/-- The slashes around a body of one line are found, and those around any other are not. -/
theorem splitSlashes?_written {body letters : List Char}
    (hletters : letters.all PatternEntry.isFlagLetter = true) :
    PatternEntry.splitSlashes? ('/' :: (body ++ '/' :: letters)) =
      if body ≠ [] ∧ '\n' ∉ body then some (body, letters) else none := by
  have hslash : ∀ c ∈ letters.reverse, decide (c ≠ '/') = true := fun c hc => by
    have hc := List.all_eq_true.1 hletters c (List.mem_reverse.1 hc)
    rw [decide_eq_true_eq]
    rintro rfl
    exact absurd hc (by decide)
  have hback : ((body ++ '/' :: letters).reverse.takeWhile (· ≠ '/')).reverse = letters := by
    rw [List.reverse_append, List.reverse_cons, List.append_assoc,
      List.takeWhile_append_of_pos hslash, List.singleton_append,
      List.takeWhile_cons_of_neg (by decide), List.append_nil, List.reverse_reverse]
  have hlength : letters.length < (body ++ '/' :: letters).length := by
    rw [List.length_append, List.length_cons]
    omega
  rw [PatternEntry.splitSlashes?]
  simp only [hback, take_body, hlength, hletters, decide_true, Bool.true_and, Bool.and_true]
  simp

/-- Where slashes are found, the second one is the last. -/
theorem splitSlashes?_eq_some {value body letters : List Char}
    (h : PatternEntry.splitSlashes? value = some (body, letters)) :
    value = '/' :: (body ++ '/' :: letters) ∧ letters.all PatternEntry.isFlagLetter = true := by
  unfold PatternEntry.splitSlashes? at h
  split at h
  · rename_i rest
    generalize hback : (rest.reverse.takeWhile (· ≠ '/')).reverse = back at h
    have hrest : rest = (rest.reverse.dropWhile (· ≠ '/')).reverse ++ back := by
      rw [← hback, ← List.reverse_append, List.takeWhile_append_dropWhile, List.reverse_reverse]
    dsimp only at h
    split at h
    · rename_i hsplit
      simp only [Bool.and_eq_true, decide_eq_true_eq] at hsplit
      obtain ⟨⟨⟨hlength, -⟩, -⟩, hletters⟩ := hsplit
      obtain ⟨rfl, rfl⟩ := Prod.mk.inj (Option.some.inj h)
      cases hfront : rest.reverse.dropWhile (· ≠ '/') with
      | nil =>
        rw [hfront] at hrest
        rw [hrest] at hlength
        exact absurd hlength (Nat.lt_irrefl _)
      | cons c front =>
        have hc : c = '/' := by
          have := List.head?_dropWhile_not (fun c : Char => decide (c ≠ '/')) rest.reverse
          rw [hfront] at this
          simpa using this
        rw [hfront, List.reverse_cons, hc, List.append_assoc, List.singleton_append] at hrest
        rw [hrest, take_body]
        exact ⟨rfl, hletters⟩
    · cases h
  · cases h

theorem trimChars_slashes {letters : List Char}
    (hletters : letters.all PatternEntry.isFlagLetter = true) (body : List Char) :
    trimChars ('/' :: (body ++ '/' :: letters)) = '/' :: (body ++ '/' :: letters) := by
  have hslash : isBlank '/' = false := by decide
  have hblank : ∀ c ∈ ('/' :: letters).reverse, isBlank c = false := fun c hc => by
    rcases List.mem_cons.1 (List.mem_reverse.1 hc) with rfl | hc
    · exact hslash
    · have hmem := List.contains_iff_mem.1 (List.all_eq_true.1 hletters c hc)
      have hall : "gimsuy".toList.all (fun c => !isBlank c) = true := by decide
      simpa using List.all_eq_true.1 hall c hmem
  have hreverse : ('/' :: (body ++ '/' :: letters)).reverse =
      ('/' :: letters).reverse ++ ('/' :: body).reverse := by
    rw [← List.reverse_append, List.cons_append]
  rw [trimChars, List.dropWhile_cons_of_neg (by rw [hslash]; decide), dropWhileEnd]
  cases hback : ('/' :: letters).reverse with
  | nil => exact absurd hback (by simp)
  | cons c cs =>
    have hc := hblank c (hback ▸ List.mem_cons_self)
    rw [hback, List.cons_append] at hreverse
    rw [hreverse, List.dropWhile_cons_of_neg (by rw [hc]; decide), ← hreverse, List.reverse_reverse]

theorem written_startPattern (text : String) : (startPattern text).written.toList =
    '/' :: (('^' :: text.toList.flatMap escapedChar) ++ ['/']) := by
  rw [Pattern.written, Pattern.flagLetters, startPattern]
  simp [toList_escapeRegex]

/-- Whether a pattern is that of all texts that start with a text on one line. -/
def IsStart (p : Pattern) : Prop := ∃ text : String, '\n' ∉ text.toList ∧ p = startPattern text

theorem read_written {p : Pattern} (h : IsStart p) :
    PatternEntry.read p.written.toList = .ok p := by
  obtain ⟨text, htext, rfl⟩ := h
  have hline : '\n' ∉ '^' :: text.toList.flatMap escapedChar := by
    rw [List.mem_cons, not_or, List.mem_flatMap]
    refine ⟨by decide, ?_⟩
    rintro ⟨c, hc, hmem⟩
    rw [escapedChar] at hmem
    split at hmem
    · simp only [List.mem_cons, List.not_mem_nil, or_false] at hmem
      rcases hmem with hmem | rfl
      · exact absurd hmem (by decide)
      · exact htext hc
    · rw [List.mem_singleton] at hmem
      exact htext (hmem ▸ hc)
  have hsource : String.ofList ('^' :: text.toList.flatMap escapedChar) =
      (startPattern text).source := by
    rw [startPattern, ← String.toList_inj, String.toList_append, toList_escapeRegex,
      String.toList_ofList]
    rfl
  rw [written_startPattern, PatternEntry.read, splitSlashes?_written rfl,
    if_pos ⟨List.cons_ne_nil _ _, hline⟩]
  simp only [hsource]
  exact read_startPattern text

/-- Such patterns are read back from their written form, in their order. -/
theorem readPatterns_written {patterns : List Pattern} (h : ∀ p ∈ patterns, IsStart p) :
    readPatterns (patterns.map fun p => .text p.written) = .ok patterns := by
  induction patterns with
  | nil => rfl
  | cons p patterns ih =>
    obtain ⟨hp, hrest⟩ := List.forall_mem_cons.1 h
    have hread := read_written hp
    obtain ⟨text, -, rfl⟩ := hp
    rw [List.map_cons, readPatterns, written_startPattern, trimChars_slashes rfl,
      ← written_startPattern, hread]
    simp only [written_startPattern, List.isEmpty_cons, ih hrest]
    rfl

/-! ## Matching -/

theorem step?_ofCode (code : Nat) (c : Cursor) :
    (CharTest.ofCode false code .exact).step? c =
      c.next?.bind fun x => if code = x.1 then some x.2 else none := by
  rw [CharTest.step?]
  cases c.next? with
  | none => rfl
  | some next =>
    have hholds : (CharTest.ofCode false code .exact).holds next.1 = decide (code = next.1) :=
      Bool.bne_false _
    simp only [hholds, Option.bind_some]
    by_cases hcode : code = next.1
    · rw [if_pos hcode, if_pos (decide_eq_true hcode)]
    · rw [if_neg hcode, if_neg (by simpa using hcode)]

/-- Characters match at a place if they stand behind it. -/
theorem runSeq_literals {rest : Rest} (hrest : ∀ s, ∃ found, rest s = .matched found)
    (inRound : Bool) (next : Option Nat) (cs : List Char) (s : Regex.State) :
    (∃ found, runSeq inRound next (cs.map fun c => literal {} c.toNat) s rest = .matched found) ↔
      cs.map Char.toNat <+: s.cursor.after := by
  induction cs generalizing s with
  | nil => exact iff_of_true (hrest s) List.nil_prefix
  | cons c cs ih =>
    have hstep := step?_ofCode c.toNat s.cursor
    rw [List.map_cons, List.map_cons, runSeq, literal, Node.run,
      show Flags.caseRule {} = .exact from rfl, hstep, Cursor.next?]
    cases s.cursor.after with
    | nil => exact iff_of_false (by rintro ⟨_, h⟩; cases h) (by simp)
    | cons code after =>
      rw [List.cons_prefix_cons, Option.bind_some]
      dsimp only
      by_cases hcode : c.toNat = code
      · rw [if_pos hcode, and_iff_right hcode]
        exact ih _
      · rw [if_neg hcode]
        exact iff_of_false (by rintro ⟨_, h⟩; cases h) fun h => hcode h.1

theorem run_startPattern {rest : Rest} (hrest : ∀ s, ∃ found, rest s = .matched found)
    (text : String) (s : Regex.State) :
    (∃ found, (startPattern text).body.run false none s rest = .matched found) ↔
      s.cursor.before = [] ∧ text.toList.map Char.toNat <+: s.cursor.after := by
  rw [startPattern_body, Node.run, runSeq, Node.run, Anchor.holds, Bool.false_and, Bool.or_false]
  split
  · rename_i hstart
    rw [and_iff_right (List.isEmpty_iff.1 hstart)]
    exact runSeq_literals hrest _ _ _ _
  · rename_i hstart
    exact iff_of_false (by rintro ⟨_, h⟩; cases h) fun h =>
      hstart (List.isEmpty_iff.2 h.1)

theorem matchAt?_startPattern (text : String) (c : Cursor) :
    (matchAt? (startPattern text).body false c).isSome = true ↔
      c.before = [] ∧ text.toList.map Char.toNat <+: c.after := by
  rw [matchAt?]
  split
  · rename_i hrun
    exact iff_of_true rfl ((run_startPattern (by exact fun s => ⟨s, rfl⟩) text _).1 ⟨_, hrun⟩)
  · rename_i hrun
    refine iff_of_false (by simp) fun h => ?_
    obtain ⟨found, hfound⟩ :=
      (run_startPattern (by exact fun s => ⟨s, rfl⟩) text ⟨c, .empty, c⟩).2 h
    cases hrun.symm.trans hfound

/-- The pattern of all texts that start with a text matches these and no others. -/
theorem find?_startPattern (text : String) (codes : List Nat) :
    ((startPattern text).find? codes).isSome = true ↔ text.toList.map Char.toNat <+: codes := by
  have search : ∀ (after before : List Nat) (index left : Nat),
      (searchFrom? (startPattern text).body false before index left after).isSome = true ↔
        before = [] ∧ text.toList.map Char.toNat <+: after := by
    intro after
    induction after with
    | nil =>
      intro before index left
      have hmatch := matchAt?_startPattern text ⟨before, [], index, left⟩
      rw [searchFrom?]
      cases h : matchAt? (startPattern text).body false ⟨before, [], index, left⟩ <;>
        rw [h] at hmatch <;> exact hmatch
    | cons code rest ih =>
      intro before index left
      have hmatch := matchAt?_startPattern text ⟨before, code :: rest, index, left⟩
      rw [searchFrom?]
      cases h : matchAt? (startPattern text).body false ⟨before, code :: rest, index, left⟩ with
      | some found => rw [h] at hmatch; exact hmatch
      | none =>
        rw [h] at hmatch
        dsimp only
        rw [ih, ← hmatch]
        simp
  rw [Pattern.find?, Option.isSome_map, search, and_iff_right rfl]

end StylePrune.Content
