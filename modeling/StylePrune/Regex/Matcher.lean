import StylePrune.Regex.CharTest
import StylePrune.Regex.Cursor
import StylePrune.Regex.Lead

/-!
# Matching patterns

A matcher tries alternatives in order and goes back when what follows fails. It is written with the
rest of the pattern as a continuation: `Node.run` answers the first way to match the node after
which the continuation succeeds. A repetition goes on past its least count only while it makes
progress, so it ends within as many rounds as characters are left.

An attempt that fails leaves a trail: the marks that it has set, and the place where its last step
began. A possessive repetition goes on from that place after the round that failed.
-/

namespace StylePrune.Regex

/-- What attempts leave behind: the marks of groups, and the place where the last step began. -/
structure Trail where
  marks : Marks
  place : Cursor
deriving Repr, Inhabited

/-- A cursor, and the trail of the way to it. -/
structure State where
  cursor : Cursor
  trail : Trail
deriving Repr, Inhabited

namespace State

/-- Begins a step here. -/
def begun (s : State) : State := { s with trail := { s.trail with place := s.cursor } }

def marks (s : State) : Marks := s.trail.marks

def withMarks (s : State) (marks : Marks) : State := { s with trail := { s.trail with marks } }

end State

/-- How an attempt ends. -/
inductive Outcome where
  | matched (state : State)
  | failed (trail : Trail)
deriving Repr, Inhabited

/-- What is left to match. -/
abbrev Rest := State → Outcome

/-- The trail that the next way starts with, after one that was tried with `saved` failed. -/
def Trail.restore (t : Trail) (saved : Marks) (inRound : Bool) : Trail :=
  { t with marks := t.marks.restore saved inRound }

def Anchor.holds (anchor : Anchor) (c : Cursor) : Bool :=
  match anchor with
  | .textStart => c.before.isEmpty
  | .textEnd => c.after.isEmpty
  | .lineStart everyLine => c.before.isEmpty || (everyLine && c.before.head? = some 10)
  | .lineEnd everyLine =>
    c.after.isEmpty || (if everyLine then c.after.head? = some 10 else c.after = [10])
  | .wordBoundary negated ascii =>
    let word (code? : Option Nat) : Bool := code?.any (Category.word.mem ascii)
    if c.before.isEmpty && c.after.isEmpty then false
    else (word c.before.head? != word c.after.head?) != negated

/-- Takes the codes of an earlier capture. -/
def takeText? (case : CaseRule) : List Nat → Cursor → Option Cursor
  | [], c => some c
  | code :: rest, c =>
    match c.next? with
    | some (found, c) => if case.same found code then takeText? case rest c else none
    | none => none

/-! ## Repeated characters -/

namespace Run

/-- The cursors behind up to `n` characters that pass a test, the last one first. -/
def ends (test : CharTest) : Nat → Cursor → List Cursor → List Cursor
  | 0, c, found => c :: found
  | n + 1, c, found =>
    match test.step? c with
    | some next => ends test n next (c :: found)
    | none => c :: found

/-- Tries cursors in turn, with the trail left by the one before. -/
def tryEach (inRound : Bool) (saved : Marks) (rest : Rest) : List Cursor → Trail → Outcome
  | [], trail => .failed trail
  | c :: more, trail =>
    match rest ⟨c, { trail with place := c }⟩ with
    | .matched found => .matched found
    | .failed left => tryEach inRound saved rest more (left.restore saved inRound)

/-- Tries a cursor and then up to `n` further ones, each a character that passes the test on. -/
def tryOn (inRound : Bool) (saved : Marks) (test : CharTest) (rest : Rest) :
    Nat → Cursor → Marks → Outcome
  | n, c, marks =>
    match rest ⟨c, marks, c⟩ with
    | .matched found => .matched found
    | .failed left =>
      let marks := left.marks.restore saved inRound
      match test.step? c with
      | none => .failed ⟨marks, c⟩
      | some next =>
        match n with
        | 0 => .failed ⟨marks, if test.isStepwise then next else c⟩
        | n + 1 => tryOn inRound saved test rest n next marks

/-- Takes at least `min` and at most `max` characters that pass a test. `literal` is the character
that has to follow, if that is known. -/
def run (inRound : Bool) (literal : Option Nat) (test : CharTest) (greed : Greed) (min : Nat)
    (max : Option Nat) (s : State) (rest : Rest) : Outcome :=
  let left := s.cursor.left
  if left < min then .failed s.trail
  else
    let most := match greed with
      | .lazy => min
      | _ => Nat.min (max.getD left) left
    let found := ends test most s.cursor []
    let last := found.headD s.cursor
    let trail := { s.trail with place := if test.isStepwise then last else s.cursor }
    if found.length ≤ min then .failed trail
    else
      match greed with
      | .greedy =>
        let wanted := found.take (found.length - min)
        let wanted := match literal with
          | some code => wanted.filter fun c => c.after.head? = some code
          | none => wanted
        tryEach inRound s.marks rest wanted trail
      | .lazy => tryOn inRound s.marks test rest (max.getD left - min) last s.marks
      | .possessive => rest ⟨last, trail⟩

end Run

/-! ## Repeated nodes -/

namespace Repeat

/-- Rounds that are still owed, then `after`. -/
def owed (body : State → Rest → Outcome) : Nat → Rest → Rest
  | 0, after, s => after s
  | n + 1, after, s =>
    match body s.begun (owed body n after) with
    | .matched found => .matched found
    | .failed left => .failed { left with place := s.cursor }

/-- The rest of the pattern after the last round. -/
def ended (rest : Rest) : Rest := fun s =>
  match rest s.begun with
  | .matched found => .matched found
  | .failed left => .failed { left with place := s.cursor }

/-- Up to `rounds` further rounds, as many as possible; `last` is where the round before began. -/
def greedy (body : State → Rest → Outcome) : Nat → Option Nat → Rest → Rest
  | 0, _, rest, s => ended rest s
  | rounds + 1, last, rest, s =>
    if last = some s.cursor.index then ended rest s
    else
      match body s.begun (greedy body rounds (some s.cursor.index) rest) with
      | .matched found => .matched found
      | .failed _ => ended rest s

/-- Up to `rounds` further rounds, as few as possible. -/
def lazy (inRound : Bool) (body : State → Rest → Outcome) : Nat → Option Nat → Rest → Rest
  | rounds, last, rest, s =>
    match rest s.begun with
    | .matched found => .matched found
    | .failed left =>
      let trail : Trail := ⟨left.marks.restore s.marks inRound, s.cursor⟩
      match rounds with
      | 0 => .failed trail
      | rounds + 1 =>
        if last = some s.cursor.index then .failed trail
        else
          match body ⟨s.cursor, trail⟩ (lazy inRound body rounds (some s.cursor.index) rest) with
          | .matched found => .matched found
          | .failed left => .failed { left with place := s.cursor }

/-- As many of `rounds` rounds as match, each taken as it first matched. The place where the first
round that does not match began its last step is where matching goes on. -/
def possessive (body : State → Rest → Outcome) : Nat → State → State
  | 0, s => s
  | rounds + 1, s =>
    match body s.begun .matched with
    | .matched found =>
      if found.cursor.index = s.cursor.index then found else possessive body rounds found
    | .failed left => ⟨left.place, s.marks, left.place⟩

/-- Owed rounds, each taken as it first matched. -/
def possessiveOwed (body : State → Rest → Outcome) : Nat → State → Outcome
  | 0, s => .matched s
  | n + 1, s =>
    match body s.begun .matched with
    | .matched found => possessiveOwed body n found
    | .failed trail => .failed trail

/-- Rounds past the least count. A round that makes progress uses a code, and one that makes none
is the last, so the codes left and one more bound their number. -/
def rounds (min : Nat) (max : Option Nat) (s : State) : Nat :=
  let bound := s.cursor.left + 1
  match max with
  | some max => Nat.min (max - min) bound
  | none => bound

/-- Repeats a body that is given for rounds that are given back and for rounds that are not. -/
def run (inRound : Bool) (body : Bool → State → Rest → Outcome) (greed : Greed) (min : Nat)
    (max : Option Nat) (s : State) (rest : Rest) : Outcome :=
  match greed with
  | .greedy =>
    owed (body true) min (fun s => greedy (body true) (rounds min max s) none rest s) s
  | .lazy =>
    owed (body true) min (fun s => lazy inRound (body true) (rounds min max s) none rest s) s
  | .possessive =>
    match possessiveOwed (body inRound) min s.begun with
    | .matched s => rest (possessive (body inRound) (rounds min max s) s)
    | .failed trail => .failed { trail with place := s.cursor }

end Repeat

mutual

/-- Matches a node and then the rest; `inRound` says whether the node stands in a round of a
repetition that may be given back, and `literal` is the character that has to follow the node, if
that is known. -/
def Node.run (inRound : Bool) (literal : Option Nat) : Node → State → Rest → Outcome
  | .one test, s, rest =>
    match test.step? s.cursor with
    | some cursor => rest { s with cursor }
    | none => .failed s.trail
  | .anchor anchor, s, rest => if anchor.holds s.cursor then rest s else .failed s.trail
  | .seq nodes, s, rest => runSeq inRound literal nodes s rest
  | .choice alternatives, s, rest => runChoice inRound alternatives s.marks s rest
  | .capture index body, s, rest =>
    body.run inRound none (s.withMarks (s.marks.enter index s.cursor.index)) fun found =>
      rest (found.withMarks (found.marks.leave index found.cursor.index))
  | .scoped body, s, rest => body.run inRound literal s rest
  | .repeated greed min max body, s, rest =>
    match body.single? with
    | some test => Run.run inRound literal test greed min max s rest
    | none => Repeat.run inRound (fun inRound => body.run inRound none) greed min max s rest
  | .atomic body, s, rest =>
    match body.run inRound none s.begun .matched with
    | .matched found => rest found.begun
    | .failed left => .failed { left with place := s.cursor }
  | .lookahead negated body, s, rest =>
    match body.run inRound none s.begun .matched with
    | .matched found =>
      if negated then .failed found.begun.trail else rest ⟨s.cursor, found.begun.trail⟩
    | .failed left =>
      if negated then rest ⟨s.cursor, left.restore s.marks inRound⟩ else .failed left
  | .lookbehind negated width body, s, rest =>
    match s.cursor.back? width.min with
    | some cursor =>
      match body.run inRound none { s with cursor }.begun .matched with
      | .matched found =>
        if negated then .failed found.begun.trail else rest ⟨s.cursor, found.begun.trail⟩
      | .failed left =>
        if negated then rest ⟨s.cursor, left.restore s.marks inRound⟩ else .failed left
    | none => if negated then rest s else .failed s.trail
  | .backreference index case, s, rest =>
    match s.marks.taken? index with
    | some (start, stop) =>
      match takeText? case (s.cursor.slice start stop) s.cursor with
      | some cursor => rest { s with cursor }
      | none => .failed s.trail
    | none => .failed s.trail
  | .conditional index yes no, s, rest =>
    if (s.marks.taken? index).isSome then
      yes.run inRound (if no.isEmpty then literal else none) s rest
    else no.run inRound literal s rest

def runSeq (inRound : Bool) (literal : Option Nat) : List Node → State → Rest → Outcome
  | [], s, rest => rest s
  | n :: nodes, s, rest =>
    n.run inRound ((leadOf nodes).literalOr literal) s fun s =>
      runSeq inRound literal nodes s rest

/-- Tries alternatives in turn; `saved` are the marks before the first of them. An alternative is
passed over if its first character shows that it cannot match. -/
def runChoice (inRound : Bool) : List Node → Marks → State → Rest → Outcome
  | [], _, s, _ => .failed s.trail
  | n :: nodes, saved, s, rest =>
    if n.lead.excludes s.cursor then runChoice inRound nodes saved s rest
    else
      match n.run inRound none s.begun rest with
      | .matched found => .matched found
      | .failed left =>
        runChoice inRound nodes saved ⟨s.cursor, left.restore saved inRound⟩ rest

end

/-- A match: where it starts and ends, its codes, and the captures of its groups. -/
structure Match where
  start : Nat
  stop : Nat
  codes : List Nat
  captures : List (Nat × List Nat)
  /-- Whether no group of the match ends before it starts. -/
  ordered : Bool
deriving Repr, Inhabited

/-- The captures that marks stand for. -/
def capturesOf (c : Cursor) (marks : Marks) : List (Nat × List Nat) :=
  marks.groups.filterMap fun group =>
    (marks.span? group).map fun (start, stop) => (group, c.slice start stop)

/-- A match that starts at the cursor; it must not be empty if `advance` holds. -/
def matchAt? (node : Node) (advance : Bool) (c : Cursor) : Option (Match × Cursor) :=
  let accept : Rest := fun s =>
    if advance && s.cursor.index = c.index then .failed s.trail else .matched s
  match node.run false none ⟨c, .empty, c⟩ accept with
  | .matched s =>
    some
      (⟨c.index, s.cursor.index, c.slice c.index s.cursor.index, capturesOf c s.marks,
        s.marks.ordered⟩, s.cursor)
  | .failed _ => none

/-- The first match from the cursor on. -/
def searchFrom? (node : Node) (advance : Bool) (before : List Nat) (index left : Nat)
    (after : List Nat) : Option (Match × Cursor) :=
  match matchAt? node advance ⟨before, after, index, left⟩ with
  | some found => some found
  | none =>
    match after with
    | [] => none
    | code :: rest => searchFrom? node false (code :: before) (index + 1) (left - 1) rest

/-- Matches from the cursor on, one after the other; after an empty match the next one at the same
place must not be empty. `rounds` bounds their number. -/
def allFrom (node : Node) : Nat → Bool → Cursor → List Match
  | 0, _, _ => []
  | rounds + 1, advance, c =>
    match searchFrom? node advance c.before c.index c.left c.after with
    | some (found, c) => found :: allFrom node rounds (found.start = found.stop) c
    | none => []

end StylePrune.Regex
