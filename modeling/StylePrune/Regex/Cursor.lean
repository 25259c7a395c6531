/-!
# Where a match stands

The place in a text that a match has come to, and the marks of its groups.
-/

namespace StylePrune.Regex

/-!
## Places in a text

A text is a list of code points. A cursor is a place in it, with the codes before it and those
after it.
-/

/-- A place in a text: the codes before it, nearest first, and those after it, with their numbers. -/
structure Cursor where
  before : List Nat
  after : List Nat
  index : Nat
  left : Nat
deriving Repr, Inhabited

namespace Cursor

def start (codes : List Nat) : Cursor := ⟨[], codes, 0, codes.length⟩

def next? (c : Cursor) : Option (Nat × Cursor) :=
  match c.after with
  | [] => none
  | code :: rest => some (code, ⟨code :: c.before, rest, c.index + 1, c.left - 1⟩)

/-- The cursor `n` codes earlier, if there are so many. -/
def back? (c : Cursor) : Nat → Option Cursor
  | 0 => some c
  | n + 1 =>
    match c.before with
    | [] => none
    | code :: rest => back? ⟨rest, code :: c.after, c.index - 1, c.left + 1⟩ n

/-- The codes of the text from place `start` up to place `stop`. -/
def slice (c : Cursor) (start stop : Nat) : List Nat :=
  ((c.before.take (c.index - start)).reverse ++ c.after.drop (start - c.index)).take (stop - start)

end Cursor

/-!
## Marks of groups

Where the groups of a match start and end. A group sets its first mark when it is entered and its
second one when it is left. A way that fails leaves the marks it has set behind, and the place that
tries the next way takes them back: all of them where a round may be repeated, and elsewhere only
those that were not there before.
-/

/-- The marks up to the last one set; group `n` has those at `2 * n - 2` and `2 * n - 1`. -/
structure Marks where
  places : List (Option Nat)
deriving DecidableEq, Repr, Inhabited

namespace Marks

def empty : Marks := ⟨[]⟩

/-- Sets a mark. The marks that are skipped are void. -/
def set (m : Marks) (mark place : Nat) : Marks :=
  if mark < m.places.length then ⟨m.places.set mark (some place)⟩
  else ⟨m.places ++ List.replicate (mark - m.places.length) none ++ [some place]⟩

def enter (m : Marks) (group place : Nat) : Marks := m.set (2 * group - 2) place

def leave (m : Marks) (group place : Nat) : Marks := m.set (2 * group - 1) place

/-- The marks for the next way, after one that was tried from `saved` failed with `m`. -/
def restore (m saved : Marks) (inRound : Bool) : Marks :=
  if inRound then saved else ⟨m.places.take saved.places.length⟩

/-- Both marks of a group. -/
def span? (m : Marks) (group : Nat) : Option (Nat × Nat) :=
  match (m.places[2 * group - 2]?).join, (m.places[2 * group - 1]?).join with
  | some start, some stop => some (start, stop)
  | _, _ => none

/-- The marks of a group that has taken part: it ends where it starts or later. -/
def taken? (m : Marks) (group : Nat) : Option (Nat × Nat) :=
  (m.span? group).filter fun (start, stop) => start ≤ stop

/-- Groups that have a mark. -/
def groups (m : Marks) : List Nat := (List.range ((m.places.length + 1) / 2)).map (· + 1)

/-- Whether no group ends before it starts. -/
def ordered (m : Marks) : Bool :=
  m.groups.all fun group => (m.span? group).all fun (start, stop) => start ≤ stop

end Marks

end StylePrune.Regex
