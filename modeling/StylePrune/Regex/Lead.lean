import StylePrune.Regex.CharTest
import StylePrune.Regex.Cursor

/-!
# First characters

What a pattern starts with, as far as that is a single character or set. It tells beforehand that
an alternative cannot match, and how far a repeated character has to be given back.
-/

namespace StylePrune.Regex

/-- Takes a character that passes a test. -/
def CharTest.step? (test : CharTest) (c : Cursor) : Option Cursor :=
  match c.next? with
  | some (code, next) => if test.holds code then some next else none
  | none => none

/-- What a pattern starts with. -/
inductive Lead where
  | nothing
  | test (test : CharTest)
  | other
deriving Repr, Inhabited

mutual

def Node.lead : Node → Lead
  | .one test => .test test
  | .seq nodes => leadOf nodes
  | .scoped body => body.lead
  | _ => .other

def leadOf : List Node → Lead
  | [] => .nothing
  | n :: rest =>
    match n.lead with
    | .nothing => leadOf rest
    | lead => lead

end

namespace Lead

/-- The character that comes first, or the one that follows a pattern that holds nothing. -/
def literalOr (lead : Lead) (following : Option Nat) : Option Nat :=
  match lead with
  | nothing => following
  | test (.literal false code .exact) => some code
  | _ => none

/-- Whether the first character or set, compared as it stands, does not match at a place. -/
def excludes (lead : Lead) (c : Cursor) : Bool :=
  match lead with
  | test t@(.literal false _ .exact) | test t@(.set _ _ .exact) => (t.step? c).isNone
  | _ => false

end Lead

/-- Whether a node holds nothing. -/
def Node.isEmpty : Node → Bool
  | .seq [] => true
  | _ => false

end StylePrune.Regex
