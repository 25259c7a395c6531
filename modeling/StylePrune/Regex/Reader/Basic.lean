import StylePrune.Decimal.Exact
import StylePrune.Regex.Flags

/-!
# Reading tokens

A pattern is read one token at a time, where a token is a character or a backslash with the
character behind it. What reading knows besides is kept in a state, and a refusal ends it.
-/

namespace StylePrune.Regex

/-!
## Refusals of patterns

A pattern is refused for its syntax, with the place at which reading stopped, or for one of a few
reasons that are no matter of syntax. One of them shows only in a match: a group that ends before
it starts.
-/

/-- Why a pattern is refused. -/
inductive PatternError where
  | malformed (message : String) (position : Option Nat)
  | flagConflict
  | repetitionTooLarge
  | integerTooLong (digits : Nat)
  /-- A lookbehind of a fixed length beyond the greatest one. -/
  | lookbehindTooLong
  | disorderedGroups
deriving DecidableEq, Repr

namespace PatternError

/-- The message, with the place in the pattern, and with line and column if it has several lines. -/
def message (pattern : String) : PatternError → String
  | malformed text none => text
  | malformed text (some position) =>
    let before := pattern.toList.take position
    let text := s!"{text} at position {position}"
    if pattern.toList.contains '\n' then
      let line := before.count '\n' + 1
      let column := (before.reverse.takeWhile (· ≠ '\n')).length + 1
      s!"{text} (line {line}, column {column})"
    else text
  | flagConflict => "ASCII and UNICODE flags are incompatible"
  | repetitionTooLarge => "the repetition number is too large"
  | integerTooLong digits => Decimal.integerTooLongMessage digits
  | lookbehindTooLong => "invalid SRE code"
  | disorderedGroups =>
    "The span of capturing group is wrong, please report a bug for the re module."

end PatternError

end StylePrune.Regex

namespace StylePrune.Regex.Reader

/-! ## Reading tokens -/

/-- A character, or a backslash and the character behind it. -/
inductive Token where
  | plain (c : Char)
  | escape (c : Char)
deriving DecidableEq, Repr

def Token.chars : Token → List Char
  | plain c => [c]
  | escape c => ['\\', c]

def Token.length (t : Token) : Nat := t.chars.length

/-- What reading knows: the place and text of the next token, the flags of the whole pattern, and
the groups opened so far, with the width of those that are closed. -/
structure State where
  next : Option Token
  /-- The text after the next token. -/
  later : List Char
  position : Nat
  flags : Flags
  widths : List (Option Width)
  names : List (String × Nat)
  /-- The number of groups at the head of the outermost lookbehind around the place. -/
  lookbehindGroups : Option Nat
  /-- Groups that conditions name by number, with their places. -/
  conditions : List (Nat × Nat)
deriving Repr

abbrev Read := StateT State (Except PatternError)

/-- Refuses the pattern `offset` characters before the next token. -/
def fail {α : Type} (message : String) (offset : Nat) : Read α := do
  throw (.malformed message (some ((← get).position - offset)))

/-- Splits the next token off a text that starts at `position`. -/
def tokenOf (text : List Char) (position : Nat) :
    Except PatternError (Option Token × List Char) :=
  match text with
  | [] => .ok (none, [])
  | '\\' :: [] => .error (.malformed "bad escape (end of pattern)" (some position))
  | '\\' :: c :: rest => .ok (some (.escape c), rest)
  | c :: rest => .ok (some (.plain c), rest)

def advance : Read Unit := do
  let s ← get
  match s.next with
  | none => pure ()
  | some t =>
    let position := s.position + t.length
    let (next, later) ← (tokenOf s.later position : Except _ _)
    set { s with next, later, position }

def take : Read (Option Token) := do
  let t := (← get).next
  advance
  return t

def peek : Read (Option Token) := do return (← get).next

/-- Whether the next token is `c`, which is then read. -/
def accept (c : Char) : Read Bool := do
  if (← peek) = some (.plain c) then
    advance
    return true
  else return false

def nextIs (p : Char → Bool) : Read Bool := do
  match ← peek with
  | some (.plain c) => return p c
  | _ => return false

/-- Up to `n` characters that satisfy `p`. -/
def takeWhile (p : Char → Bool) : Nat → Read (List Char)
  | 0 => return []
  | n + 1 => do
    match ← peek with
    | some (.plain c) =>
      if p c then
        advance
        return c :: (← takeWhile p n)
      else return []
    | _ => return []

/-- The text up to `terminator`, which is read too; `read` is what was found of it so far. -/
def takeUntil (terminator : Char) (what : String) : Nat → List Char → Read String
  | 0, _ => fail s!"missing {what}" 0
  | fuel + 1, read => do
    match ← take with
    | none =>
      if read.isEmpty then fail s!"missing {what}" 0
      else fail s!"missing {terminator}, unterminated name" read.length
    | some t =>
      if t = .plain terminator then
        if read.isEmpty then fail s!"missing {what}" 1 else return String.ofList read
      else takeUntil terminator what fuel (read ++ t.chars)

/-- Enough steps to read all that is left. -/
def leftLength : Read Nat := do
  let s ← get
  return s.later.length + 3

def isDigit (c : Char) : Bool := '0' ≤ c && c ≤ '9'
def isOctal (c : Char) : Bool := '0' ≤ c && c ≤ '7'
def isHex (c : Char) : Bool := isDigit c || ('a' ≤ c && c ≤ 'f') || ('A' ≤ c && c ≤ 'F')
def isAsciiLetter (c : Char) : Bool := ('a' ≤ c && c ≤ 'z') || ('A' ≤ c && c ≤ 'Z')

def digitOf (c : Char) : Nat :=
  if isDigit c then c.toNat - 48 else if 'a' ≤ c then c.toNat - 87 else c.toNat - 55

def number (base : Nat) (cs : List Char) : Nat := cs.foldl (fun n c => base * n + digitOf c) 0

end StylePrune.Regex.Reader
