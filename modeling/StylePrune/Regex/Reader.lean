import StylePrune.Regex.Choice
import StylePrune.Regex.Reader.Group

/-!
# Reading patterns

Patterns are read left to right into trees. A pattern that cannot be read is refused with a message
that says at which character reading stopped. Flags may be set for the whole pattern at its start,
and for a group at the head of the group.
-/

namespace StylePrune.Regex

namespace Reader

/-- The integer that digits write. -/
def integer (digits : List Char) : Read Nat := do
  if Decimal.maxDigits < digits.length then throw (.integerTooLong digits.length)
  return number 10 digits

/-- One more than the greatest count of a repetition. -/
def mostRounds : Nat := 4294967295

/-- A count between braces; `none` if what is there is no count. The state is then as before. -/
def braceCount : Read (Option (Nat × Option Nat)) := do
  let before ← get
  let low ← takeWhile isDigit (← leftLength)
  let high ← if ← accept ',' then takeWhile isDigit (← leftLength) else pure low
  if !(← accept '\x7d') then
    set before
    return none
  let min ← integer low
  if min ≥ mostRounds then throw .repetitionTooLarge
  if high.isEmpty then return some (min, none)
  let max ← integer high
  if max ≥ mostRounds then throw .repetitionTooLarge
  if max < min then throw (.malformed "min repeat greater than max repeat" (some before.position))
  return some (min, some max)

/-- Skips a comment whose group started at `start`. -/
def skipComment (start : Nat) : Nat → Read Unit
  | 0 => throw (.malformed "missing ), unterminated comment" (some start))
  | fuel + 1 => do
    match ← take with
    | none => throw (.malformed "missing ), unterminated comment" (some start))
    | some t => if t = .plain ')' then pure () else skipComment start fuel

/-- Skips the rest of a line in a pattern with comments. -/
def skipLine : Nat → Read Unit
  | 0 => pure ()
  | fuel + 1 => do
    match ← take with
    | none => pure ()
    | some t => if t = .plain '\n' then pure () else skipLine fuel

/-- The last member of a sequence that is being read, as far as repeating it goes. -/
inductive Last where
  | none
  | anchor
  | repeated
  | item

def lastOf : List Node → Last
  | [] => .none
  | .anchor _ :: _ => .anchor
  | .repeated .. :: _ => .repeated
  | _ => .item

def isSpace (c : Char) : Bool := c = ' ' || ('\t' ≤ c && c ≤ '\r')

/-- The anchor of `^` or `$`. -/
def lineAnchor (flags : Flags) (c : Char) : Anchor :=
  if c = '^' then .lineStart flags.multiline else .lineEnd flags.multiline

/-- The nodes of a sequence, with plain groups replaced by what they hold. -/
def flattened (nodes : List Node) : List Node :=
  nodes.flatMap fun n =>
    match n with
    | .seq inner => inner
    | n => [n]

def unterminated {α : Type} (start : Nat) : Read α :=
  throw (.malformed "missing ), unterminated subpattern" (some start))

/-- The mark after a repetition that says how it gives back. -/
def greedMark : Read Greed := do
  if ← accept '?' then return .lazy
  else if ← accept '+' then return .possessive
  else return .greedy

/-- Repeats the last node of a sequence, which is given last node first; `here` is the place after
the mark that asked for it. -/
def repeatLast (here : Nat) (min : Nat) (max : Option Nat) (nodes : List Node) :
    Read (List Node) := do
  match lastOf nodes, nodes with
  | .repeated, _ => throw (.malformed "multiple repeat" (some (here - 1)))
  | .item, body :: before =>
    return .repeated (← greedMark) min max body :: before
  | _, _ => throw (.malformed "nothing to repeat" (some (here - 1)))

/-- The level of the place in the nesting of groups, which decides where flags for the whole
pattern may stand: only at the start of the first alternative of the pattern itself. -/
inductive Level where
  | top (first : Bool)
  | inner
deriving DecidableEq

mutual

/-- Alternatives up to a closing bracket or the end; those read so far are given last one first. -/
def alternatives (flags : Flags) (nested : Bool) : Nat → List (List Node) → Read Node
  | 0, _ => fail "pattern too deep" 0
  | fuel + 1, before => do
    let level := if nested then Level.inner else .top before.isEmpty
    let s ← get
    let flags := if nested then flags else flags.union s.flags
    let nodes ← sequence flags level fuel []
    if ← accept '|' then alternatives flags nested fuel (nodes :: before)
    else return .seq (choiceOf flags.caseRule (nodes :: before).reverse)

/-- A sequence up to a bar, a closing bracket or the end; the nodes read so far are given last one
first. -/
def sequence (flags : Flags) (level : Level) : Nat → List Node → Read (List Node)
  | 0, _ => fail "pattern too deep" 0
  | fuel + 1, nodes => do
    match ← peek with
    | none => return flattened nodes.reverse
    | some t =>
      if t = .plain '|' || t = .plain ')' then return flattened nodes.reverse
      advance
      let here := (← get).position
      match t with
      | .escape c =>
        let e ← escape flags c
        sequence flags level fuel (e.toNode flags :: nodes)
      | .plain c =>
        if flags.verbose && isSpace c then sequence flags level fuel nodes
        else if flags.verbose && c = '#' then
          skipLine (← leftLength)
          sequence flags level fuel nodes
        else if c = '[' then
          let negated ← accept '^'
          let items ← setItems flags (here - 1) (← leftLength) []
          sequence flags level fuel (.one (.ofSet negated items flags.caseRule) :: nodes)
        else if c = '?' then sequence flags level fuel (← repeatLast here 0 (some 1) nodes)
        else if c = '*' then sequence flags level fuel (← repeatLast here 0 none nodes)
        else if c = '+' then sequence flags level fuel (← repeatLast here 1 none nodes)
        else if c = '\x7b' then
          if ← nextIs (· = '\x7d') then sequence flags level fuel (literal flags c.toNat :: nodes)
          else
            match ← braceCount with
            | none => sequence flags level fuel (literal flags c.toNat :: nodes)
            | some (min, max) => sequence flags level fuel (← repeatLast here min max nodes)
        else if c = '.' then sequence flags level fuel (.one (.any flags.dotAll) :: nodes)
        else if c = '^' || c = '$' then
          sequence flags level fuel (.anchor (lineAnchor flags c) :: nodes)
        else if c = '(' then
          let start := here - 1
          if ← accept '?' then
            match ← take with
            | none => fail "unexpected end of pattern" 0
            | some t =>
              match t with
              | .escape d => fail s!"unknown extension ?\\{d}" 3
              | .plain d =>
                if d = 'P' then
                  if ← accept '<' then
                    let name ← takeUntil '>' "group name" (← leftLength) []
                    checkName name
                    let n ← grouped flags start (.capture (some name)) fuel
                    sequence flags level fuel (n :: nodes)
                  else if ← accept '=' then
                    let name ← takeUntil ')' "group name" (← leftLength) []
                    checkName name
                    let s ← get
                    match s.names.lookup name with
                    | none => fail s!"unknown group name {Quoted.string name}" (name.length + 1)
                    | some index =>
                      if ((s.widths[index]?).getD none).isNone then
                        fail "cannot refer to an open group" (name.length + 1)
                      checkLookbehind index
                      sequence flags level fuel
                        (.backreference index flags.caseRule :: nodes)
                  else
                    match ← take with
                    | none => fail "unexpected end of pattern" 0
                    | some t => fail s!"unknown extension ?P{String.ofList t.chars}" (t.length + 2)
                else if d = ':' then
                  let n ← grouped flags start .plain fuel
                  sequence flags level fuel (n :: nodes)
                else if d = '#' then
                  skipComment start (← leftLength)
                  sequence flags level fuel nodes
                else if d = '=' || d = '!' then
                  let body ← alternatives flags true fuel []
                  if !(← accept ')') then unterminated start
                  sequence flags level fuel (.lookahead (d = '!') body :: nodes)
                else if d = '<' then
                  match ← take with
                  | none => fail "unexpected end of pattern" 0
                  | some t =>
                    if t = .plain '=' || t = .plain '!' then
                      let outer := (← get).lookbehindGroups
                      modify fun s =>
                        { s with lookbehindGroups := some (outer.getD s.widths.length) }
                      let body ← alternatives flags true fuel []
                      modify fun s => { s with lookbehindGroups := outer }
                      if !(← accept ')') then unterminated start
                      sequence flags level fuel
                        (.lookbehind (t = .plain '!') (← widthOf body) body :: nodes)
                    else fail s!"unknown extension ?<{String.ofList t.chars}" (t.length + 2)
                else if d = '(' then
                  let index ← conditionGroup
                  let yes ← sequence flags .inner fuel []
                  let no ← if ← accept '|' then
                      let no ← sequence flags .inner fuel []
                      if ← nextIs (· = '|') then
                        fail "conditional backref with more than two branches" 0
                      pure no
                    else pure []
                  if !(← accept ')') then unterminated start
                  sequence flags level fuel (.conditional index (.seq yes) (.seq no) :: nodes)
                else if d = '>' then
                  let n ← grouped flags start .atomic fuel
                  sequence flags level fuel (n :: nodes)
                else if d = '-' || Flags.isLetter d then
                  match ← flagHead d with
                  | .whole on =>
                    if level ≠ .top true || !nodes.isEmpty then
                      throw
                        (.malformed "global flags not at the start of the expression" (some start))
                    modify fun s => { s with flags := s.flags.union on }
                    sequence (flags.union on) level fuel nodes
                  | .group on off =>
                    let n ← grouped flags start (.scoped on off) fuel
                    sequence flags level fuel (n :: nodes)
                else fail s!"unknown extension ?{d}" 2
          else
            let n ← grouped flags start (.capture none) fuel
            sequence flags level fuel (n :: nodes)
        else sequence flags level fuel (literal flags c.toNat :: nodes)

/-- The body of a group that started at `start`, up to its closing bracket. -/
def grouped (flags : Flags) (start : Nat) (head : GroupHead) : Nat → Read Node
  | 0 => fail "pattern too deep" 0
  | fuel + 1 => do
    match head with
    | .capture name =>
      let index ← openGroup name
      let body ← alternatives flags true fuel []
      if !(← accept ')') then unterminated start
      closeGroup index body
      return .capture index body
    | .plain =>
      let body ← alternatives flags true fuel []
      if !(← accept ')') then unterminated start
      return body
    | .scoped on off =>
      let body ← alternatives (flags.within on off) true fuel []
      if !(← accept ')') then unterminated start
      return .scoped body
    | .atomic =>
      let body ← alternatives flags true fuel []
      if !(← accept ')') then unterminated start
      return .atomic body

end

/-- The name of a repetition in the message that refuses it. -/
def greedName : Greed → String
  | .greedy => "MAX_REPEAT"
  | .lazy => "MIN_REPEAT"
  | .possessive => "POSSESSIVE_REPEAT"

mutual

/-- The first fault of a tree, outer nodes before inner ones and then from left to right: a
repetition under the old flag, or a lookbehind whose length is not fixed. -/
def fault? (template : Bool) : Node → Option String
  | .one _ | .anchor _ | .backreference .. => none
  | .seq nodes | .choice nodes => listFault? template nodes
  | .capture _ body | .scoped body | .atomic body | .lookahead _ body => fault? template body
  | .repeated greed _ _ body =>
    if template then some s!"internal: unsupported template operator {greedName greed}"
    else fault? template body
  | .lookbehind _ width body =>
    if width.min ≠ width.max then some "look-behind requires fixed-width pattern"
    else fault? template body
  | .conditional _ yes no => (fault? template yes).or (fault? template no)

def listFault? (template : Bool) : List Node → Option String
  | [] => none
  | n :: rest => (fault? template n).or (listFault? template rest)

end

/-- The greatest length of what a lookbehind may match. -/
def mostBehind : Nat := 2147483647

mutual

/-- Whether a lookbehind of a tree is too long. -/
def looksTooFar : Node → Bool
  | .one _ | .anchor _ | .backreference .. => false
  | .seq nodes | .choice nodes => someLooksTooFar nodes
  | .capture _ body | .scoped body | .atomic body | .lookahead _ body => looksTooFar body
  | .repeated _ _ _ body => looksTooFar body
  | .lookbehind _ width body => mostBehind < width.min || looksTooFar body
  | .conditional _ yes no => looksTooFar yes || looksTooFar no

def someLooksTooFar : List Node → Bool
  | [] => false
  | n :: rest => looksTooFar n || someLooksTooFar rest

end

/-- Reads the whole pattern and checks what can only be known at its end. -/
def whole (flags : Flags) : Read Node := do
  let n ← alternatives flags false (4 * (← leftLength)) []
  let s ← get
  if s.flags.ascii && s.flags.unicode then throw .flagConflict
  if s.next.isSome then fail "unbalanced parenthesis" 0
  match s.conditions.find? fun (index, _) => index ≥ s.widths.length with
  | some (index, position) =>
    throw (.malformed s!"invalid group reference {index}" (some position))
  | none => pure ()
  match fault? s.flags.template n with
  | some message => throw (.malformed message none)
  | none =>
    if looksTooFar n then throw .lookbehindTooLong
    return n

end Reader

/-- A pattern that was read: its source, the flags of the whole, the number of its groups, and its
tree. -/
structure Pattern where
  source : String
  flags : Flags
  groups : Nat
  body : Node
deriving Repr, Inhabited

/-- Reads a pattern with the given flags. -/
def Pattern.read (source : String) (flags : Flags) : Except PatternError Pattern :=
  match Reader.tokenOf source.toList 0 with
  | .error e => .error e
  | .ok (next, later) =>
    let start : Reader.State := ⟨next, later, 0, flags, [some .zero], [], none, []⟩
    match (Reader.whole flags).run start with
    | .error e => .error e
    | .ok (body, s) => .ok ⟨source, s.flags, s.widths.length - 1, body⟩

end StylePrune.Regex
