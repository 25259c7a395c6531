import StylePrune.Decimal.Read
import StylePrune.Regex.Reader.Escape
import StylePrune.Text.CharClass

/-!
# The heads of groups

The flags at the head of a group, its number and name, and the group that a condition asks about.
-/

namespace StylePrune.Regex.Reader

/-- The message for a token where a flag or one of the marks in `instead` was expected. -/
def flagExpected {α : Type} (t : Token) (instead : String) : Read α :=
  let isLetter := match t with
    | .plain c => StylePrune.isLetter c.toNat
    | .escape _ => false
  fail (if isLetter then "unknown flag" else instead) t.length

/-- Flags to turn on, from the letter `c` on, up to the mark that ends them. -/
def flagsOn : Nat → Flags → Char → Read (Flags × Char)
  | 0, _, _ => fail "missing -, : or )" 0
  | fuel + 1, on, c => do
    if c = 'L' then fail "bad inline flags: cannot use 'L' flag with a str pattern" 0
    let on := (Flags.withLetter? on c).getD on
    if on.ascii && on.unicode then
      fail "bad inline flags: flags 'a', 'u' and 'L' are incompatible" 0
    match ← take with
    | none => fail "missing -, : or )" 0
    | some t =>
      match t with
      | .plain d =>
        if d = ')' || d = '-' || d = ':' then return (on, d)
        else if Flags.isLetter d then flagsOn fuel on d
        else flagExpected t "missing -, : or )"
      | .escape _ => flagExpected t "missing -, : or )"

/-- Flags to turn off, from the letter `c` on, up to the colon. -/
def flagsOff : Nat → Flags → Char → Read Flags
  | 0, _, _ => fail "missing :" 0
  | fuel + 1, off, c => do
    if c = 'a' || c = 'u' || c = 'L' then
      fail "bad inline flags: cannot turn off flags 'a', 'u' and 'L'" 0
    let off := (Flags.withLetter? off c).getD off
    match ← take with
    | none => fail "missing :" 0
    | some t =>
      match t with
      | .plain d =>
        if d = ':' then return off
        else if Flags.isLetter d then flagsOff fuel off d
        else flagExpected t "missing :"
      | .escape _ => flagExpected t "missing :"

/-- What a head of flags asks for: flags for the whole pattern, or for one group. -/
inductive FlagHead where
  | whole (flags : Flags)
  | group (on off : Flags)

def flagHead (c : Char) : Read FlagHead := do
  let (on, mark) ← if c = '-' then pure (({} : Flags), '-') else flagsOn (← leftLength) {} c
  if mark = ')' then return .whole on
  if on.template then fail "bad inline flags: cannot turn on global flag" 1
  if mark = ':' then return .group on {}
  match ← take with
  | none => fail "missing flag" 0
  | some t =>
    match t with
    | .plain d =>
      if !Flags.isLetter d then flagExpected t "missing flag"
      let off ← flagsOff (← leftLength) {} d
      if off.template then fail "bad inline flags: cannot turn off global flag" 1
      if on.meets off then fail "bad inline flags: flag turned on and off" 1
      return .group on off
    | .escape _ => flagExpected t "missing flag"

def groupWidth (widths : List (Option Width)) (index : Nat) : Width :=
  ((widths[index]?).getD none).getD .zero

def widthOf (n : Node) : Read Width := do
  let s ← get
  return n.width (groupWidth s.widths)

/-- Opens the next group and gives its index. -/
def openGroup (name : Option String) : Read Nat := do
  let s ← get
  let index := s.widths.length
  match name with
  | none => set { s with widths := s.widths ++ [none] }
  | some name =>
    match s.names.lookup name with
    | some earlier =>
      fail (s!"redefinition of group name {Quoted.string name} as group {index}; " ++
        s!"was group {earlier}") (name.length + 1)
    | none =>
      set { s with widths := s.widths ++ [none], names := (name, index) :: s.names }
  return index

def closeGroup (index : Nat) (body : Node) : Read Unit := do
  let width ← widthOf body
  modify fun s => { s with widths := s.widths.set index (some width) }

def checkName (name : String) : Read Unit := do
  if !isIdentifier name then
    fail s!"bad character in group name {Quoted.string name}" (name.length + 1)

/-- One more than the greatest number that a condition may name. -/
def mostGroups : Nat := 1073741823

/-- The group that a condition names, by a name or by an integer. -/
def conditionGroup : Read Nat := do
  let name ← takeUntil ')' "group name" (← leftLength) []
  let index ←
    if isIdentifier name then
      match (← get).names.lookup name with
      | some index => pure index
      | none => fail s!"unknown group name {Quoted.string name}" (name.length + 1)
    else
      match Decimal.readInt? name with
      | some (.ofNat index) =>
        if index = 0 then fail "bad group number" (name.length + 1)
        if index ≥ mostGroups then fail s!"invalid group reference {index}" (name.length + 1)
        modify fun s =>
          if (s.conditions.lookup index).isSome then s
          else { s with conditions := s.conditions ++ [(index, s.position - name.length - 1)] }
        pure index
      | _ => fail s!"bad character in group name {Quoted.string name}" (name.length + 1)
  checkLookbehind index
  return index

/-- What a group holds besides its body. -/
inductive GroupHead where
  | capture (name : Option String)
  | plain
  | scoped (on off : Flags)
  | atomic

end StylePrune.Regex.Reader
