import StylePrune.Calendar
import StylePrune.Json.Value
import StylePrune.Toml.Number
import StylePrune.Toml.Text

/-!
# Values and tables of TOML

Dates and times, values, and the tables that a document builds from them.
-/

namespace StylePrune.Toml

/-!
## Dates and times of TOML

A date, a time, or both with an optional distance from universal time. A date must be one of the
calendar; a fraction of a second counts to six places.
-/

open Calendar (Date Time padded)

def digit? (c : Char) : Option Nat := if '0' ≤ c ∧ c ≤ '9' then some (c.toNat - 48) else none

/-- Two digits with a value from `low` to `high`. -/
def pair? (low high : Nat) : List Char → Option (Nat × List Char)
  | a :: b :: rest => do
    let n := 10 * (← digit? a) + (← digit? b)
    if low ≤ n && n ≤ high then some (n, rest) else none
  | _ => none

def expect? (c : Char) : List Char → Option (List Char)
  | d :: rest => if d = c then some rest else none
  | [] => none

def date? (cs : List Char) : Option (Date × List Char) := do
  let (century, cs) ← pair? 0 99 cs
  let (year, cs) ← pair? 0 99 cs
  let (month, cs) ← pair? 1 12 (← expect? '-' cs)
  let (day, cs) ← pair? 1 31 (← expect? '-' cs)
  return (⟨100 * century + year, month, day⟩, cs)

/-- The micros of the digits after a point. -/
def microsOf (digits : List Char) : Nat :=
  let six := digits.take 6
  (six ++ List.replicate (6 - six.length) '0').foldl (fun n c => 10 * n + (c.toNat - 48)) 0

def time? (cs : List Char) : Option (Time × List Char) := do
  let (hour, cs) ← pair? 0 23 cs
  let (minute, cs) ← pair? 0 59 (← expect? ':' cs)
  let (second, cs) ← pair? 0 59 (← expect? ':' cs)
  match cs with
  | '.' :: rest =>
    let digits := rest.takeWhile fun c => (digit? c).isSome
    if digits.isEmpty then return (⟨hour, minute, second, 0⟩, cs)
    else return (⟨hour, minute, second, microsOf digits⟩, rest.drop digits.length)
  | _ => return (⟨hour, minute, second, 0⟩, cs)

/-- A distance from universal time as text, if one starts here. -/
def offset? (cs : List Char) : Option (String × List Char) :=
  match cs with
  | [] => none
  | c :: rest =>
    if c = 'Z' || c = 'z' then some ("+00:00", rest)
    else if c = '+' || c = '-' then do
      let (hours, rest) ← pair? 0 23 rest
      let (minutes, rest) ← pair? 0 59 (← expect? ':' rest)
      let sign := if c = '-' && (hours ≠ 0 || minutes ≠ 0) then "-" else "+"
      return (sign ++ padded 2 hours ++ ":" ++ padded 2 minutes, rest)
    else none

/-- The time after a date, with a distance or not, as text. -/
def timeAfterDate? (cs : List Char) : Option (String × List Char) :=
  match cs with
  | [] => none
  | c :: rest =>
    if c = 'T' || c = 't' || c = ' ' then do
      let (t, left) ← time? rest
      match offset? left with
      | some (offset, left) => return (t.shown ++ offset, left)
      | none => return (t.shown, left)
    else none

/-- A date or time, if one starts here; `none` within for a date that the calendar does not have. -/
def moment? (cs : List Char) : Option (Option Json × List Char) :=
  match date? cs with
  | some (d, left) =>
    let (value, left) := match timeAfterDate? left with
      | some (t, left) => (Json.moment "datetime.datetime" (d.shown ++ " " ++ t), left)
      | none => (Json.moment "datetime.date" d.shown, left)
    some (if d.isValid then some value else none, left)
  | none => (time? cs).map fun (t, left) => (some (.moment "datetime.time" t.shown), left)

/-!
## Tables under construction

A document builds nested tables. Which of them a later line may still open or add to is remembered
by key: values written in one piece are closed for good, with everything below them, and a table
may be opened by a header only once.
-/

abbrev Members := List (String × Json)

/-- Works on the table behind a key, making the tables that are missing; nothing if some other value
stands in the way. Behind a list stands its last table, if `lists` allows it. -/
def atKey? (lists : Bool) (change : Members → Option Members) : Key → Members → Option Members
  | [], table => change table
  | name :: rest, table =>
    match table.lookup name with
    | none => (atKey? lists change rest []).map fun sub => setMember table name (.obj sub)
    | some (.obj sub) =>
      (atKey? lists change rest sub).map fun sub => setMember table name (.obj sub)
    | some (.arr items) =>
      match lists, items.getLast? with
      | true, some (.obj sub) =>
        (atKey? lists change rest sub).map fun sub =>
          setMember table name (.arr (items.dropLast ++ [.obj sub]))
      | _, _ => none
    | some _ => none

/-- Adds a member that must be new. -/
def addNew? (name : String) (value : Json) (table : Members) : Option Members :=
  if (table.lookup name).isSome then none else some (table ++ [(name, value)])

/-- Adds an empty table to the list of a name. -/
def appendTable? (name : String) (table : Members) : Option Members :=
  match table.lookup name with
  | none => some (table ++ [(name, .arr [.obj []])])
  | some (.arr items) => some (setMember table name (.arr (items ++ [.obj []])))
  | some _ => none

/-- What is remembered of keys. -/
structure Marks where
  /-- Keys of values that are closed, with everything below them. -/
  closed : List Key := []
  /-- Keys of tables that no header may open any more. -/
  opened : List Key := []

namespace Marks

def isClosed (m : Marks) (key : Key) : Bool := m.closed.any fun k => k.isPrefixOf key

def isOpened (m : Marks) (key : Key) : Bool := m.opened.contains key

def close (m : Marks) (key : Key) : Marks := { m with closed := key :: m.closed }

def «open» (m : Marks) (key : Key) : Marks := { m with opened := key :: m.opened }

/-- Forgets everything below a key and the key itself. -/
def forget (m : Marks) (key : Key) : Marks where
  closed := m.closed.filter fun k => !key.isPrefixOf k
  opened := m.opened.filter fun k => !key.isPrefixOf k

end Marks

/-- Whether a value is a table or list. -/
def isNest : Json → Bool
  | .obj _ | .arr _ => true
  | _ => false

/-!
## Values of TOML

Strings, booleans, lists, tables in one piece, dates and times, and numbers.
-/

def overwritten : String := "Cannot overwrite a value"

mutual

/-- A value at the start of the text. -/
def value : Nat → List Char → Result Json
  | 0, _ => .error .tooDeep
  | fuel + 1, cs =>
    match string? cs with
    | some r => r.map fun (s, left) => (.str s, left)
    | none =>
      if "true".toList.isPrefixOf cs then .ok (.bool true, cs.drop 4)
      else if "false".toList.isPrefixOf cs then .ok (.bool false, cs.drop 5)
      else
        match cs with
        | '[' :: rest =>
          match skipBlank fuel rest with
          | .error fault => .error fault
          | .ok (']' :: left) => .ok (.arr [], left)
          | .ok left => items fuel [] left
        | '\x7b' :: rest =>
          match skipSpace rest with
          | '\x7d' :: left => .ok (.obj [], left)
          | left => members fuel {} [] left
        | _ =>
          match moment? cs with
          | some (some v, left) => .ok (v, left)
          | some (none, _) => fail "Invalid date or datetime" cs
          | none => (number? cs).getD (fail "Invalid value" cs)

/-- The items of a list from the next one on; those read so far are given last one first. -/
def items : Nat → List Json → List Char → Result Json
  | 0, _, _ => .error .tooDeep
  | fuel + 1, read, cs =>
    match value fuel cs with
    | .error fault => .error fault
    | .ok (v, left) =>
      match skipBlank fuel left with
      | .error fault => .error fault
      | .ok (']' :: left) => .ok (.arr (v :: read).reverse, left)
      | .ok (',' :: left) =>
        match skipBlank fuel left with
        | .error fault => .error fault
        | .ok (']' :: left) => .ok (.arr (v :: read).reverse, left)
        | .ok left => items fuel (v :: read) left
      | .ok left => fail "Unclosed array" left

/-- The members of a table in one piece, from the next one on. -/
def members : Nat → Marks → Members → List Char → Result Json
  | 0, _, _, _ => .error .tooDeep
  | fuel + 1, marks, table, cs =>
    match pair fuel cs with
    | .error fault => .error fault
    | .ok ((name, v), left) =>
      if marks.isClosed name then
        fail s!"Cannot mutate immutable namespace {Key.shown name}" left
      else
        match atKey? false some name.dropLast table with
        | none => fail overwritten left
        | some _ =>
          let last := name.getLast?.getD ""
          match atKey? false (addNew? last v) name.dropLast table with
          | none => fail s!"Duplicate inline table key {Quoted.string last}" left
          | some table =>
            match skipSpace left with
            | '\x7d' :: left => .ok (.obj table, left)
            | ',' :: left =>
              members fuel (if isNest v then marks.close name else marks) table (skipSpace left)
            | left => fail "Unclosed inline table" left

/-- A key, an equals sign and a value. -/
def pair : Nat → List Char → Result (Key × Json)
  | 0, _ => .error .tooDeep
  | fuel + 1, cs =>
    match key fuel cs with
    | .error fault => .error fault
    | .ok (name, '=' :: left) =>
      (value fuel (skipSpace left)).map fun (v, left) => ((name, v), left)
    | .ok (_, left) => fail "Expected '=' after a key in a key/value pair" left

end

end StylePrune.Toml
