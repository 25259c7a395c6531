import StylePrune.Toml.Value

/-!
# Documents of TOML

A document is read line by line: members of the current table, and headers that open a table or add
one to a list. Every line end may be written with a carriage return before it.
-/

namespace StylePrune.Toml

/-- A document read so far. -/
structure Reading where
  table : Members := []
  marks : Marks := {}
  /-- Tables that the current section opened by dotted names; headers may not open them later. -/
  pending : List Key := []
  /-- The table that lines add to. -/
  header : Key := []

namespace Reading

/-- Closes a section. -/
def settle (r : Reading) : Reading :=
  { r with
    marks := { r.marks with opened := r.pending ++ r.marks.opened }
    pending := [] }

/-- The keys of the tables that the dotted name of a member passes through. -/
def passed (header name : Key) : List Key :=
  (List.range (name.length - 1)).map fun i => header ++ name.take (i + 1)

/-- Adds a member; `left` is the text after it. -/
def addMember (r : Reading) (name : Key) (v : Json) (left : List Char) : Except Fault Reading :=
  let through := passed r.header name
  match through.find? r.marks.isOpened with
  | some k => fail s!"Cannot redefine namespace {Key.shown k}" left
  | none =>
    let parent := r.header ++ name.dropLast
    if r.marks.isClosed parent then
      fail s!"Cannot mutate immutable namespace {Key.shown parent}" left
    else
      match atKey? true (addNew? (name.getLast?.getD "") v) parent r.table with
      | none => fail overwritten left
      | some table =>
        .ok { r with
          table
          marks := if isNest v then r.marks.close (r.header ++ name) else r.marks
          pending := through ++ r.pending }

/-- A header of a table, after its bracket. -/
def tableHeader (r : Reading) (fuel : Nat) (cs : List Char) : Result Reading :=
  match key fuel (skipSpace cs) with
  | .error fault => .error fault
  | .ok (name, left) =>
    if r.marks.isOpened name || r.marks.isClosed name then
      fail s!"Cannot declare {Key.shown name} twice" left
    else
      match atKey? true some name r.table with
      | none => fail overwritten left
      | some table =>
        match left with
        | ']' :: left => .ok ({ r with table, marks := r.marks.open name, header := name }, left)
        | left => fail "Expected ']' at the end of a table declaration" left

/-- A header of a table in a list, after its brackets. -/
def listHeader (r : Reading) (fuel : Nat) (cs : List Char) : Result Reading :=
  match key fuel (skipSpace cs) with
  | .error fault => .error fault
  | .ok (name, left) =>
    if r.marks.isClosed name then
      fail s!"Cannot mutate immutable namespace {Key.shown name}" left
    else
      match atKey? true (appendTable? (name.getLast?.getD "")) name.dropLast r.table with
      | none => fail overwritten left
      | some table =>
        match left with
        | ']' :: ']' :: left =>
          .ok ({ r with table, marks := (r.marks.forget name).open name, header := name }, left)
        | left => fail "Expected ']]' at the end of an array declaration" left

/-- What starts at a character of a line that is no blank. -/
def statement (r : Reading) (fuel : Nat) (cs : List Char) : Result Reading :=
  match cs with
  | [] => .ok (r, [])
  | c :: _ =>
    if startsKey c then
      match pair fuel cs with
      | .error fault => .error fault
      | .ok ((name, v), left) => (r.addMember name v left).map fun r => (r, skipSpace left)
    else
      match cs with
      | '[' :: '[' :: rest =>
        (r.settle.listHeader fuel rest).map fun (r, left) => (r, skipSpace left)
      | '[' :: rest => (r.settle.tableHeader fuel rest).map fun (r, left) => (r, skipSpace left)
      | '#' :: _ => .ok (r, cs)
      | _ => fail "Invalid statement" cs

/-- The lines from the next one on. -/
def lines (r : Reading) : Nat → List Char → Except Fault Reading
  | 0, _ => .error .tooDeep
  | fuel + 1, cs =>
    match skipSpace cs with
    | [] => .ok r
    | '\n' :: rest => lines r fuel rest
    | cs =>
      match r.statement fuel cs with
      | .error fault => .error fault
      | .ok (r, left) =>
        match skipComment left with
        | .error fault => .error fault
        | .ok [] => .ok r
        | .ok ('\n' :: rest) => lines r fuel rest
        | .ok left => fail "Expected newline or end of document after a statement" left

end Reading

/-- A text with a line feed for each carriage return and line feed. -/
def plainLineEnds : List Char → List Char
  | '\r' :: '\n' :: rest => '\n' :: plainLineEnds rest
  | c :: rest => c :: plainLineEnds rest
  | [] => []

/-- Reads a document; its lines must end in line feeds alone. -/
def parse (text : List Char) : Except Fault Members :=
  (Reading.lines {} (2 * text.length + 4) text).map Reading.table

end StylePrune.Toml
