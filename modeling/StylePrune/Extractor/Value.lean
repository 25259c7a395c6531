import StylePrune.Json.Shown
import StylePrune.Pattern

/-!
# What extractors give back

An extractor that is a function may give back anything: data, classes with their lines, patterns, a
whole result, objects of other kinds, or nothing. Such values are read leniently, and what cannot be
read is a fault with a text for the user.
-/

namespace StylePrune.Extractor

/-- An object of a kind of its own, by what it answers. Any answer may be the text of a failure. -/
structure Object (α : Type) where
  kind : String
  isVoid : Except String Bool
  shown : Except String String
  /-- How it is shown within another value. -/
  display : Except String String
  /-- Its items, if it has any to go through. -/
  items : Option (Except String (List α))

inductive Value where
  | data (v : Json)
  | list (items : List Value)
  | mapping (members : List (String × Value))
  /-- A class with its line and kind. -/
  | classMatch (name line type : Value)
  | result (classes dynamicPatterns warnings : Value)
  | pattern (pattern : Regex.Pattern)
  | object (object : Object Value)
deriving Inhabited

/-- Why a result cannot be read. -/
inductive Fault where
  | notIterable (kind : String)
  | notText (kind : String)
  | notCallable (kind : String)
  | unsupportedResult (kind : String)
  /-- A line number beyond all floating-point numbers. -/
  | lineTooLarge
  | pattern (error : Regex.PatternError)
  /-- What an object or a test raised, as text. -/
  | raised (text : String)
deriving DecidableEq, Repr

def Fault.message : Fault → String
  | notIterable kind => s!"'{kind}' object is not iterable"
  | notText kind => s!"expected string or bytes-like object, got '{kind}'"
  | notCallable kind => s!"'{kind}' object is not callable"
  | unsupportedResult kind => s!"unsupported extractor result {kind}"
  | lineTooLarge => "int too large to convert to float"
  | pattern error => error.message ""
  | raised text => text

namespace Value

def null : Value := .data .null

/-- The name of the kind of a value, with the place where the kind is defined if it has one. -/
def kind : Value → String
  | data v => v.kind
  | list _ => "list"
  | mapping _ => "dict"
  | classMatch .. => "ClassMatch"
  | result .. => "ExtractorResult"
  | pattern _ => "re.Pattern"
  | object o => o.kind

/-- The name of the kind of a value, by itself. -/
def kindName (v : Value) : String :=
  String.ofList ((v.kind.toList.reverse.takeWhile (· ≠ '.')).reverse)

def isVoid : Value → Except Fault Bool
  | data v => .ok v.isVoid
  | list items => .ok items.isEmpty
  | mapping members => .ok members.isEmpty
  | object o => o.isVoid.mapError .raised
  | _ => .ok false

mutual

def display : Value → Except Fault String
  | data v => .ok v.display
  | list items => do return "[" ++ Json.joinWith ", " (← displayItems items) ++ "]"
  | mapping members => do return "\x7b" ++ Json.joinWith ", " (← displayMembers members) ++ "\x7d"
  | classMatch name line type => do
    return "ClassMatch(name=" ++ (← display name) ++ ", line=" ++ (← display line) ++
      ", type=" ++ (← display type) ++ ")"
  | result classes patterns warnings => do
    return "ExtractorResult(classes=" ++ (← display classes) ++ ", dynamic_patterns=" ++
      (← display patterns) ++ ", warnings=" ++ (← display warnings) ++ ")"
  | pattern p => .ok p.display
  | object o => o.display.mapError .raised

def displayItems : List Value → Except Fault (List String)
  | [] => .ok []
  | item :: rest => do return (← display item) :: (← displayItems rest)

def displayMembers : List (String × Value) → Except Fault (List String)
  | [] => .ok []
  | (name, value) :: rest => do
    return (Quoted.string name ++ ": " ++ (← display value)) :: (← displayMembers rest)

end

/-- A value shown by itself. -/
def shown : Value → Except Fault String
  | data v => .ok v.shown
  | object o => o.shown.mapError .raised
  | v => v.display

def ofStrings (xs : List String) : Value := .list (xs.map fun x => .data (.str x))

/-- The items of a value: of a list its items, of a text its characters, of a mapping its names. -/
def items : Value → Except Fault (List Value)
  | list items => .ok items
  | mapping members => .ok (members.map fun m => .data (.str m.1))
  | data (.arr items) => .ok (items.map .data)
  | data (.obj members) => .ok (members.map fun m => .data (.str m.1))
  | data (.str s) => .ok (s.toList.map fun c => .data (.str (String.ofList [c])))
  | object ⟨_, _, _, _, some items⟩ => items.mapError .raised
  | v => .error (.notIterable v.kind)

/-- The items of a value that may be void. -/
def itemsOrNone (v : Value) : Except Fault (List Value) := do
  if ← v.isVoid then return [] else v.items

/-- The members of a value that is a mapping. -/
def members? : Value → Option (List (String × Value))
  | mapping members => some members
  | data (.obj members) => some (members.map fun m => (m.1, .data m.2))
  | _ => none

/-- A line number: integers and finite numbers cut to integers, at least one; all else is one. -/
def line (v : Value) : Except Fault Nat :=
  let atLeastOne (n : Int) : Nat := if n < 1 then 1 else n.toNat
  match v with
  | data (.int n) =>
    match Decimal.ofInt? n with
    | some _ => .ok (atLeastOne n)
    | none => .error .lineTooLarge
  | data (.float f) =>
    match Decimal.truncate? f with
    | some n => .ok (atLeastOne n)
    | none => .ok 1
  | _ => .ok 1

end Value

end StylePrune.Extractor
