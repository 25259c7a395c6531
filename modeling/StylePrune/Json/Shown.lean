import StylePrune.Json.Value
import StylePrune.Text.Quoted

/-!
# Values in plain JSON and in messages

How values are written where not all of them have a word: in plain JSON, and in messages.
-/

namespace StylePrune.Json

/-!
## Values in plain JSON

JSON proper has no words for infinite numbers and for what is no number, and no dates and times. In
plain JSON these are strings.
-/

/-- A number in plain JSON. -/
def ofFloat (f : Float) : Json :=
  if f.isNaN then .str "nan"
  else if f.isInf then .str (if f < 0 then "-inf" else "inf")
  else .float f

/-- A value that may be missing. -/
def ofOption {α : Type} (encode : α → Json) (v : Option α) : Json := (v.map encode).getD .null

mutual

/-- A value in plain JSON. -/
def plain : Json → Json
  | float f => ofFloat f
  | moment _ shown => .str shown
  | arr items => .arr (plainItems items)
  | obj members => .obj (plainMembers members)
  | v => v

def plainItems : List Json → List Json
  | [] => []
  | item :: rest => plain item :: plainItems rest

def plainMembers : List (String × Json) → List (String × Json)
  | [] => []
  | (name, value) :: rest => (name, plain value) :: plainMembers rest

end

/-!
## Values in messages

Messages show a value on one line: texts quoted, lists in brackets, objects in braces, and words for
the other values. Shown by itself a text stands without quotes. A kind names what a value is.
-/

def joinWith (separator : String) : List String → String
  | [] => ""
  | [x] => x
  | x :: rest => x ++ separator ++ joinWith separator rest

def boolWord (b : Bool) : String := if b then "True" else "False"

mutual

/-- A value within a message or within another value. -/
def display : Json → String
  | null => "None"
  | bool b => boolWord b
  | int n => toString n
  | float f => Decimal.shortest Decimal.plainLayout f
  | str s => Quoted.string s
  | broken t => Quoted.text t
  | moment _ shown => shown
  | arr items => "[" ++ joinWith ", " (displayItems items) ++ "]"
  | obj members => "\x7b" ++ joinWith ", " (displayMembers members) ++ "\x7d"

def displayItems : List Json → List String
  | [] => []
  | item :: rest => display item :: displayItems rest

def displayMembers : List (String × Json) → List String
  | [] => []
  | (name, value) :: rest => (Quoted.string name ++ ": " ++ display value) :: displayMembers rest

end

/-- A value shown by itself. -/
def shown : Json → String
  | str s => s
  | broken t => t.toStringLossy
  | v => display v

/-- The name of the kind of a value. -/
def kind : Json → String
  | null => "NoneType"
  | bool _ => "bool"
  | int _ => "int"
  | float _ => "float"
  | str _ | broken _ => "str"
  | moment kind _ => kind
  | arr _ => "list"
  | obj _ => "dict"

/-- Values that stand for nothing where a list or text is wanted. -/
def isVoid : Json → Bool
  | null => true
  | bool b => !b
  | int n => n = 0
  | float f => f == 0
  | str s => s = ""
  | broken _ | moment .. => false
  | arr items => items.isEmpty
  | obj members => members.isEmpty

end StylePrune.Json
