import StylePrune.Json.Parser
import StylePrune.Service.Message
import StylePrune.Text.LetterCase

/-!
# The fields of a request

A body is an object, the fields of which are read by name. Everything that is wrong with them is
reported, field by field. Flags are read leniently: some numbers and words stand for them.
-/

namespace StylePrune.Service

/-- What is wrong with a value of a body. -/
inductive FieldFault where
  | missing
  | notText
  | notFlag
  /-- A word or number that is none of those that stand for a flag. -/
  | unknownFlag
  | notObject
  | notJson
deriving DecidableEq, Repr

def FieldFault.kind : FieldFault → String
  | missing => "missing"
  | notText => "string_type"
  | notFlag => "bool_type"
  | unknownFlag => "bool_parsing"
  | notObject => "model_attributes_type"
  | notJson => "json_invalid"

def FieldFault.message : FieldFault → String
  | missing => "Field required"
  | notText => "Input should be a valid string"
  | notFlag => "Input should be a valid boolean"
  | unknownFlag => "Input should be a valid boolean, unable to interpret input"
  | notObject => "Input should be a valid dictionary or object to extract fields from"
  | notJson => "JSON decode error"

/-- A fault and where it is within the body. -/
structure Problem where
  place : List Json
  fault : FieldFault

def Problem.toJson (p : Problem) : Json :=
  .obj [("type", .str p.fault.kind), ("loc", .arr (.str "body" :: p.place)),
    ("msg", .str p.fault.message)]

/-- The answer to a body with problems. -/
def Response.problems (problems : List Problem) : Response :=
  ⟨422, .value (.obj [("detail", .arr (problems.map Problem.toJson))])⟩

/-- The problems of a value that should have been read. -/
def problemsOf {α : Type} (name : String) : Except FieldFault α → List Problem
  | .ok _ => []
  | .error fault => [⟨[.str name], fault⟩]

/-- A field that must be there. -/
def required {α : Type} (read : Json → Except FieldFault α) : Option Json → Except FieldFault α
  | none => .error .missing
  | some v => read v

/-- A field that may be missing or null. -/
def optional {α : Type} (read : Json → Except FieldFault α) :
    Option Json → Except FieldFault (Option α)
  | none | some .null => .ok none
  | some v => (read v).map some

def readText (v : Json) : Except FieldFault Text :=
  match v with
  | .str s => .ok (Text.ofString s)
  | .broken t => .ok t
  | _ => .error .notText

/-- Words that stand for flags, whatever their letter case. -/
def flagWords : List (String × Bool) :=
  [("0", false), ("off", false), ("f", false), ("false", false), ("n", false), ("no", false),
    ("1", true), ("on", true), ("t", true), ("true", true), ("y", true), ("yes", true)]

def smallLetters (s : String) : String :=
  String.ofList (s.toList.map fun c => Char.ofNat (asciiLowerCode c.toNat))

/-- The flag of an integer, which must be one of 64 bits. -/
def flagOfInt (n : Int) : Except FieldFault Bool :=
  if n = 0 then .ok false
  else if n = 1 then .ok true
  else if -(Nat.pow 2 63 : Nat) ≤ n && n < (Nat.pow 2 63 : Nat) then .error .unknownFlag
  else .error .notFlag

def readFlag (v : Json) : Except FieldFault Bool :=
  match v with
  | .bool b => .ok b
  | .str s =>
    match flagWords.lookup (smallLetters s) with
    | some b => .ok b
    | none => .error .unknownFlag
  | .int n => flagOfInt n
  | .float f =>
    match Decimal.truncate? f with
    | some n => if Decimal.compareInt f n = some .eq then flagOfInt n else .error .notFlag
    | none => .error .notFlag
  | .broken _ => .error .unknownFlag
  | _ => .error .notFlag

/-- A byte order mark in front of a body does not count. -/
def withoutMark (cs : List Char) : List Char :=
  match cs with
  | '\uFEFF' :: rest => rest
  | _ => cs

/-- The members of a body, or the answer to a body that has none. -/
def bodyMembers (body : Option String) : Except Response Json :=
  let text := withoutMark ((body.getD "").toList)
  if (body.getD "") = "" then .error (.problems [⟨[], .missing⟩])
  else
    match Json.parse text with
    | .error (.malformed _ left) =>
      .error (.problems [⟨[.int (TextPlace.of text left).offset], .notJson⟩])
    | .error _ => .error .unreadable
    | .ok .null => .error (.problems [⟨[], .missing⟩])
    | .ok (.obj members) => .ok (.obj members)
    | .ok _ => .error (.problems [⟨[], .notObject⟩])

/-- What a request to prune gives. -/
structure PruneRequest where
  css : Text
  minify : Option Bool

def PruneRequest.read (body : Option String) : Except Response PruneRequest := do
  let value ← bodyMembers body
  let css := required readText (value.member? "css")
  let minify := optional readFlag (value.member? "minify")
  match css, minify with
  | .ok css, .ok minify => return ⟨css, minify⟩
  | css, minify => .error (.problems (problemsOf "css" css ++ problemsOf "minify" minify))

/-- What a request to scan a text gives. -/
structure ScanRequest where
  content : Text
  label : Option Text

def ScanRequest.read (body : Option String) : Except Response ScanRequest := do
  let value ← bodyMembers body
  let content := required readText (value.member? "content")
  let label := optional readText (value.member? "label")
  match content, label with
  | .ok content, .ok label => return ⟨content, label⟩
  | content, label => .error (.problems (problemsOf "content" content ++ problemsOf "label" label))

end StylePrune.Service
