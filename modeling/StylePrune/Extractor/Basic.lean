import StylePrune.Extractor.Value
import StylePrune.Scan

/-!
# Custom extractors

A custom extractor takes the place of the recognisers. It is a pattern, the captures of which are
class lists, or a function; a test on file paths may limit it. Extractors come from code or from
configuration, and are checked before any content is read.
-/

namespace StylePrune.Extractor

open Regex (Pattern PatternError)

/-- What an extractor is given. -/
structure Context where
  filePath : String
  source : String
  cwd : String

/-- An extractor function: its value, or the text of what it raised. -/
abbrev Function := Context → Except String Value

inductive Strategy where
  | pattern (pattern : Pattern)
  | function (run : Function)

/-- Which files an extractor applies to. -/
inductive Test where
  | always
  | pattern (pattern : Pattern)
  /-- A function of the path; it may raise an error with a text. -/
  | predicate (holds : String → Except String Bool)
  /-- A value of this kind, which cannot test anything. -/
  | unusable (kind : String)

/-- How an extractor is given in code, where the strategy may be missing or unusable. -/
inductive GivenStrategy where
  | missing
  | usable (strategy : Strategy)
  | unusable

/-- An extractor before it is checked. -/
inductive Definition where
  | function (run : Function)
  | definition (name : Option String) (extract : GivenStrategy) (test : Test)
  /-- An extractor of a configuration, or any other value in its place. -/
  | configured (value : Json)

end StylePrune.Extractor

/-- An extractor that can be run. -/
structure StylePrune.Extractor where
  name : String
  strategy : StylePrune.Extractor.Strategy
  test : StylePrune.Extractor.Test

namespace StylePrune.Extractor

open Regex (Pattern PatternError)

/-- Why a definition cannot be used. -/
inductive ConfigError where
  | invalidPattern (name field pattern : String) (error : PatternError)
  | noStrategy (name : String)
  | unsupportedStrategy (name : String)
  | unsupported (position : Nat) (value : Json)
  /-- A refusal of a pattern that is no matter of syntax. -/
  | pattern (error : PatternError)

def ConfigError.message : ConfigError → String
  | invalidPattern name field source error =>
    s!"Extractor {Quoted.string name} has an invalid {field} pattern: {error.message source}"
  | noStrategy name => s!"Extractor {Quoted.string name} must provide an extract strategy."
  | unsupportedStrategy name =>
    s!"Extractor {Quoted.string name} has an unsupported extract strategy."
  | unsupported position value =>
    s!"Unsupported extractor at position {position}: {value.display}"
  | pattern error => error.message ""

/-- The name of the extractor at a position, if it gives none of its own. -/
def defaultName (position : Nat) : String := s!"extractor:{position}"

def nameOr (position : Nat) (name : String) : String :=
  let trimmed := trim name
  if trimmed = "" then defaultName position else trimmed

/-- Reads a pattern that a configuration gives as text. -/
def configuredPattern (name field source : String) : Except ConfigError Pattern :=
  match Pattern.read source {} with
  | .ok p => .ok p
  | .error e@(.malformed ..) => .error (.invalidPattern name field source e)
  | .error e => .error (.pattern e)

def configuredStrategy (name : String) (value : Option Json) : Except ConfigError GivenStrategy :=
  match value.getD .null with
  | .null => .ok .missing
  | v =>
    match v.string? with
    | some source => (configuredPattern name "extract" source).map fun p => .usable (.pattern p)
    | none => .ok .unusable

def configuredTest (name : String) (value : Option Json) : Except ConfigError Test :=
  match value.getD .null with
  | .null => .ok .always
  | v =>
    match v.string? with
    | some source => (configuredPattern name "test" source).map .pattern
    | none => .ok (.unusable v.kind)

def checked (name : String) (extract : GivenStrategy) (test : Test) :
    Except ConfigError Extractor :=
  match extract with
  | .missing => .error (.noStrategy name)
  | .unusable => .error (.unsupportedStrategy name)
  | .usable strategy => .ok ⟨name, strategy, test⟩

/-- Checks the definition at a position. -/
def Definition.check (position : Nat) : Definition → Except ConfigError Extractor
  | function run => .ok ⟨defaultName position, .function run, .always⟩
  | definition name extract test => checked (nameOr position (name.getD "")) extract test
  | configured (.obj members) => do
    let given := (members.lookup "name").getD .null
    let name := nameOr position (if given.isVoid then "" else given.shown)
    let extract ← configuredStrategy name (members.lookup "extract")
    let test ← configuredTest name (members.lookup "test")
    checked name extract test
  | configured value => .error (.unsupported position value)

def checkFrom (position : Nat) : List Definition → Except ConfigError (List Extractor)
  | [] => .ok []
  | d :: rest =>
    match d.check position with
    | .error e => .error e
    | .ok extractor => (checkFrom (position + 1) rest).map (extractor :: ·)

/-- Checks all definitions, in order. -/
def checkAll (definitions : List Definition) : Except ConfigError (List Extractor) :=
  checkFrom 1 definitions

def codesOf (s : String) : List Nat := s.toList.map Char.toNat

/-- Whether an extractor applies to a file. -/
def appliesTo (e : Extractor) (filePath : String) : Except Fault Bool :=
  match e.test with
  | .always => .ok true
  | .pattern p => (checkedMatch (codesOf filePath) [p]).mapError .pattern
  | .predicate holds => (holds filePath).mapError .raised
  | .unusable kind => .error (.notCallable kind)

end StylePrune.Extractor
