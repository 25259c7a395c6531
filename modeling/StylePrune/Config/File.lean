import StylePrune.Config.Basic
import StylePrune.Disk
import StylePrune.Toml.Document

/-!
# Configuration files

A configuration is a file of TOML or of JSON, by the suffix of its name. A project file that
several tools share holds it as a table of its own. Without a path, a directory is searched for a
file of one of the usual names.
-/

namespace StylePrune.Config

/-- The usual names, the first one found being taken. -/
def fileNames : List String := ["bonsai.toml", "bonsaicss.toml", "bonsaicss.json"]

/-- The file that several tools share. -/
def sharedFile : String := "pyproject.toml"

/-- Why a configuration cannot be loaded: it is refused, or what should be the table of tools in a
shared file is a value of another kind. -/
inductive LoadError where
  | config (error : ConfigError)
  | toolsNotTable (kind : String)

def LoadError.message : LoadError → String
  | config e => e.message
  | toolsNotTable kind => s!"'{kind}' object has no attribute 'get'"

/-- The member of the shared file that holds this program's table. -/
def ownTable (members : List (String × Json)) : Except LoadError (Option Json) :=
  match members.lookup "tool" with
  | none => .ok none
  | some (.obj tools) => .ok (tools.lookup "bonsaicss")
  | some v => .error (.toolsNotTable v.kind)

/-- The members of a file of TOML. -/
def readToml (bytes : List UInt8) : Except DataFault (List (String × Json)) :=
  match Utf8.decode bytes with
  | .error fault => .error (.encoding fault)
  | .ok text =>
    let text := Toml.plainLineEnds text
    (Toml.parse text).mapError fun fault => .toml fault text

/-- The value of a file of JSON. -/
def readJson (bytes : List UInt8) : Except DataFault Json :=
  match Utf8.decode bytes with
  | .error fault => .error (.encoding fault)
  | .ok text =>
    let text := Utf8.plainLines text
    (Json.parse text).mapError fun fault => .json fault text

/-- The value that the file of a path holds; `bytes` are what is in it. -/
def valueOf (path : String) (bytes : List UInt8) : Except LoadError Json :=
  let refuse (fault : DataFault) : LoadError := .config (.unreadable path fault)
  let kind := lowerCase (Path.suffix path)
  if kind = ".toml" then do
    let members ← (readToml bytes).mapError refuse
    if Path.fileName path = sharedFile then return (← ownTable members).getD (.obj [])
    else return .obj members
  else if kind = ".json" then (readJson bytes).mapError refuse
  else .error (.config (.unsupported path))

/-- A configuration, as its members with normal keys and as what they mean, and the warnings about
it. -/
structure Loaded where
  members : List (String × Json) := []
  config : Config := {}
  warnings : List String := []
deriving Inhabited

/-- The configuration that a value is. -/
def ofValue (path : String) (value : Json) : Except ConfigError Loaded :=
  match value with
  | .obj members => do
    let (members, unknown) := known members
    let config ← ofSource ⟨path, members⟩
    return ⟨members, config, unknown.map (unknownKeyWarning path)⟩
  | _ => .error (.notObject path)

/-- Loads the file of a path, seen from the directory `cwd`. Slashes at the end of the path do not
count. -/
def load (disk : Disk) (cwd path : String) : Except LoadError Loaded :=
  match disk.file (Path.join cwd (Path.tidy path)) with
  | .error _ => .error (.config (.notFound (Path.absolute cwd path)))
  | .ok file => do
    let value ← valueOf path file.bytes
    (ofValue path value).mapError .config

/-- Why the search for a configuration stops: the shared file holds text that is no TOML for a
reason that is no matter of its grammar, or its tools are no table. -/
inductive FindError where
  | encoding (fault : Utf8.Fault)
  | integerTooLong (digits : Nat)
  | toolsNotTable (kind : String)

def FindError.message : FindError → String
  | encoding fault => fault.message
  | integerTooLong digits => Decimal.integerTooLongMessage digits
  | toolsNotTable kind => (LoadError.toolsNotTable kind).message

/-- Whether a shared file holds this program's table. -/
def hasOwnTable (bytes : List UInt8) : Except FindError Bool :=
  match readToml bytes with
  | .error (.encoding fault) => .error (.encoding fault)
  | .error (.toml (.integerTooLong digits) _) => .error (.integerTooLong digits)
  | .error _ => .ok false
  | .ok members =>
    match ownTable members with
    | .ok (some (.obj _)) => .ok true
    | .ok _ => .ok false
    | .error (.toolsNotTable kind) => .error (.toolsNotTable kind)
    | .error (.config _) => .ok false

/-- Searches a directory for a configuration. -/
def find? (disk : Disk) (cwd directory : String) : Except FindError (Option String) :=
  let isFile (path : String) : Bool := disk.isFile (Path.join cwd path)
  match (fileNames.map (Path.child directory)).find? isFile with
  | some path => .ok (some path)
  | none =>
    let shared := Path.child directory sharedFile
    match disk.file (Path.join cwd shared) with
    | .error _ => .ok none
    | .ok file => do if ← hasOwnTable file.bytes then return some shared else return none

end StylePrune.Config
