import StylePrune.Json.Parser
import StylePrune.Options
import StylePrune.Report.Budget
import StylePrune.Report.Output
import StylePrune.Text.LetterCase
import StylePrune.Text.Quoted
import StylePrune.Text.Utf8
import StylePrune.Toml.Text

/-!
# Configurations

A configuration gives some of the options of a run. Its keys may be written with underscores, with
hyphens or with capitals; keys that mean nothing are left out, with a warning. The values of the
others must have the right shape.
-/

namespace StylePrune

/-!
## Faults of configuration

What can be wrong with a configuration file, and with the options of a run as a whole.
-/

/-- What the value of a configuration key must be. -/
inductive Shape where
  | stringList
  | boolean
  | string
  | number
  | flagOrPatterns
  | flagOrPath
  | reportTable
  | tableList
deriving DecidableEq, Repr

def Shape.words : Shape → String
  | stringList => "a list of strings"
  | boolean => "a boolean"
  | string => "a string"
  | number => "a number"
  | flagOrPatterns => "a boolean or a list of patterns"
  | flagOrPath => "a boolean or a file path"
  | reportTable => "a table with json/html/ci entries"
  | tableList => "a list of tables"

/-- Why a file cannot be read as data; faults in its text come with the text. -/
inductive DataFault where
  | encoding (fault : Utf8.Fault)
  | toml (fault : Toml.Fault) (text : List Char)
  | json (fault : Json.Fault) (text : List Char)

def DataFault.message : DataFault → String
  | encoding fault => fault.message
  | toml fault text => fault.message text
  | json fault text => fault.message text

inductive ConfigError where
  /-- No file at an absolute path. -/
  | notFound (path : String)
  | unsupported (path : String)
  | unreadable (path : String) (fault : DataFault)
  | notObject (path : String)
  | mistyped (path key : String) (shape : Shape)
  | noContent
  | noStyles
  | stylesNotFound (path : String)

def ConfigError.message : ConfigError → String
  | notFound path => s!"Config file not found: {path}"
  | unsupported path => s!"Unsupported config file type: {path} (expected .toml or .json)"
  | unreadable path fault => s!"Invalid config {path}: {fault.message}"
  | notObject path => s!"Invalid config {path}: expected an object at the top level"
  | mistyped path key shape => s!"Invalid config {path}: {Quoted.string key} must be {shape.words}"
  | noContent => "At least one --content glob is required."
  | noStyles => "At least one --css file is required."
  | stylesNotFound path => s!"CSS file not found: {path}"

/-! ## Configurations -/

structure Config where
  content : Option (List String) := none
  css : Option (List String) := none
  safelist : Option (List String) := none
  safelistPatterns : Option (List String) := none
  minify : Option Bool := none
  verbose : Option Bool := none
  stats : Option Bool := none
  cwd : Option String := none
  out : Option String := none
  cacheDirectory : Option String := none
  maxUnusedPercent : Option Limit := none
  maxFinalKb : Option Limit := none
  dynamicPatterns : Option DynamicPatterns := none
  analysis : Option Output := none
  reports : ReportOutputs := {}
  extractors : List Extractor.Definition := []
deriving Inhabited

namespace Config

def listKeys : List String := ["content", "css", "safelist", "safelist_patterns"]

def flagKeys : List String := ["minify", "verbose", "stats"]

def textKeys : List String := ["cwd", "out", "cache_dir"]

def numberKeys : List String := ["max_unused_percent", "max_final_kb"]

def knownKeys : List String :=
  listKeys ++ flagKeys ++ textKeys ++ numberKeys ++
    ["keep_dynamic_patterns", "analyze", "report", "extractors"]

def isCapital (c : Char) : Bool := 'A' ≤ c && c ≤ 'Z'

/-- Puts an underscore before every capital. -/
def splitCapitals (cs : List Char) : List Char :=
  cs.flatMap fun c => if isCapital c then ['_', c] else [c]

/-- A key in small letters, with underscores between its words. -/
def normalKey (key : String) : String :=
  let split := match key.toList with
    | [] => []
    | c :: rest => c :: splitCapitals rest
  lowerCase (String.ofList (split.map fun c => if c = '-' then '_' else c))

/-- The members of known keys, under their normal keys, and the keys that are not known. -/
def known (members : List (String × Json)) : List (String × Json) × List String :=
  members.foldl
    (fun (kept, unknown) (key, value) =>
      if knownKeys.contains (normalKey key) then (setMember kept (normalKey key) value, unknown)
      else (kept, unknown ++ [key]))
    ([], [])

def unknownKeyWarning (path key : String) : String :=
  s!"Ignoring unknown config key {Quoted.string key} in {path}"

/-- Members with known keys, from the file of a path. -/
structure Source where
  path : String
  members : List (String × Json)

namespace Source

/-- The value of a key, which may be missing or null. -/
def value? (s : Source) (key : String) : Option Json :=
  match s.members.lookup key with
  | some .null | none => none
  | some v => some v

/-- Reads a value that is there. -/
def readValue {α : Type} (s : Source) (key : String) (shape : Shape) (read : Json → Option α)
    (value : Option Json) : Except ConfigError (Option α) :=
  match value with
  | none => .ok none
  | some v =>
    match read v with
    | some a => .ok (some a)
    | none => .error (.mistyped s.path key shape)

/-- The value of a key that may be null, read to a shape. -/
def optional {α : Type} (s : Source) (shape : Shape) (read : Json → Option α) (key : String) :
    Except ConfigError (Option α) :=
  s.readValue key shape read (s.value? key)

/-- The value of a key that may be missing but not null. -/
def strict {α : Type} (s : Source) (shape : Shape) (read : Json → Option α) (key : String) :
    Except ConfigError (Option α) :=
  s.readValue key shape read (s.members.lookup key)

def flag? : Json → Option Bool
  | .bool b => some b
  | _ => none

def limit? : Json → Option Limit
  | .int n => some (.whole n)
  | .float f => some (.number f)
  | _ => none

def patternEntry (v : Json) : PatternEntry :=
  match v.string? with
  | some s => .text s
  | none => .other v

def dynamicPatterns? : Json → Option DynamicPatterns
  | .bool b => some (if b then .collect else .drop)
  | .arr items => some (.given (items.map patternEntry))
  | _ => none

def output? : Json → Option Output
  | .bool b => some (if b then .usual else .off)
  | v => v.string?.map .path

def members? : Json → Option (List (String × Json))
  | .obj members => some members
  | _ => none

def extractors? : Json → Option (List Extractor.Definition)
  | .arr items =>
    if items.all fun v => (members? v).isSome then some (items.map .configured) else none
  | _ => none

/-- Sets an output of a report by its key. -/
def setOutput (r : ReportOutputs) (key : String) (output : Output) : Option ReportOutputs :=
  if key = "json" then some { r with json := output }
  else if key = "html" then some { r with html := output }
  else if key = "ci" then some { r with ci := output }
  else none

/-- Reads the members of a report table, in order. -/
def reportOutputs (s : Source) (r : ReportOutputs) :
    List (String × Json) → Except ConfigError ReportOutputs
  | [] => .ok r
  | (key, value) :: rest =>
    match (output? value).bind (setOutput r key) with
    | some r => reportOutputs s r rest
    | none => .error (.mistyped s.path ("report." ++ key) .flagOrPath)

def reports (s : Source) : Except ConfigError ReportOutputs := do
  match ← s.optional .reportTable members? "report" with
  | none => return {}
  | some members => s.reportOutputs {} members

end Source

/-- The configuration that members make, if every value has its shape. -/
def ofSource (s : Source) : Except ConfigError Config := do
  let content ← s.optional .stringList Json.stringList? "content"
  let css ← s.optional .stringList Json.stringList? "css"
  let safelist ← s.optional .stringList Json.stringList? "safelist"
  let safelistPatterns ← s.optional .stringList Json.stringList? "safelist_patterns"
  let minify ← s.strict .boolean Source.flag? "minify"
  let verbose ← s.strict .boolean Source.flag? "verbose"
  let stats ← s.strict .boolean Source.flag? "stats"
  let cwd ← s.strict .string Json.string? "cwd"
  let out ← s.strict .string Json.string? "out"
  let cacheDirectory ← s.strict .string Json.string? "cache_dir"
  let maxUnusedPercent ← s.optional .number Source.limit? "max_unused_percent"
  let maxFinalKb ← s.optional .number Source.limit? "max_final_kb"
  let dynamicPatterns ← s.optional .flagOrPatterns Source.dynamicPatterns? "keep_dynamic_patterns"
  let analysis ← s.optional .flagOrPath Source.output? "analyze"
  let reports ← s.reports
  let extractors ← s.optional .tableList Source.extractors? "extractors"
  return {
    content, css, safelist, safelistPatterns, minify, verbose, stats, cwd, out, cacheDirectory,
    maxUnusedPercent, maxFinalKb, dynamicPatterns, analysis, reports
    extractors := extractors.getD [] }

end Config

end StylePrune
