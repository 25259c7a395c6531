import StylePrune.Extractor.Basic

/-!
# Running extractors

The extractors that apply to a file run one after the other over its text. One that fails leaves a
warning under its name, and the next one still runs. A value that only turns out to be unreadable
after an extractor ended is a fault of the whole run.
-/

namespace StylePrune.Extractor

open Regex (Pattern PatternError)

/-- A result whose fields are still to be read. -/
structure Result where
  classes : Value
  dynamicPatterns : Value
  warnings : Value

/-- Why a run ends without a scan. -/
inductive RunError where
  | fault (fault : Fault)
  | pattern (error : PatternError)
deriving DecidableEq, Repr

def RunError.message : RunError → String
  | fault f => f.message
  | pattern e => e.message ""

def textOfCodes (codes : List Nat) : List Char := codes.map Char.ofNat

/-- The class lists that a match of a pattern gives: its captures, or all of it if the pattern has
no groups. -/
def captured (p : Pattern) (m : Regex.Match) : List (List Char) :=
  if p.groups = 0 then [textOfCodes m.codes]
  else
    (List.range p.groups).filterMap fun i => (m.captures.lookup (i + 1)).map textOfCodes

/-- The classes of all matches of a pattern, each with the line of its match. -/
def patternClasses (p : Pattern) (source : String) : Except PatternError (List (String × Nat)) :=
  let table := LineTable.ofChars source.toList
  (p.checkedMatches (codesOf source)).map fun found =>
    found.flatMap fun m =>
      (captured p m).flatMap fun text => (tokenizeClassList text).map (·, table.line m.start)

/-- Reads what an extractor gave back; nothing for a null value. -/
def coerce (v : Value) : Except Fault (Option Result) :=
  match v with
  | .data .null => .ok none
  | .result classes patterns warnings => .ok (some ⟨classes, patterns, warnings⟩)
  | v =>
    match v.members? with
    | none => .error (.unsupportedResult v.kindName)
    | some members => do
      let get (name : String) : Value := (members.lookup name).getD .null
      let classes ← (get "classes").itemsOrNone
      let patterns := get "dynamic_patterns"
      let patterns ←
        if ← patterns.isVoid then (get "dynamicPatterns").itemsOrNone else patterns.itemsOrNone
      let warnings ← (get "warnings").itemsOrNone
      return some ⟨.list classes, .list patterns, .list warnings⟩

def runStrategy (s : Strategy) (context : Context) : Except String (Option Result) :=
  match s with
  | .pattern p =>
    match patternClasses p context.source with
    | .error e => .error (e.message "")
    | .ok found =>
      let classes := found.map fun (name, line) =>
        Value.classMatch (.data (.str name)) (.data (.int line)) (.data (.str "literal"))
      .ok (some ⟨.list classes, .list [], .list []⟩)
  | .function run =>
    match run context with
    | .error text => .error text
    | .ok v => (coerce v).mapError Fault.message

/-- Runs an extractor if it applies; a failure is the text of its warning. -/
def attempt (e : Extractor) (context : Context) : Except String (Option Result) :=
  match e.appliesTo context.filePath with
  | .error fault => .error fault.message
  | .ok false => .ok none
  | .ok true => runStrategy e.strategy context

/-- The class list and line of an entry; `none` for an entry that is neither. -/
def entryOf? (entry : Value) : Except Fault (Option (List Char × Nat)) :=
  match entry with
  | .data (.str s) => .ok (some (s.toList, 1))
  | .data (.broken t) => .ok (some (t.toStringLossy.toList, 1))
  | .classMatch name line _ => do
    let line ← line.line
    match name with
    | .data v =>
      match v.string? with
      | some s => return some (s.toList, line)
      | none => .error (.notText v.kind)
    | v => .error (.notText v.kind)
  | v =>
    match v.members? with
    | none => .ok none
    | some members => do
      let name ← ((members.lookup "name").getD (.data (.str ""))).shown
      let line ← ((members.lookup "line").getD .null).line
      return some (name.toList, line)

def addEntry (label : Option String) (scan : Scan) (entry : Value) : Except Fault Scan :=
  match entryOf? entry with
  | .error fault => .error fault
  | .ok none => .ok scan
  | .ok (some (text, line)) =>
    let origin := label.map fun label => s!"{label}:{line}"
    .ok ((tokenizeClassList text).foldl (fun scan token => scan.addClass token origin) scan)

def addEntries (label : Option String) (scan : Scan) : List Value → Except Fault Scan
  | [] => .ok scan
  | entry :: rest =>
    match addEntry label scan entry with
    | .error fault => .error fault
    | .ok scan => addEntries label scan rest

def patternEntry (v : Value) : PatternEntry :=
  match v with
  | .data d =>
    match d.string? with
    | some s => .text s
    | none => .other d
  | .pattern p => .pattern p
  | _ => .other .null

/-- Adds a result to a scan. -/
def applyResult (name : String) (label : Option String) (scan : Scan) (r : Result) :
    Except RunError Scan := do
  let warnings ← (r.warnings.items).mapError .fault
  let texts ← (warnings.mapM Value.shown).mapError .fault
  let scan := { scan with warnings := scan.warnings ++ texts.map fun text => s!"[{name}] {text}" }
  let entries ← (r.classes.items).mapError .fault
  let scan ← (addEntries label scan entries).mapError .fault
  let patterns ← (r.dynamicPatterns.itemsOrNone).mapError .fault
  let patterns ← (readPatterns (patterns.map patternEntry)).mapError .pattern
  return { scan with dynamicPatterns := scan.dynamicPatterns ++ patterns }

def runFrom (context : Context) (label : Option String) (scan : Scan) :
    List Extractor → Except RunError Scan
  | [] => .ok { scan with dynamicPatterns := dedupePatterns scan.dynamicPatterns }
  | e :: rest =>
    match attempt e context with
    | .error text =>
      runFrom context label { scan with warnings := scan.warnings ++ [s!"[{e.name}] {text}"] } rest
    | .ok none => runFrom context label scan rest
    | .ok (some r) =>
      match applyResult e.name label scan r with
      | .error error => .error error
      | .ok scan => runFrom context label scan rest

/-- Runs extractors over a text. Without a label, or with an empty one, no origins are kept and the
path given to extractors is a placeholder. -/
def run (extractors : List Extractor) (content : String) (label : Option String) (cwd : String) :
    Except RunError Scan :=
  let label := label.filter (· ≠ "")
  let context : Context := ⟨normalizeSlashes (label.getD "<inline>"), content, cwd⟩
  runFrom context label {} extractors

end StylePrune.Extractor
