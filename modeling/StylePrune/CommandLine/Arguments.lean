import StylePrune.CommandLine.Option
import StylePrune.Decimal.Read
import StylePrune.Report.Output

/-!
# Commands

There are two commands, to prune style sheets and to serve requests. The first is meant when a
command line names neither.
-/

namespace StylePrune.CommandLine

/-- The arguments of a run; an argument that is not given leaves the choice to configuration and
settings. -/
structure PruneArguments where
  content : List String := []
  css : List String := []
  config : Option String := none
  out : Option String := none
  cwd : Option String := none
  safelist : List String := []
  safelistPatterns : List String := []
  keepDynamicPatterns : Bool := false
  dynamicPatterns : List String := []
  minify : Bool := false
  analyze : Option Output := none
  reportJson : Option Output := none
  reportHtml : Option Output := none
  reportCi : Option Output := none
  noCache : Bool := false
  verbose : Bool := false
  stats : Bool := false
  maxUnusedPercent : Option Float := none
  maxFinalKb : Option Float := none
  logLevel : Option String := none
deriving Inhabited

structure ServeArguments where
  host : Option String := none
  port : Option Int := none
  logLevel : Option String := none
deriving Inhabited

inductive Command where
  | prune (arguments : PruneArguments)
  | serve (arguments : ServeArguments)
deriving Inhabited

def helpOption {σ : Type} : Opt σ := ⟨["-h", "--help"], .help⟩

/-- A file given with an option, or the usual file if none is. -/
def outputOf : Option String → Output
  | none => .usual
  | some path => .path path

def pruneOptionTable : List (Opt PruneArguments) := [
  helpOption,
  ⟨["--content", "-c"], .text fun a s => { a with content := a.content ++ [s] }⟩,
  ⟨["--css", "-i"], .text fun a s => { a with css := a.css ++ [s] }⟩,
  ⟨["--config"], .text fun a s => { a with config := some s }⟩,
  ⟨["--out", "-o"], .text fun a s => { a with out := some s }⟩,
  ⟨["--cwd"], .text fun a s => { a with cwd := some s }⟩,
  ⟨["--safelist"], .text fun a s => { a with safelist := a.safelist ++ [s] }⟩,
  ⟨["--safelist-pattern"],
    .text fun a s => { a with safelistPatterns := a.safelistPatterns ++ [s] }⟩,
  ⟨["--keep-dynamic-patterns"], .flag fun a => { a with keepDynamicPatterns := true }⟩,
  ⟨["--dynamic-pattern"], .text fun a s => { a with dynamicPatterns := a.dynamicPatterns ++ [s] }⟩,
  ⟨["--minify"], .flag fun a => { a with minify := true }⟩,
  ⟨["--analyze"], .optional fun a s => { a with analyze := some (outputOf s) }⟩,
  ⟨["--report-json"], .optional fun a s => { a with reportJson := some (outputOf s) }⟩,
  ⟨["--report-html"], .optional fun a s => { a with reportHtml := some (outputOf s) }⟩,
  ⟨["--report-ci"], .optional fun a s => { a with reportCi := some (outputOf s) }⟩,
  ⟨["--no-cache"], .flag fun a => { a with noCache := true }⟩,
  ⟨["--verbose"], .flag fun a => { a with verbose := true }⟩,
  ⟨["--stats"], .flag fun a => { a with stats := true }⟩,
  ⟨["--max-unused-percent"], .checked "float" fun a s =>
    (Decimal.readFloat? s).map fun f => { a with maxUnusedPercent := some f }⟩,
  ⟨["--max-final-kb"], .checked "float" fun a s =>
    (Decimal.readFloat? s).map fun f => { a with maxFinalKb := some f }⟩,
  ⟨["--log-level"], .text fun a s => { a with logLevel := some s }⟩]

def serveOptionTable : List (Opt ServeArguments) := [
  helpOption,
  ⟨["--host"], .text fun a s => { a with host := some s }⟩,
  ⟨["--port"], .checked "int" fun a s =>
    (Decimal.readInt? s).map fun n => { a with port := some n }⟩,
  ⟨["--log-level"], .text fun a s => { a with logLevel := some s }⟩]

/-- The options that stand before a command. -/
def generalOptions : List (Opt Unit) := [helpOption, ⟨["--version"], .version⟩]

def programName : String := "bonsaicss"

/-- A stop, with the command that it came up in. -/
structure Refusal where
  program : String
  stop : Stop
deriving DecidableEq, Repr

/-- The line that a refusal prints as an error; nothing for a request. -/
def Refusal.errorLine? (r : Refusal) : Option String :=
  match r.stop with
  | .fault fault => some s!"{r.program}: error: {fault.message}"
  | .help | .version => none

def versionLine : String := programName ++ " 0.1.0\n"

/-- Reads the words of a command, none of which may be left over. -/
def readCommand {σ : Type} (name : String) (options : List (Opt σ)) (usual : σ)
    (words : List String) : Except Refusal σ :=
  match readOptions options usual words with
  | .error stop => .error ⟨programName ++ " " ++ name, stop⟩
  | .ok (values, []) => .ok values
  | .ok (_, left) => .error ⟨programName, .fault (.unrecognized left)⟩

/-- Words with which a command line may start; any other start means a run. -/
def starts : List String := ["prune", "serve", "-h", "--help", "--version"]

/-- Reads a command line. The options before a command are looked for in all words, and so may be
ambiguous there, but only count in front. -/
def read (words : List String) : Except Refusal Command :=
  let words := match words with
    | [] => ["prune"]
    | first :: _ => if starts.contains first then words else "prune" :: words
  match readWords generalOptions words with
  | .error fault => .error ⟨programName, .fault fault⟩
  | .ok _ =>
    match words with
    | "prune" :: rest => (readCommand "prune" pruneOptionTable {} rest).map .prune
    | "serve" :: rest => (readCommand "serve" serveOptionTable {} rest).map .serve
    | "--version" :: _ => .error ⟨programName, .version⟩
    | _ => .error ⟨programName, .help⟩

end StylePrune.CommandLine
