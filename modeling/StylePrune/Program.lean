import StylePrune.CommandLine.Arguments
import StylePrune.Config.File
import StylePrune.Config.Plan
import StylePrune.Project.Context

/-!
# The program

A command line is a run on a project or asks for the service. A run loads a configuration, settles
its plan, prunes, writes the style sheet and what else was asked for, and checks the budgets. A
fault of the configuration is a message; other faults end the program.
-/

namespace StylePrune.Program

open CommandLine (PruneArguments ServeArguments Command)

/-- A fault that ends the program. -/
inductive ProgramError where
  | find (error : Config.FindError)
  | toolsNotTable (kind : String)
  | run (error : RunError)
  /-- The output file cannot be written. -/
  | output (fault : DiskFault)
  | budget (fault : BudgetFault)

def ProgramError.message : ProgramError → String
  | find e => e.message
  | toolsNotTable kind => (Config.LoadError.toolsNotTable kind).message
  | run e => e.message
  | output fault => fault.message
  | budget fault => fault.message

/-- What a program printed, and its exit code unless a fault ended it. -/
structure Outcome where
  out : String := ""
  err : String := ""
  code : Except ProgramError Nat := .ok 0

namespace Outcome

def print (o : Outcome) (text : String) : Outcome := { o with out := o.out ++ text }

/-- Prints a line to the error stream. -/
def note (o : Outcome) (line : String) : Outcome := { o with err := o.err ++ line ++ "\n" }

end Outcome

def mark : String := "[bonsaicss]"

/-- A line of the program's own. -/
def line (text : String) : String := mark ++ " " ++ text

/-- A run that ends with a message. -/
def refused (message : String) : Outcome :=
  { Outcome.note {} (line s!"error: {message}") with code := .ok 1 }

def failed (error : ProgramError) : Outcome := { code := .error error }

/-- Prints the style sheet, on lines of its own. -/
def printStyles (o : Outcome) (css : String) : Outcome :=
  let o := o.print css
  if css.toList.getLast? = some '\n' then o else o.print "\n"

/-- Writes the style sheet to the file of the plan, or prints it. -/
def emitStyles (plan : RunPlan) (result : RunResult) (disk : Disk) (o : Outcome) :
    Except DiskFault (Outcome × Disk) :=
  match nonEmpty? plan.out with
  | none => .ok (printStyles o result.pruned.css, disk)
  | some name =>
    let path := Path.child plan.base name
    let stats := result.pruned.stats
    (disk.writeText path result.pruned.css).map fun disk =>
      (o.note (line s!"removed {stats.removedRules} of {stats.totalRules} rules -> {path}"), disk)

/-- The line on a run. -/
def runLine (result : RunResult) : String :=
  let s := result.report.stats
  line (s!"files={s.filesScanned} classes={s.classesDetected} " ++
    s!"removed={result.pruned.removedClasses.length} " ++
    s!"rulesRemoved={result.pruned.stats.removedRules} " ++
    s!"reduction={Decimal.fixed 2 (s.reductionRatio * 100)}%")

/-- The figures of a run, for programs. -/
def figures (result : RunResult) : Json :=
  let s := result.report.stats
  let p := result.pruned.stats
  let n (k : Nat) : Json := .int k
  .obj [("filesScanned", n s.filesScanned), ("classesDetected", n s.classesDetected),
    ("classesRemoved", n result.pruned.removedClasses.length), ("totalRules", n p.totalRules),
    ("removedRules", n p.removedRules), ("sizeBefore", n p.sizeBefore),
    ("sizeAfter", n p.sizeAfter), ("reductionRatio", .float s.reductionRatio),
    ("durationMs", .float s.durationMs)]

/-- Prints what the plan asks for beside the style sheet. -/
def describe (plan : RunPlan) (result : RunResult) (o : Outcome) : Outcome :=
  let o := if plan.verbose then
      result.report.warnings.foldl (fun o warning => o.note s!"{mark}[warning] {warning}")
        (o.note (runLine result))
    else o
  if plan.stats then o.note (figures result).compact else o

/-- Checks the budgets of the plan, and ends the program. -/
def checkBudgets (plan : RunPlan) (result : RunResult) (o : Outcome) : Outcome :=
  match plan.budgets.violations result.pruned.stats with
  | .error fault => { o with code := .error (.budget fault) }
  | .ok messages =>
    let o := messages.foldl (fun o message => o.note (line s!"budget exceeded: {message}")) o
    { o with code := .ok (if messages.isEmpty then 0 else 1) }

/-- Gives out the result of a run. -/
def finish (plan : RunPlan) (result : RunResult) (w : Workspace) : Outcome × Workspace :=
  match emitStyles plan result w.disk {} with
  | .error fault => (failed (.output fault), w)
  | .ok (o, disk) => (checkBudgets plan result (describe plan result o), { w with disk })

/-- Carries out a plan that is valid. -/
def carryOut (here : Surroundings) (plan : RunPlan) (w : Workspace) : Outcome × Workspace :=
  match run here { plan.options with css := .files plan.cssPaths } w with
  | (.error (.scan (.config e)), w) =>
    match e with
    | .pattern _ => (failed (.run (.scan (.config e))), w)
    | e => (refused e.message, w)
  | (.error e, w) => (failed (.run e), w)
  | (.ok result, w) => finish plan result w

/-- The path of the configuration of a run, if there is one. -/
def configPath? (disk : Disk) (cwd : String) (a : PruneArguments) (s : Settings) :
    Except Config.FindError (Option String) :=
  match nonEmpty? a.config with
  | some path => .ok (some path)
  | none => Config.find? disk cwd ((nonEmpty? a.cwd).getD s.cwd)

def loadAt (disk : Disk) (cwd : String) : Option String → Except Config.LoadError Config
  | none => .ok {}
  | some path => (Config.load disk cwd path).map Config.Loaded.config

/-- The plan of a run. -/
def planOf (disk : Disk) (cwd : String) (a : PruneArguments) (s : Settings) :
    Except (ConfigError ⊕ ProgramError) RunPlan :=
  match configPath? disk cwd a s with
  | .error e => .error (.inr (.find e))
  | .ok path =>
    match loadAt disk cwd path with
    | .error (.toolsNotTable kind) => .error (.inr (.toolsNotTable kind))
    | .error (.config e) => .error (.inl e)
    | .ok config =>
      let plan := { RunPlan.merge cwd config a s with configPath := path }
      match plan.validate disk with
      | .error e => .error (.inl e)
      | .ok () => .ok plan

def prune (here : Surroundings) (s : Settings) (a : PruneArguments) (w : Workspace) :
    Outcome × Workspace :=
  match planOf w.disk here.cwd a s with
  | .error (.inl e) => (refused e.message, w)
  | .error (.inr e) => (failed e, w)
  | .ok plan => carryOut here plan w

/-- Where the service listens. -/
structure Address where
  host : String
  port : Int
deriving DecidableEq, Repr

/-- An empty host and the port zero count as not given. -/
def addressOf (s : Settings) (a : ServeArguments) : Address where
  host := (nonEmpty? a.host).getD s.serverHost
  port := (a.port.filter (· ≠ 0)).getD s.serverPort

end StylePrune.Program
