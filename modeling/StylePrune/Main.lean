import Std.Time.DateTime.Timestamp
import StylePrune.Calendar
import StylePrune.Program
import StylePrune.Service.Basic
import StylePrune.Service.Message

/-!
# The command line

The program on real files. Standard input gives the paths of the files of a project, one on each
line up to an empty line or the end. The program sees these files, and writes back those that it
changes. Files bear a number made of their contents in place of a time, so a cached scan serves as
long as the contents stay. The service answers the requests on the lines that follow.
-/

namespace StylePrune.CommandLine

def usage : String :=
  "usage: bonsaicss prune [options] | bonsaicss serve [options]\n\n" ++
  "Prunes CSS rules that no content uses. Reads the paths of the files of the project from\n" ++
  "standard input, one on each line.\n"

/-- A number that stands for the contents of a file. -/
def contentNumber (bytes : List UInt8) : Nat :=
  ((Sha256.digest bytes).take 8).foldl (fun n b => 256 * n + b.toNat) 0

/-- A line without its end. -/
def plainLine (line : String) : String := String.ofList (line.toList.filter (· ≠ '\n'))

/-- The next lines of a stream, up to an empty one or the end. -/
partial def readLines (stream : IO.FS.Stream) : IO (List String) := do
  let line := plainLine (← stream.getLine)
  if line = "" then return []
  else return line :: (← readLines stream)

/-- Puts the file of an absolute path into a disk, if it can be read. -/
def loadFile (disk : Disk) (path : String) : IO Disk := do
  try
    let bytes := (← IO.FS.readBinFile path).toList
    match disk.place path ⟨bytes, contentNumber bytes⟩ with
    | .ok disk => return disk
    | .error _ => return disk
  catch _ => return disk

/-- A disk with a directory and the files of some paths seen from there. -/
def loadDisk (cwd : String) (paths : List String) : IO Disk := do
  let disk := (({} : Disk).makeDirectories cwd).toOption.getD {}
  paths.foldlM (fun disk path => loadFile disk (Path.absolute cwd path)) disk

/-- Writes the files that are not as they were. -/
def storeDisk (before after : Disk) : IO Unit :=
  (after.changedSince before).forM fun (path, bytes) => do
    IO.FS.createDirAll (Path.parent path)
    IO.FS.writeBinFile path ⟨bytes.toArray⟩

/-- The variables of the environment that count. -/
def readEnvironment : IO Environment :=
  Settings.variableNames.filterMapM fun name => do
    return (← IO.getEnv name).map fun value => (name, value)

/-- The micros of the clock. -/
def readClock : IO Nat := do
  return ((← Std.Time.Timestamp.now).toNanosecondsSinceUnixEpoch.toInt / 1000).toNat

/-- The surroundings at a time; runs are not timed. -/
def surroundings (cwd : String) (micros : Nat) : Surroundings :=
  ⟨cwd, Calendar.momentShown micros, 0⟩

/-- Prunes once, and gives the exit code. -/
def runPrune (cwd : String) (settings : Settings) (arguments : PruneArguments) (disk : Disk) :
    IO UInt32 := do
  let here := surroundings cwd (← readClock)
  let (outcome, workspace) := Program.prune here settings arguments { disk }
  storeDisk disk workspace.disk
  IO.print outcome.out
  IO.eprint outcome.err
  match outcome.code with
  | .ok code => return UInt32.ofNat code
  | .error e =>
    IO.eprintln (Program.line s!"failed: {e.message}")
    return 1

/-- Answers requests up to the end of a stream. -/
partial def answerLines (cwd : String) (stream : IO.FS.Stream) (state : Service.State) :
    IO Unit := do
  let line ← stream.getLine
  if line = "" then return
  else
    let micros ← readClock
    let moment : Service.Moment := ⟨surroundings cwd micros, Float.ofNat micros / 1000000⟩
    let (response, next) := match Service.Request.ofLine? line with
      | some request => Service.handle moment state request
      | none => (Service.Response.noRequest, state)
    storeDisk state.workspace.disk next.workspace.disk
    IO.println response.line
    (← IO.getStdout).flush
    answerLines cwd stream next

/-- Serves a project by the settings. -/
def runService (cwd : String) (settings : Settings) (arguments : ServeArguments) (disk : Disk)
    (stream : IO.FS.Stream) : IO UInt32 := do
  let address := Program.addressOf settings arguments
  IO.eprintln (Program.line s!"serving {address.host} {address.port}")
  let context := Context.ofOptions disk cwd (RunPlan.ofSettings cwd settings)
  answerLines cwd stream ⟨context, { disk }⟩
  return 0

/-- Ends a command line that asks for no command. -/
def endRefused (r : Refusal) : IO UInt32 := do
  match r.stop with
  | .help =>
    IO.print usage
    return 0
  | .version =>
    IO.print versionLine
    return 0
  | .fault fault =>
    IO.eprintln s!"{r.program}: error: {fault.message}"
    return 2

end StylePrune.CommandLine

open StylePrune StylePrune.CommandLine in
def main (words : List String) : IO UInt32 := do
  match CommandLine.read words with
  | .error refusal => endRefused refusal
  | .ok command =>
    let (settings, warnings) := Settings.ofEnvironment (← readEnvironment)
    warnings.forM fun warning => IO.eprintln warning
    let cwd := (← IO.getEnv "PWD").getD "/"
    let stdin ← IO.getStdin
    let disk ← loadDisk cwd (← readLines stdin)
    match command with
    | .prune arguments => runPrune cwd settings arguments disk
    | .serve arguments => runService cwd settings arguments disk stdin
