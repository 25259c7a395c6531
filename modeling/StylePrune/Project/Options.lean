import StylePrune.Disk
import StylePrune.Options
import StylePrune.Report.Output

/-!
# Options of a project

What a run on a project needs beside the options of scanning and pruning: the content files, the
style sheets, the directory that both are seen from, and what to write.
-/

namespace StylePrune

/-- Style sheets: a text, or files that are put together. -/
inductive StyleSource where
  | text (css : String)
  | files (paths : List String)
deriving DecidableEq, Repr, Inhabited

structure ProjectOptions extends Options where
  /-- Patterns of the content files. -/
  content : List String := []
  css : StyleSource := .text ""
  /-- The directory of the project; if there is none it is the working directory. -/
  directory : Option String := none
  analysis : Output := .off
  reports : ReportOutputs := {}
  /-- The directory to keep scans in from run to run. -/
  cacheDirectory : Option String := none
deriving Inhabited

/-- An option that is given and not empty. -/
def nonEmpty? (s : Option String) : Option String := s.filter (· ≠ "")

namespace StyleSource

/-- The text of a file that is one of several; nothing for one that cannot be read. -/
def readFile (disk : Disk) (path : String) : Except Utf8.Fault String :=
  match disk.readText path with
  | .ok contents => contents
  | .error _ => .ok ""

/-- The text of style sheets seen from a directory; files stand on lines of their own. -/
def read (disk : Disk) (directory : String) : StyleSource → Except Utf8.Fault String
  | text css => .ok css
  | files paths =>
    (paths.mapM fun path => readFile disk (Path.join directory path)).map (String.intercalate "\n")

end StyleSource

end StylePrune
