import StylePrune.Disk
import StylePrune.Glob.Basic

/-!
# The files that patterns name

Patterns are seen from a directory. Each is expanded and made absolute; one without tokens names a
file, any other names the files that it matches. Patterns that start with an exclamation mark take
files out again, wherever they stand.
-/

namespace StylePrune.Glob

/-- The absolute form of an expanded pattern. -/
def absolutePattern (directory pattern : String) : String :=
  normalizeSlashes (Path.absolute directory pattern)

/-- The absolute forms of all expansions of a pattern. -/
def absolutePatterns (directory pattern : String) : List String :=
  (expandBraces pattern).map (absolutePattern directory)

def matchesFile (pattern file : String) : Bool := isMatch pattern (normalizeSlashes file)

/-- The files that an absolute pattern names. -/
def filesOf (disk : Disk) (pattern : String) : List String :=
  if hasToken pattern then
    ((disk.walk (walkRoot pattern)).map Path.normalize).filter (matchesFile pattern)
  else if disk.isFile pattern then [Path.normalize pattern]
  else []

def isExclusion (pattern : String) : Bool := pattern.toList.head? = some '!'

/-- The absolute paths of the files that patterns name, in order, seen from the directory `base`
of the working directory `cwd`. -/
def resolve (disk : Disk) (cwd base : String) (patterns : List String) : List String :=
  let directory := Path.absolute cwd base
  let given := patterns.filter (· ≠ "")
  let included := (given.filter fun p => !isExclusion p).flatMap (absolutePatterns directory)
  let excluded := (given.filter isExclusion).flatMap fun p =>
    absolutePatterns directory (p.drop 1).toString
  (Sorted.strings (included.flatMap (filesOf disk))).filter fun file =>
    !excluded.any fun p => matchesFile p file

end StylePrune.Glob
