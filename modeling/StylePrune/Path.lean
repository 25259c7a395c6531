import StylePrune.Text.Basic
import StylePrune.Text.Words

/-!
# Paths

A path is text: names between slashes, absolute if it starts with one. The operations here look at
the text alone and never at files. Exactly two slashes at the start stay two, as some systems give
them a meaning of their own; three or more are one.
-/

namespace StylePrune.Path

def isAbsolute (path : String) : Bool := path.toList.head? = some '/'

/-- The slashes that start a normal form. -/
def rootOf (path : String) : String :=
  match path.toList with
  | '/' :: '/' :: '/' :: _ => "/"
  | '/' :: '/' :: _ => "//"
  | '/' :: _ => "/"
  | _ => ""

/-- The names of a path between its slashes, empty ones included. -/
def names (path : String) : List String := splitString '/' path

/-- Whether a name stands for the directory it is in. -/
def isNeutral (name : String) : Bool := name = "" || name = "."

/-- A path seen from a directory. -/
def join (directory path : String) : String :=
  if isAbsolute path then path
  else if directory = "" || directory.toList.getLast? = some '/' then directory ++ path
  else directory ++ "/" ++ path

/-- What a path leads to from a directory; the empty path leads nowhere. -/
def seenFrom (directory path : String) : String := if path = "" then "" else join directory path

/-- The kept names, last one first, after one more name: two dots take back the name before them,
or stay where there is none and the path does not start at the root. -/
def keepName (rooted : Bool) (kept : List String) (name : String) : List String :=
  if isNeutral name then kept
  else if name = ".." then
    match kept with
    | [] => if rooted then [] else [".."]
    | last :: rest => if last = ".." then ".." :: kept else rest
  else name :: kept

def nonEmpty (path : String) : String := if path = "" then "." else path

/-- A path without neutral names and without names that two dots take back. -/
def normalize (path : String) : String :=
  let kept := (names path).foldl (keepName (isAbsolute path)) []
  nonEmpty (rootOf path ++ String.intercalate "/" kept.reverse)

/-- The normal absolute path of a path seen from the directory `cwd`. -/
def absolute (cwd path : String) : String := normalize (join cwd path)

/-- The names that lead from the root to an absolute path. -/
def steps (path : String) : List String := (names path).filter (· ≠ "")

/-- The length of the longest common beginning. -/
def commonLength : List String → List String → Nat
  | x :: xs, y :: ys => if x = y then commonLength xs ys + 1 else 0
  | _, _ => 0

/-- The way from a directory to a path, both absolute. -/
def between (directory path : String) : String :=
  let start := steps directory
  let goal := steps path
  let common := commonLength start goal
  nonEmpty (String.intercalate "/"
    (List.replicate (start.length - common) ".." ++ goal.drop common))

/-- How a file is named in origins: its way from the directory `base`, with slashes only. The empty
path has no name. -/
def label (cwd base path : String) : String :=
  if path = "" then "" else normalizeSlashes (between (absolute cwd base) (absolute cwd path))

/-- A path without neutral names, in which two dots stay. -/
def tidy (path : String) : String :=
  nonEmpty (rootOf path ++ String.intercalate "/" ((names path).filter fun n => !isNeutral n))

/-- The tidy path of an entry of a directory. -/
def child (directory name : String) : String := tidy (join directory name)

/-- The last name of a path, empty if it has none. -/
def fileName (path : String) : String :=
  (((names path).filter fun n => !isNeutral n).getLast?).getD ""

/-- The tidy path without its last name. -/
def parent (path : String) : String :=
  nonEmpty (rootOf path ++
    String.intercalate "/" ((names path).filter fun n => !isNeutral n).dropLast)

/-- The last point of a file name and what follows it; empty if the name starts or ends with that
point or has none. -/
def suffix (path : String) : String :=
  let name := (fileName path).toList
  let ending := (name.reverse.takeWhile (· ≠ '.')).reverse
  if ending.isEmpty || name.length ≤ ending.length + 1 then ""
  else String.ofList ('.' :: ending)

end StylePrune.Path
