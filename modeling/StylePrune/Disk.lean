import StylePrune.Names
import StylePrune.Path
import StylePrune.Text.Utf8

/-!
# The tree of files

A disk holds files and directories by their places, which are the names from the root down. A path
is followed name by name: every name but the last must lead to a directory, and two dots lead back
up. Each write takes the time of the disk's clock, which then moves on, so that no two writes bear
the same time.
-/

namespace StylePrune

/-- The names from the root to a file or directory. -/
abbrev Place := List String

/-- A file: its bytes, and the time of its last change in nanoseconds. -/
structure File where
  bytes : List UInt8
  modified : Nat
deriving DecidableEq, Repr, Inhabited

structure Disk where
  files : List (Place × File) := []
  /-- All directories but the root. -/
  directories : List Place := []
  clock : Nat := 0
deriving Inhabited

/-- Why a path cannot be used. -/
inductive DiskFault where
  | notFound
  | isDirectory
  | notDirectory
  | exists
deriving DecidableEq, Repr

def DiskFault.message : DiskFault → String
  | .notFound => "No such file or directory"
  | .isDirectory => "Is a directory"
  | .notDirectory => "Not a directory"
  | .exists => "File exists"

/-- What can be asked of a file without reading it. -/
structure FileStatus where
  modified : Nat
  size : Nat
deriving DecidableEq, Repr

namespace Disk

def isDirectory (disk : Disk) (place : Place) : Bool :=
  place.isEmpty || disk.directories.contains place

def fileAt? (disk : Disk) (place : Place) : Option File := disk.files.lookup place

/-- The fault of going on from a place that is no directory. -/
def blocked (disk : Disk) (place : Place) : DiskFault :=
  if (disk.fileAt? place).isSome then .notDirectory else .notFound

/-- Follows names from a place; the last name may lead to nothing. -/
def follow (disk : Disk) (here : Place) : List String → Except DiskFault Place
  | [] => .ok here
  | name :: rest =>
    if !disk.isDirectory here then .error (disk.blocked here)
    else if Path.isNeutral name then follow disk here rest
    else if name = ".." then follow disk here.dropLast rest
    else follow disk (here ++ [name]) rest

/-- The place of an absolute path; the empty path leads nowhere. -/
def locate (disk : Disk) (path : String) : Except DiskFault Place :=
  if path = "" then .error .notFound else disk.follow [] (Path.names path)

/-- The file of an absolute path. -/
def file (disk : Disk) (path : String) : Except DiskFault File := do
  let place ← disk.locate path
  match disk.fileAt? place with
  | some f => return f
  | none => .error (if disk.isDirectory place then .isDirectory else .notFound)

def isFile (disk : Disk) (path : String) : Bool := (disk.file path).isOk

/-- The size and time of a file; a directory has a size of its own. -/
def status? (disk : Disk) (path : String) : Option FileStatus :=
  match disk.file path with
  | .ok f => some ⟨f.modified, f.bytes.length⟩
  | .error .isDirectory => some ⟨0, 4096⟩
  | .error _ => none

/-- The text of a file whatever its bytes are, with plain line ends. -/
def readLossy (disk : Disk) (path : String) : Except DiskFault String := do
  let f ← disk.file path
  return String.ofList (Utf8.plainLines (Utf8.decodeLossy f.bytes))

/-- The text of a file that must be UTF-8, with plain line ends. -/
def readText (disk : Disk) (path : String) : Except DiskFault (Except Utf8.Fault String) := do
  let f ← disk.file path
  return (Utf8.decode f.bytes).map fun text => String.ofList (Utf8.plainLines text)

/-- The files below a directory, at any depth, each as the path `root` and the names below it. -/
def walk (disk : Disk) (root : String) : List String :=
  match disk.locate root with
  | .error _ => []
  | .ok place =>
    if disk.isDirectory place then
      disk.files.filterMap fun (other, _) =>
        if place.isPrefixOf other then
          some (Path.join root (String.intercalate "/" (other.drop place.length)))
        else none
    else []

/-- Makes a directory and those above it. -/
def makeDirectoriesFrom (disk : Disk) (here : Place) : List String → Except DiskFault Disk
  | [] => .ok disk
  | name :: rest =>
    if Path.isNeutral name then makeDirectoriesFrom disk here rest
    else if name = ".." then makeDirectoriesFrom disk here.dropLast rest
    else
      let next := here ++ [name]
      if disk.isDirectory next then makeDirectoriesFrom disk next rest
      else if (disk.fileAt? next).isSome then
        .error (if rest.isEmpty then .exists else .notDirectory)
      else makeDirectoriesFrom { disk with directories := disk.directories ++ [next] } next rest

def makeDirectories (disk : Disk) (path : String) : Except DiskFault Disk :=
  disk.makeDirectoriesFrom [] (Path.names path)

def putFile (files : List (Place × File)) (place : Place) (f : File) : List (Place × File) :=
  match files with
  | [] => [(place, f)]
  | (other, g) :: rest =>
    if other = place then (place, f) :: rest else (other, g) :: putFile rest place f

/-- Puts bytes into the file of a path, in a directory that is there. -/
def writeBytes (disk : Disk) (path : String) (bytes : List UInt8) : Except DiskFault Disk := do
  let place ← disk.locate path
  if disk.isDirectory place then .error .isDirectory
  else
    return { disk with
      files := putFile disk.files place ⟨bytes, disk.clock⟩
      clock := disk.clock + 1 }

/-- Puts a file into the disk as it was when it last changed, with the directories that it needs.
The clock stays. -/
def place (disk : Disk) (path : String) (f : File) : Except DiskFault Disk := do
  let disk ← disk.makeDirectories (Path.parent path)
  let placed ← { disk with clock := f.modified }.writeBytes path f.bytes
  return { placed with clock := disk.clock }

/-- Writes a text file, making the directories that it needs. -/
def writeText (disk : Disk) (path text : String) : Except DiskFault Disk := do
  let disk ← disk.makeDirectories (Path.parent path)
  disk.writeBytes path (Utf8.encode text)

/-- Takes a file away. -/
def delete (disk : Disk) (path : String) : Except DiskFault Disk := do
  let place ← disk.locate path
  match disk.fileAt? place with
  | some _ => return { disk with files := disk.files.filter fun entry => entry.1 ≠ place }
  | none => .error (if disk.isDirectory place then .isDirectory else .notFound)

/-- The absolute paths of the files that are not the same in an earlier disk, with what they hold.
-/
def changedSince (disk earlier : Disk) : List (String × List UInt8) :=
  disk.files.filterMap fun (place, f) =>
    if earlier.fileAt? place = some f then none
    else some ("/" ++ String.intercalate "/" place, f.bytes)

end Disk

end StylePrune
