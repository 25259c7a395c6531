import StylePrune.Disk
import StylePrune.Json.Parser
import StylePrune.Json.Printer
import StylePrune.Json.Value
import StylePrune.Scan

/-!
# Entries of the cache and their file

What the cache keeps for a file, and the file that holds all entries.
-/

namespace StylePrune

/-!
## Cached scans

An entry keeps the scan of one file as plain text, so that it can be written to a file and read
back, and the signature of the file that was scanned. Patterns are kept in their written form.
-/

open Regex (PatternError)

structure CacheEntry where
  signature : String
  classes : List String := []
  dynamicPatterns : List String := []
  origins : Origins := []
  warnings : List String := []
deriving DecidableEq, Repr, Inhabited

/-- Entries by the absolute paths of their files, in the order in which they were first made. -/
abbrev CacheEntries := List (String × CacheEntry)

namespace CacheEntry

def ofScan (signature : String) (scan : Scan) : CacheEntry where
  signature
  classes := scan.classes
  dynamicPatterns := scan.dynamicPatterns.map Regex.Pattern.written
  origins := scan.origins
  warnings := scan.warnings

/-- The scan that an entry keeps. -/
def scan (e : CacheEntry) : Except PatternError Scan := do
  let patterns ← readPatterns (e.dynamicPatterns.map PatternEntry.text)
  return {
    classes := Sorted.strings e.classes
    dynamicPatterns := patterns
    origins := e.origins.map fun (name, places) => (name, Sorted.strings places)
    warnings := e.warnings }

def originsJson (origins : Origins) : Json :=
  .obj (origins.map fun (name, places) => (name, Json.strings places))

def toJson (e : CacheEntry) : Json :=
  .obj [("signature", .str e.signature), ("classes", Json.strings e.classes),
    ("dynamicPatterns", Json.strings e.dynamicPatterns), ("classOrigins", originsJson e.origins),
    ("warnings", Json.strings e.warnings)]

/-- A member that is a list of strings; a missing one is empty. -/
def stringsOf? (value : Json) (name : String) : Option (List String) :=
  match value.member? name with
  | none => some []
  | some v => v.stringList?

def originsOf? (value : Json) : Option Origins :=
  match value.member? "classOrigins" with
  | none => some []
  | some (.obj members) =>
    members.mapM fun (name, v) => v.stringList?.map fun places => (name, places)
  | some _ => none

/-- The entry that a value is, if it has the shape of one. -/
def ofJson? (value : Json) : Option CacheEntry := do
  let signature ← (← value.member? "signature").string?
  let classes ← stringsOf? value "classes"
  let dynamicPatterns ← stringsOf? value "dynamicPatterns"
  let origins ← originsOf? value
  let warnings ← stringsOf? value "warnings"
  return { signature, classes, dynamicPatterns, origins, warnings }

end CacheEntry

end StylePrune

namespace StylePrune.CacheFile

/-!
## Cache files

Entries are written to a file with a version number. A file that is missing, cannot be read, has
another version or holds one entry of the wrong shape counts as empty. A file that cannot be written
is left alone.
-/

def version : Int := 1

/-- The name of the file within a cache directory. -/
def fileName : String := s!"scan-cache-v{version}.json"

/-- The absolute path of the cache file of a directory, seen from `cwd`. -/
def pathIn (cwd directory : String) : String := Path.absolute cwd (Path.join directory fileName)

def toJson (entries : CacheEntries) : Json :=
  .obj [("version", .int version),
    ("entries", .obj (entries.map fun (path, entry) => (path, entry.toJson)))]

def write (entries : CacheEntries) : String := (toJson entries).pretty

/-- Whether a value is the version number, written as an integer or not. -/
def isVersion : Json → Bool
  | .int n => n = version
  | .float f => f == Float.ofInt version
  | _ => false

/-- The entries of a value, all or none. -/
def ofJson? (value : Json) : Option CacheEntries :=
  match value.member? "entries" with
  | some (.obj members) =>
    if isVersion ((value.member? "version").getD .null) then
      members.mapM fun (path, v) => (CacheEntry.ofJson? v).map fun entry => (path, entry)
    else none
  | _ => none

/-- The entries of a text. -/
def read? (text : String) : Option CacheEntries :=
  match Json.parse text.toList with
  | .ok value => ofJson? value
  | .error _ => none

/-- The entries of the file of an absolute path. -/
def load (disk : Disk) (path : String) : CacheEntries :=
  match disk.readText path with
  | .ok (.ok text) => (read? text).getD []
  | _ => []

/-- Writes entries to the file of an absolute path, if that can be done. -/
def save (disk : Disk) (path : String) (entries : CacheEntries) : Disk :=
  match disk.writeText path (write entries) with
  | .ok disk => disk
  | .error _ => disk

end StylePrune.CacheFile
