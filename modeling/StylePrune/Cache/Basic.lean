import StylePrune.Cache.File
import StylePrune.Digest.Sha256

/-!
# The scan cache

A cache answers for a file as long as the file's signature stays what it was when the scan was put
in. The signature holds what a scan by the recognisers depends on beside the text: whether patterns
are collected, the directory that origins are seen from, and the time and size of the file. A cache
is held in memory, or opened on a file to which it can be saved.
-/

namespace StylePrune

open Regex (PatternError)

namespace Signature

/-- The letters that stand for a directory in signatures. -/
def directoryMark (directory : String) : String :=
  ((Sha256.hex (Utf8.encode directory)).take 12).toString

/-- The signature of a file with a status. -/
def ofStatus (collects : Bool) (directory : Option String) (status : FileStatus) : String :=
  let mode := if collects then "builtin:true" else "builtin:false"
  let mode := match directory with
    | some d => mode ++ ":" ++ directoryMark d
    | none => mode
  s!"{mode}:{status.modified}:{status.size}"

/-- The signature of the file of an absolute path, if there is one. -/
def ofPath? (disk : Disk) (collects : Bool) (directory : Option String) (path : String) :
    Option String :=
  (disk.status? path).map (ofStatus collects directory)

end Signature

structure ScanCache where
  /-- The absolute path of the file to save to, for a cache that is not held in memory alone. -/
  file : Option String := none
  entries : CacheEntries := []
  hits : Nat := 0
  misses : Nat := 0
deriving Inhabited

namespace ScanCache

/-- The cache of a file, with the entries that are there. -/
def ofFile (disk : Disk) (path : String) : ScanCache where
  file := some path
  entries := CacheFile.load disk path

def isPersistent (cache : ScanCache) : Bool := cache.file.isSome

/-- The entry of an absolute path, if it bears the signature. -/
def entry? (cache : ScanCache) (path signature : String) : Option CacheEntry :=
  (cache.entries.lookup path).filter fun entry => entry.signature = signature

/-- Looks up the scan of an absolute path, and counts a hit or a miss. -/
def get (cache : ScanCache) (path signature : String) :
    Except PatternError (Option Scan × ScanCache) :=
  match cache.entry? path signature with
  | none => .ok (none, { cache with misses := cache.misses + 1 })
  | some entry => entry.scan.map fun scan => (some scan, { cache with hits := cache.hits + 1 })

/-- Keeps the scan of an absolute path. -/
def put (cache : ScanCache) (path signature : String) (scan : Scan) : ScanCache :=
  { cache with entries := setMember cache.entries path (CacheEntry.ofScan signature scan) }

def clear (cache : ScanCache) : ScanCache := { cache with entries := [] }

def paths (cache : ScanCache) : List String := cache.entries.map Prod.fst

/-- Writes the entries to the file of the cache, if it has one. -/
def save (cache : ScanCache) (disk : Disk) : Disk :=
  match cache.file with
  | some path => CacheFile.save disk path cache.entries
  | none => disk

end ScanCache

end StylePrune
