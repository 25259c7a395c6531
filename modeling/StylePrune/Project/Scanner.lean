import StylePrune.Cache.Basic
import StylePrune.Options
import StylePrune.Tally

/-!
# Scanning files

A file is scanned in four steps: its signature is taken, the cache is asked, and if it does not
answer the file is read and scanned and the scan is put into the cache. Extractors may depend on
anything, so with extractors the cache is left out. What files yield is merged in their order, and
the classes and patterns that the options name come last.
-/

namespace StylePrune

/-- What scanning changes: the cache, if there is one, and the counts. Changes stay when an error
ends the scan. -/
structure ScanState where
  cache : Option ScanCache := none
  tally : Tally := {}
deriving Inhabited

/-- How files are scanned. -/
structure Scanner where
  options : Options
  extractors : List Extractor
  /-- The directory that paths are seen from. -/
  cwd : String
  /-- The directory that origins are seen from, as an absolute path. -/
  base : String

namespace Scanner

/-- The signature under which the cache is asked for a file; none if it is not asked. -/
def signature? (s : Scanner) (disk : Disk) (state : ScanState) (path : String) : Option String :=
  if s.extractors.isEmpty && state.cache.isSome then
    Signature.ofPath? disk s.options.dynamicPatterns.collects (some s.base)
      (Path.seenFrom s.cwd path)
  else none

/-- What the cache answers for a file. -/
def lookup (s : Scanner) (state : ScanState) (path signature : String) :
    Except ScanError (Option Scan) × ScanState :=
  match state.cache with
  | none => (.ok none, state)
  | some cache =>
    match cache.get (Path.absolute s.cwd path) signature with
    | .error e => (.error (.pattern e), state)
    | .ok (found, cache) =>
      (.ok found, ⟨some cache, state.tally.lookedUp cache.isPersistent found.isSome⟩)

/-- Scans the text of a file. -/
def scanContents (s : Scanner) (path content : String) : Except ScanError Scan :=
  scanText s.options s.extractors content (some (Path.label s.cwd s.base path)) s.base

/-- Reads and scans a file; nothing for a file that cannot be read. -/
def freshScan (s : Scanner) (disk : Disk) (path : String) : Except ScanError (Option Scan) :=
  match disk.readLossy (Path.seenFrom s.cwd path) with
  | .error _ => .ok none
  | .ok content => (s.scanContents path content).map some

/-- Puts the scan of a file into the cache, if it has a signature. -/
def store (s : Scanner) (state : ScanState) (path : String) (signature : Option String)
    (scan : Scan) : ScanState :=
  match signature with
  | none => state
  | some signature =>
    { state with
      cache := state.cache.map fun cache =>
        cache.put (Path.absolute s.cwd path) signature scan }

/-- Scans a file that the cache has no answer for. -/
def scanAndStore (s : Scanner) (disk : Disk) (state : ScanState) (path : String)
    (signature : Option String) : Except ScanError (Option Scan) × ScanState :=
  match s.freshScan disk path with
  | .error e => (.error e, state)
  | .ok none => (.ok none, state)
  | .ok (some scan) =>
    (.ok (some scan), s.store { state with tally := state.tally.scanned } path signature scan)

/-- The scan of a file, from the cache or afresh. -/
def scanFile (s : Scanner) (disk : Disk) (state : ScanState) (path : String) :
    Except ScanError (Option Scan) × ScanState :=
  match s.signature? disk state path with
  | none => s.scanAndStore disk state path none
  | some signature =>
    match s.lookup state path signature with
    | (.ok none, state) => s.scanAndStore disk state path (some signature)
    | answer => answer

/-- Adds the scan of a file. -/
def addScan (sum : ProjectScan) (scan : Scan) : ProjectScan :=
  ⟨sum.scan.merge scan, sum.filesScanned + 1⟩

/-- The scans of files, merged into a sum. Files that cannot be read do not count. -/
def scanEach (s : Scanner) (disk : Disk) (state : ScanState) (sum : ProjectScan) :
    List String → Except ScanError ProjectScan × ScanState
  | [] => (.ok sum, state)
  | path :: rest =>
    match s.scanFile disk state path with
    | (.error e, state) => (.error e, state)
    | (.ok none, state) => scanEach s disk state sum rest
    | (.ok (some scan), state) => scanEach s disk state (addScan sum scan) rest

end Scanner

/-- Adds the classes of a safelist; every entry must be text. -/
def addSafelist (scan : Scan) : List SafelistEntry → Except ScanError Scan
  | [] => .ok scan
  | .other value :: _ => .error (.safelist value.kind)
  | .text list :: rest =>
    addSafelist
      { scan with classes := Sorted.unionStrings scan.classes (tokenizeClassList list.toList) } rest

/-- Adds the classes and patterns that options name to what files yielded. -/
def addNamed (o : Options) (scan : Scan) : Except ScanError Scan := do
  let scan ← addSafelist scan o.safelist
  let given ← match o.dynamicPatterns with
    | .given entries => (readPatterns entries).mapError ScanError.pattern
    | _ => .ok []
  return { scan with dynamicPatterns := dedupePatterns (scan.dynamicPatterns ++ given) }

/-- Scans one file, with the extractors of the options. -/
def scanFile (o : Options) (disk : Disk) (cwd base : String) (state : ScanState) (path : String) :
    Except ScanError (Option Scan) × ScanState :=
  match Extractor.checkAll o.extractors with
  | .error e => (.error (.config e), state)
  | .ok extractors =>
    Scanner.scanFile ⟨o, extractors, cwd, Path.absolute cwd base⟩ disk state path

/-- Scans files, with the extractors of the options. -/
def scanFiles (o : Options) (disk : Disk) (cwd base : String) (state : ScanState)
    (paths : List String) : Except ScanError ProjectScan × ScanState :=
  match Extractor.checkAll o.extractors with
  | .error e => (.error (.config e), state)
  | .ok extractors =>
    match Scanner.scanEach ⟨o, extractors, cwd, Path.absolute cwd base⟩ disk state {} paths with
    | (.error e, state) => (.error e, state)
    | (.ok sum, state) =>
      ((addNamed o sum.scan).map fun scan => { sum with scan }, state)

end StylePrune
