import StylePrune.Json.Value
import StylePrune.Prune

/-!
# Reports

A report lists every class that content or style sheet names, with what became of it and where it
was found, and the figures of the run. An analysis is the part of it that content alone decides.
-/

namespace StylePrune

/-- What became of a class. -/
inductive ClassStatus where
  | kept
  | removed
  /-- Found in content, but no selector names it. -/
  | detectedOnly
deriving DecidableEq, Repr, Inhabited

def ClassStatus.word : ClassStatus → String
  | kept => "kept"
  | removed => "removed"
  | detectedOnly => "detected-only"

structure ReportEntry where
  name : Text
  status : ClassStatus
  origins : List String
deriving Inhabited

structure ReportStats where
  filesScanned : Nat
  classesDetected : Nat
  classesKept : Nat
  classesRemoved : Nat
  totalRules : Nat
  removedRules : Nat
  keptRules : Nat
  sizeBefore : Nat
  sizeAfter : Nat
  /-- The part of the size that went. -/
  reductionRatio : Float
  durationMs : Float
deriving Inhabited

structure Report where
  generatedAt : String
  cwd : String
  contentGlobs : List String
  stats : ReportStats
  entries : List ReportEntry
  warnings : List String
deriving Inhabited

namespace Report

def version : Nat := 1

/-- A quotient of two counts. -/
def quotient (num den : Nat) : Float := Float.ofNat num / Float.ofNat den

/-- The part of the size that pruning took away; nothing of nothing. -/
def reduction (stats : PruneStats) : Float :=
  if stats.sizeBefore = 0 then 0 else 1 - quotient stats.sizeAfter stats.sizeBefore

/-- Entries in the order of their names, which is kept when one is put in; a name that is there
stays as it is. -/
def insertEntry (entry : ReportEntry) : List ReportEntry → List ReportEntry
  | [] => [entry]
  | other :: rest =>
    if entry.name = other.name then other :: rest
    else if Text.lt entry.name other.name then entry :: other :: rest
    else other :: insertEntry entry rest

def statusOf (result : PruneResult) (name : Text) : ClassStatus :=
  if result.keptClasses.contains name then .kept
  else if result.removedClasses.contains name then .removed
  else .detectedOnly

/-- The entries of the classes that content names, then of those that only selectors name. -/
def entriesOf (origins : Origins) (result : PruneResult) : List ReportEntry :=
  let detected := origins.map fun (name, places) =>
    let name := Text.ofString name
    (⟨name, statusOf result name, Sorted.strings places⟩ : ReportEntry)
  let kept := result.keptClasses.map fun name => (⟨name, .kept, []⟩ : ReportEntry)
  let removed := result.removedClasses.map fun name => (⟨name, .removed, []⟩ : ReportEntry)
  (detected ++ kept ++ removed).foldl (fun entries entry => insertEntry entry entries) []

/-- When and where a run took place, and how long it took. -/
structure Circumstances where
  generatedAt : String
  cwd : String
  contentGlobs : List String
  durationMs : Float

def build (scan : ProjectScan) (result : PruneResult) (run : Circumstances) : Report where
  generatedAt := run.generatedAt
  cwd := run.cwd
  contentGlobs := run.contentGlobs
  stats :=
    { filesScanned := scan.filesScanned
      classesDetected := scan.scan.classes.length
      classesKept := result.keptClasses.length
      classesRemoved := result.removedClasses.length
      totalRules := result.stats.totalRules
      removedRules := result.stats.removedRules
      keptRules := result.stats.keptRules
      sizeBefore := result.stats.sizeBefore
      sizeAfter := result.stats.sizeAfter
      reductionRatio := reduction result.stats
      durationMs := run.durationMs }
  entries := entriesOf scan.scan.origins result
  warnings := scan.scan.warnings

/-- The origins of each class, in order of the classes. -/
def analysis (origins : Origins) : Origins :=
  (origins.map fun (name, places) => (name, Sorted.strings places)).mergeSort
    fun a b => !Sorted.stringLt b.1 a.1

end Report

end StylePrune
