import StylePrune.Glob.Resolve
import StylePrune.Project.Options
import StylePrune.Project.Outputs
import StylePrune.Project.Scanner

/-!
# Projects

A context holds a project for several uses: its content is scanned when it is first needed, and that
scan serves until it is dropped. The cache stays, so that a later scan reads only the files that
changed. A run is one use of a context of its own.
-/

namespace StylePrune

/-- What runs share: the files and the counts. -/
structure Workspace where
  disk : Disk
  tally : Tally := {}
deriving Inhabited

/-- Where and when a program runs, and how long a run takes. -/
structure Surroundings where
  /-- The working directory, an absolute path. -/
  cwd : String
  time : String
  durationMs : Float

/-- A pruned style sheet with the report on it. -/
structure RunResult where
  pruned : PruneResult
  report : Report
deriving Inhabited

/-- Why a run ends without a result. -/
inductive RunError where
  | scan (error : ScanError)
  /-- A style sheet is not UTF-8. -/
  | styles (fault : Utf8.Fault)
  | prune (error : PruneError)
  /-- The report page holds a surrogate. -/
  | page (fault : Text.Unencodable)

def RunError.message : RunError → String
  | scan e => e.message
  | styles fault => fault.message
  | prune e => e.message
  | page fault => (PruneError.unencodable fault).message

structure Context where
  options : ProjectOptions
  /-- The directory of the project, an absolute path. -/
  base : String
  cache : ScanCache
  summary : Option ProjectScan := none
deriving Inhabited

namespace Context

def baseOf (cwd : String) (o : ProjectOptions) : String :=
  Path.absolute cwd ((nonEmpty? o.directory).getD cwd)

/-- The cache that options ask for. -/
def cacheOf (disk : Disk) (base : String) (o : ProjectOptions) : ScanCache :=
  match nonEmpty? o.cacheDirectory with
  | some directory => ScanCache.ofFile disk (CacheFile.pathIn base (Path.join base directory))
  | none => {}

/-- A context with a cache of its own. -/
def ofOptions (disk : Disk) (cwd : String) (o : ProjectOptions) : Context :=
  let base := baseOf cwd o
  ⟨o, base, cacheOf disk base o, none⟩

/-- A context with a given cache. -/
def withCache (cwd : String) (o : ProjectOptions) (cache : ScanCache) : Context :=
  ⟨o, baseOf cwd o, cache, none⟩

/-- Scans the content of the project, saves the cache and writes the analysis. -/
def scanAfresh (c : Context) (cwd : String) (w : Workspace) :
    Except ScanError ProjectScan × Context × Workspace :=
  let files := Glob.resolve w.disk cwd c.base c.options.content
  match scanFiles c.options.toOptions w.disk cwd c.base ⟨some c.cache, w.tally⟩ files with
  | (.error e, state) =>
    (.error e, { c with cache := state.cache.getD c.cache }, { w with tally := state.tally })
  | (.ok scan, state) =>
    let cache := state.cache.getD c.cache
    let disk := Report.writeAnalysis (cache.save w.disk) c.base c.options.analysis scan.scan.origins
    (.ok scan, { c with cache, summary := some scan }, ⟨disk, state.tally⟩)

/-- The scan of the project, made if there is none. -/
def scan (c : Context) (cwd : String) (w : Workspace) :
    Except ScanError ProjectScan × Context × Workspace :=
  match c.summary with
  | some scan => (.ok scan, c, w)
  | none => c.scanAfresh cwd w

/-- Drops the scan. -/
def invalidate (c : Context) : Context := { c with summary := none }

/-- Prunes a style sheet by a scan, and writes the reports on it. -/
def pruneWith (c : Context) (here : Surroundings) (scan : ProjectScan) (css : String)
    (minify : Bool) (w : Workspace) : Except RunError RunResult × Workspace :=
  let o := { c.options.toOptions with minify }
  match pruneCss css scan.scan o.pruning with
  | .error e => (.error (.prune e), w)
  | .ok pruned =>
    let report := Report.build scan pruned ⟨here.time, c.base, c.options.content, here.durationMs⟩
    let (written, disk) := report.writeAll w.disk c.base c.options.reports
    let w : Workspace := ⟨disk, w.tally.pruned pruned⟩
    match written with
    | .error fault => (.error (.page fault), w)
    | .ok () => (.ok ⟨pruned, report⟩, w)

/-- Prunes a style sheet by the scan of the project. What is given for `minify` takes the place of
the option, this once. -/
def prune (c : Context) (here : Surroundings) (css : String) (minify : Option Bool)
    (w : Workspace) : Except RunError RunResult × Context × Workspace :=
  match c.scan here.cwd w with
  | (.error e, c, w) => (.error (.scan e), c, w)
  | (.ok scan, c, w) =>
    let (result, w) := c.pruneWith here scan css (minify.getD c.options.minify) w
    (result, c, w)

end Context

/-- Runs once on a project: scans its content, and prunes its style sheets. -/
def run (here : Surroundings) (o : ProjectOptions) (w : Workspace) :
    Except RunError RunResult × Workspace :=
  match (Context.ofOptions w.disk here.cwd o).scan here.cwd w with
  | (.error e, _, w) => (.error (.scan e), w)
  | (.ok _, c, w) =>
    match o.css.read w.disk c.base with
    | .error fault => (.error (.styles fault), w)
    | .ok css =>
      let (result, _, w) := c.prune here css none w
      (result, w)

end StylePrune
