import StylePrune.Project.Context
import StylePrune.Service.Field
import StylePrune.Tally
import StylePrune.Text.Basic

/-!
# The service

The service prunes style sheets by a project that it holds as a context: requests share its scan,
until one drops it. A request for a path that ends in slashes counts as one without them.
-/

namespace StylePrune.Service

/-!
## Counts as text

The counts of the work done, in the text format that monitoring programs read. Of the durations of
pruning, and of the times at which counting began, only the names are given.
-/

/-- How a family counts. -/
inductive FamilyKind where
  | counter
  | histogram
deriving DecidableEq, Repr

/-- A family of counts: its name, what it counts, and its samples by name. -/
structure Family where
  name : String
  help : String
  samples : List (String × Nat) := []
  kind : FamilyKind := .counter

def cacheSamples (name : String) (l : Lookups) : List (String × Nat) :=
  [(name ++ "\x7bcache_type=\"memory\"\x7d", l.inMemory),
    (name ++ "\x7bcache_type=\"persistent\"\x7d", l.persistent)]

def single (name help : String) (count : Nat) : Family :=
  { name, help, samples := [(name ++ "_total", count)] }

def families (t : Tally) : List Family := [
  single "bonsai_files_scanned" "Total number of content files scanned" t.filesScanned,
  { name := "bonsai_scan_cache_hits", help := "Total scan cache hits"
    samples := cacheSamples "bonsai_scan_cache_hits_total" t.hits },
  { name := "bonsai_scan_cache_misses", help := "Total scan cache misses"
    samples := cacheSamples "bonsai_scan_cache_misses_total" t.misses },
  { name := "bonsai_extractor_errors", help := "Total number of custom extractor failures" },
  single "bonsai_rules" "Total number of CSS rules visited by the pruner" t.rules,
  single "bonsai_rules_removed" "Total number of CSS rules removed" t.rulesRemoved,
  { name := "bonsai_prune_duration_seconds", help := "CSS prune duration in seconds"
    kind := .histogram },
  single "bonsai_css_parse_failures"
    "Total number of stylesheets that could not be parsed and were left untouched"
    t.parseFailures]

def typeLine (name kind : String) : String := s!"# TYPE {name} {kind}\n"

def helpLine (name help : String) : String := s!"# HELP {name} {help}\n"

/-- The name under which the samples of a family stand, and the word for their kind. -/
def Family.heading (f : Family) : String × String :=
  match f.kind with
  | .counter => (f.name ++ "_total", "counter")
  | .histogram => (f.name, "histogram")

def Family.text (f : Family) : String :=
  helpLine f.heading.1 f.help ++ typeLine f.heading.1 f.heading.2 ++
    String.join (f.samples.map fun (name, count) => s!"{name} {count}.0\n") ++
    helpLine (f.name ++ "_created") f.help ++ typeLine (f.name ++ "_created") "gauge"

/-- All counts. -/
def metricsText (t : Tally) : String := String.join ((families t).map Family.text)

/-! ## The service -/

inductive Route where
  | health
  | metrics
  | prune
  | scan
  | invalidate
  | scanContent
deriving DecidableEq, Repr

namespace Route

def all : List Route := [health, metrics, prune, scan, invalidate, scanContent]

def path : Route → String
  | health => "/health/live"
  | metrics => "/metrics"
  | prune => "/api/prune"
  | scan => "/api/scan"
  | invalidate => "/api/invalidate"
  | scanContent => "/api/scan/content"

def method : Route → String
  | health | metrics | scan => "GET"
  | prune | invalidate | scanContent => "POST"

/-- The path of a target, without its query. -/
def pathOf (target : String) : String :=
  String.ofList (target.toList.takeWhile fun c => c ≠ '?' && c ≠ '#')

def withoutSlashes (path : String) : String :=
  String.ofList (path.toList.reverse.dropWhile (· = '/')).reverse

/-- The route of a target. -/
def ofTarget? (target : String) : Option Route :=
  all.find? fun r => r.path = withoutSlashes (pathOf target)

end Route

def natJson (n : Nat) : Json := .int n

def pruneStatsJson (s : PruneStats) : Json :=
  .obj [("total_rules", natJson s.totalRules), ("removed_rules", natJson s.removedRules),
    ("kept_rules", natJson s.keptRules), ("original_size", natJson s.sizeBefore),
    ("pruned_size", natJson s.sizeAfter)]

def textsJson (ts : List Text) : Json := .arr (ts.map Json.ofText)

def resultJson (r : RunResult) : Json :=
  .obj [("css", .str r.pruned.css), ("stats", pruneStatsJson r.pruned.stats),
    ("removed_classes", textsJson r.pruned.removedClasses),
    ("kept_classes", textsJson r.pruned.keptClasses),
    ("report", Report.statsJson r.report.stats), ("warnings", Json.strings r.report.warnings)]

def patternsJson (ps : List Regex.Pattern) : Json := Json.strings (ps.map Regex.Pattern.written)

def projectScanJson (s : ProjectScan) : Json :=
  .obj [("files_scanned", natJson s.filesScanned), ("class_count", natJson s.scan.classes.length),
    ("classes", Json.strings s.scan.classes),
    ("dynamic_patterns", patternsJson s.scan.dynamicPatterns),
    ("warnings", Json.strings s.scan.warnings)]

def scanJson (s : Scan) : Json :=
  .obj [("classes", Json.strings s.classes), ("dynamic_patterns", patternsJson s.dynamicPatterns),
    ("class_origins", Report.analysisJson s.origins), ("warnings", Json.strings s.warnings)]

def cacheJson (c : ScanCache) : Json :=
  .obj [("cache_type", .str (if c.isPersistent then "persistent" else "memory")),
    ("entries", natJson c.entries.length), ("hits", natJson c.hits), ("misses", natJson c.misses)]

/-- What requests change. -/
structure State where
  context : Context
  workspace : Workspace
deriving Inhabited

/-- The surroundings of a request, and the seconds of the clock. -/
structure Moment where
  here : Surroundings
  seconds : Float

def pruneStyles (m : Moment) (s : State) (r : PruneRequest) : Response × State :=
  match s.context.scan m.here.cwd s.workspace with
  | (.error _, context, workspace) => (.failure, ⟨context, workspace⟩)
  | (.ok _, context, workspace) =>
    match r.css.toString? with
    | .error _ => (.failure, ⟨context, workspace⟩)
    | .ok css =>
      match context.prune m.here css r.minify workspace with
      | (.error _, context, workspace) => (.failure, ⟨context, workspace⟩)
      | (.ok result, context, workspace) => (.ofJson (resultJson result), ⟨context, workspace⟩)

def showScan (m : Moment) (s : State) : Response × State :=
  match s.context.scan m.here.cwd s.workspace with
  | (.error _, context, workspace) => (.failure, ⟨context, workspace⟩)
  | (.ok scan, context, workspace) => (.ofJson (projectScanJson scan), ⟨context, workspace⟩)

/-- Whether an answer can name a label in its origins. -/
def canName (label : Option Text) : Bool := label.all fun t => t.toString?.isOk

/-- Scans a text by the options of the project. A surrogate is no part of any class, and counts as
any other sign. -/
def scanText (c : Context) (r : ScanRequest) : Response :=
  let label := r.label.map Text.toStringLossy
  match scanContent c.options.toOptions r.content.toStringLossy label c.base with
  | .ok scan =>
    if canName r.label || scan.origins.isEmpty then .ofJson (scanJson scan) else .failure
  | .error _ => .failure

/-- Answers a request on a route. -/
def answer (m : Moment) (s : State) (route : Route) (body : Option String) : Response × State :=
  match route with
  | .health =>
    (.ofJson (.obj [("status", .str "alive"), ("timestamp", .float m.seconds)]), s)
  | .metrics => (⟨200, .text (metricsText s.workspace.tally)⟩, s)
  | .prune =>
    match PruneRequest.read body with
    | .error response => (response, s)
    | .ok request => pruneStyles m s request
  | .scan => showScan m s
  | .invalidate =>
    let context := s.context.invalidate
    (.ofJson (.obj [("ok", .bool true), ("cache", cacheJson context.cache)]), { s with context })
  | .scanContent =>
    match ScanRequest.read body with
    | .error response => (response, s)
    | .ok request => (scanText s.context request, s)

/-- Answers a request. -/
def handle (m : Moment) (s : State) (r : Request) : Response × State :=
  match Route.ofTarget? r.target with
  | none => (if r.method = "HEAD" then Response.notFound.withoutBody else .notFound, s)
  | some route =>
    if r.method = route.method then answer m s route r.body
    else (if r.method = "HEAD" then Response.notAllowed.withoutBody else .notAllowed, s)

end StylePrune.Service
