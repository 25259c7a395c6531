import StylePrune.Project.Context
import StylePrune.Proofs.Cache.Transparency

/-!
# A context answers by the files it scanned

Style sheets are pruned with a context while content files change and the scan is dropped now and
then. Every answer is that of a run of its own on the files as they stood when the scan in hand was
made (`Session.prune_agrees`), whatever the cache of the context holds from before. As for the cache
alone, what a file holds is taken as given by its absolute path and status.
-/

namespace StylePrune

open Caching (Setting Faithful)

/-- A context in use: the files and counts that it shares, and the files as they stood when its scan
was made. -/
structure Session where
  context : Context
  workspace : Workspace
  seen : Option Disk := none

namespace Session

/-- The files that an answer goes by: those of the scan in hand, or else those that are there. -/
def reference (t : Session) : Disk := t.seen.getD t.workspace.disk

/-- The session after a call that left the context and the workspace so. -/
def after (t : Session) (context : Context) (workspace : Workspace) : Session :=
  ⟨context, workspace, context.summary.map fun _ => t.reference⟩

def scan (t : Session) (cwd : String) : Except ScanError ProjectScan × Session :=
  let (answer, context, workspace) := t.context.scan cwd t.workspace
  (answer, t.after context workspace)

def prune (t : Session) (here : Surroundings) (css : String) (minify : Option Bool) :
    Except RunError RunResult × Session :=
  let (answer, context, workspace) := t.context.prune here css minify t.workspace
  (answer, t.after context workspace)

def invalidate (t : Session) : Session := ⟨t.context.invalidate, t.workspace, none⟩

def edit (t : Session) (disk : Disk) : Session := { t with workspace := { t.workspace with disk } }

end Session

/-- The options of the run that an answer is compared with. -/
def ProjectOptions.forStyles (o : ProjectOptions) (css : String) (minify : Option Bool) :
    ProjectOptions :=
  { o with css := .text css, minify := minify.getD o.minify }

/-- A scan on these files can be relied on: they hold what their paths and status say, and what is
in the cache file that the options name comes from scans. -/
structure Vouched (s : Setting) (o : ProjectOptions) (disk : Disk) : Prop where
  describes : s.Describes disk
  saved : Faithful s (Context.cacheOf disk (Context.baseOf s.cwd o) o).entries

/-- What can happen in a session. Files change in any way, as long as those that are scanned can be
relied on when they are. -/
inductive SessionStep (s : Setting) (o : ProjectOptions) (t : Session) : Session → Prop where
  | prune {here : Surroundings} (hcwd : here.cwd = s.cwd) (css : String) (minify : Option Bool)
      (h : t.context.summary = none → Vouched s o t.workspace.disk) :
    SessionStep s o t (t.prune here css minify).2
  | scan (h : t.context.summary = none → Vouched s o t.workspace.disk) :
    SessionStep s o t (t.scan s.cwd).2
  | invalidate : SessionStep s o t t.invalidate
  | edit (disk : Disk) : SessionStep s o t (t.edit disk)

/-- The sessions that are reached from a new context with a cache of scans. -/
inductive Session.Reached (s : Setting) (o : ProjectOptions) : Session → Prop where
  | start {cache : ScanCache} (h : Faithful s cache.entries) (w : Workspace) :
    Reached s o ⟨⟨o, Context.baseOf s.cwd o, cache, none⟩, w, none⟩
  | step {t t' : Session} (h : Reached s o t) (hstep : SessionStep s o t t') : Reached s o t'

/-- A report without the time and the duration of its run. -/
def Report.timeless (r : Report) : Report :=
  { r with generatedAt := "", stats := { r.stats with durationMs := 0 } }

/-- An answer tells a result, or that the page of its report is asked for and holds a surrogate.
The latter is found out only if the file of the page can be opened. -/
def Tells (o : ProjectOptions) (answer : Except RunError RunResult) (r : RunResult) : Prop :=
  answer = .ok r ∨
    ∃ fault, o.reports.html.name? Report.pageFile ≠ none ∧
      (Report.Page.render r.report).toString? = .error fault ∧ answer = .error (.page fault)

/-- Two answers are the same error, or tell results that are the same but for the time and the
duration of the run. -/
inductive Agree (o : ProjectOptions) (a b : Except RunError RunResult) : Prop where
  | scan (e : ScanError) (ha : a = .error (.scan e)) (hb : b = .error (.scan e))
  | prune (e : PruneError) (ha : a = .error (.prune e)) (hb : b = .error (.prune e))
  | result (r r' : RunResult) (hpruned : r.pruned = r'.pruned)
      (hreport : r.report.timeless = r'.report.timeless) (ha : Tells o a r) (hb : Tells o b r')

variable {s : Setting} {o : ProjectOptions} {disk : Disk} {w : Workspace} {c c' : Context}

/-! ## Scanning -/

/-- The scan of files without a cache. -/
def freshScan (s : Setting) (o : ProjectOptions) (disk : Disk) : Except ScanError ProjectScan :=
  let base := Context.baseOf s.cwd o
  (scanFiles o.toOptions disk s.cwd base ⟨none, {}⟩ (Glob.resolve disk s.cwd base o.content)).1

theorem scanEach_minify (scanner : Scanner) (minify : Bool) (disk : Disk) (paths : List String) :
    ∀ (state : ScanState) (sum : ProjectScan),
      { scanner with options := { scanner.options with minify } }.scanEach disk state sum paths =
        scanner.scanEach disk state sum paths := by
  induction paths with
  | nil => exact fun _ _ => rfl
  | cons path rest ih =>
    intro state sum
    have hfile : { scanner with options := { scanner.options with minify } }.scanFile disk state
        path = scanner.scanFile disk state path := rfl
    rw [Scanner.scanEach, Scanner.scanEach, hfile]
    rcases scanner.scanFile disk state path with ⟨_ | _ | _, _⟩
    · rfl
    · exact ih ..
    · exact ih ..

theorem scanFiles_minify (o : Options) (minify : Bool) (disk : Disk) (cwd base : String)
    (state : ScanState) (paths : List String) :
    scanFiles { o with minify } disk cwd base state paths =
      scanFiles o disk cwd base state paths := by
  cases hcheck : Extractor.checkAll o.extractors with
  | error e => simp only [scanFiles, hcheck]
  | ok extractors =>
    have heach := scanEach_minify ⟨o, extractors, cwd, Path.absolute cwd base⟩ minify disk paths
      state {}
    simp only at heach
    simp only [scanFiles, hcheck, heach]
    rfl

/-- Scanning does not look at style sheets or at how they are written. -/
theorem freshScan_forStyles (css : String) (minify : Option Bool) :
    freshScan s (o.forStyles css minify) disk = freshScan s o disk :=
  congrArg Prod.fst (scanFiles_minify ..)

/-- What scanning afresh does to a context that has no scan. -/
structure ScannedAfresh (s : Setting) (c : Context) (disk : Disk)
    (call : Except ScanError ProjectScan × Context × Workspace) : Prop where
  answer : call.1 = freshScan s c.options disk
  options : call.2.1.options = c.options
  base : call.2.1.base = c.base
  cache : Faithful s call.2.1.cache.entries
  summary : call.2.1.summary = call.1.toOption

theorem scanAfresh_spec (hmarked : s.Marked) (hbase : c.base = Context.baseOf s.cwd c.options)
    (huses : s.Uses c.base) (hcache : Faithful s c.cache.entries) (hsummary : c.summary = none)
    (hdisk : s.Describes w.disk) : ScannedAfresh s c w.disk (c.scanAfresh s.cwd w) := by
  obtain ⟨hanswer, cache, hstate, hfaithful, -⟩ := Caching.scanFiles_transparent
    (o := c.options.toOptions) hmarked hdisk huses hcache w.tally {}
    (Glob.resolve w.disk s.cwd c.base c.options.content)
  rw [Context.scanAfresh]
  generalize scanFiles c.options.toOptions w.disk s.cwd c.base ⟨some c.cache, w.tally⟩
    (Glob.resolve w.disk s.cwd c.base c.options.content) = call at hanswer hstate
  have hfresh : call.1 = freshScan s c.options w.disk := by rw [hanswer, hbase, freshScan]
  obtain ⟨answer, state⟩ := call
  cases answer with
  | error e =>
    exact ⟨hfresh, rfl, rfl, by simpa [show state.cache = some cache from hstate], hsummary⟩
  | ok scan =>
    exact ⟨hfresh, rfl, rfl, by simpa [show state.cache = some cache from hstate], rfl⟩

/-! ## Pruning -/

theorem writePage_fault {directory : String} {output : Output} {page : Text}
    {fault : Text.Unencodable}
    (h : (Report.writePage disk directory output page).1 = .error fault) :
    output.name? Report.pageFile ≠ none ∧ page.toString? = .error fault := by
  revert h
  fun_cases Report.writePage disk directory output page with
  | case1 | case2 | case4 => exact fun h => by cases h
  | case3 name hname path fault' hpage disk' hwrite =>
    intro h
    obtain rfl := Except.error.inj h
    exact ⟨by rw [hname]; exact Option.some_ne_none name, hpage⟩

theorem writeAll_fault {r : Report} {directory : String} {outputs : ReportOutputs}
    {fault : Text.Unencodable} (h : (r.writeAll disk directory outputs).1 = .error fault) :
    outputs.html.name? Report.pageFile ≠ none ∧
      (Report.Page.render r).toString? = .error fault := by
  rw [Report.writeAll] at h
  have hpage := @writePage_fault (Report.writeOutput disk directory outputs.json Report.dataFile
    r.toJson.pretty) directory outputs.html (Report.Page.render r)
  generalize Report.writePage _ directory outputs.html (Report.Page.render r) = call at h hpage
  rcases call with ⟨_ | _, _⟩
  · exact hpage h
  · cases h

/-- The report of a context on a result. -/
def Context.reportOn (c : Context) (here : Surroundings) (scan : ProjectScan)
    (pruned : PruneResult) : Report :=
  Report.build scan pruned ⟨here.time, c.base, c.options.content, here.durationMs⟩

theorem pruneWith_error {here : Surroundings} {scan : ProjectScan} {css : String} {minify : Bool}
    {e : PruneError} (h : pruneCss css scan.scan
      { c.options.toOptions with minify }.pruning = .error e) :
    (c.pruneWith here scan css minify w).1 = .error (.prune e) := by
  rw [Context.pruneWith]
  simp only [h]

theorem pruneWith_tells (here : Surroundings) {scan : ProjectScan} {css : String} {minify : Bool}
    {pruned : PruneResult} (h : pruneCss css scan.scan
      { c.options.toOptions with minify }.pruning = .ok pruned) :
    Tells c.options (c.pruneWith here scan css minify w).1
      ⟨pruned, c.reportOn here scan pruned⟩ := by
  rw [Context.pruneWith]
  simp only [h]
  have hfault := @writeAll_fault w.disk (c.reportOn here scan pruned) c.base c.options.reports
  rw [Context.reportOn] at hfault ⊢
  generalize Report.writeAll _ w.disk c.base c.options.reports = call at hfault
  rcases call with ⟨fault | _, _⟩
  · exact .inr ⟨fault, (hfault rfl).1, (hfault rfl).2, rfl⟩
  · exact .inl rfl

theorem pruneWith_ne_scan {here : Surroundings} {scan : ProjectScan} {css : String} {minify : Bool}
    {e : ScanError} : (c.pruneWith here scan css minify w).1 ≠ .error (.scan e) := by
  intro hscan
  cases h : pruneCss css scan.scan { c.options.toOptions with minify }.pruning with
  | error e' =>
    cases (pruneWith_error h).symm.trans hscan
  | ok pruned =>
    rcases pruneWith_tells here (w := w) h with hok | ⟨fault, -, -, hpage⟩
    · cases hok.symm.trans hscan
    · cases hpage.symm.trans hscan

/-- Pruning by one scan gives answers that agree, with whatever files and counts. -/
theorem pruneWith_agree {css : String} {minify : Option Bool}
    (hoptions : c'.options = c.options.forStyles css minify) (hbase : c'.base = c.base)
    (here there : Surroundings) (scan : ProjectScan) (w w' : Workspace) :
    Agree c.options (c.pruneWith here scan css (minify.getD c.options.minify) w).1
      (c'.pruneWith there scan css c'.options.minify w').1 := by
  cases h : pruneCss css scan.scan
      { c.options.toOptions with minify := minify.getD c.options.minify }.pruning with
  | error e =>
    refine .prune e (pruneWith_error h) (pruneWith_error ?_)
    rw [hoptions]
    exact h
  | ok pruned =>
    have hthere := @pruneWith_tells w' c' there scan css c'.options.minify pruned
    rw [hoptions] at hthere ⊢
    refine .result ⟨pruned, c.reportOn here scan pruned⟩ ⟨pruned, c'.reportOn there scan pruned⟩ rfl
      ?_ (pruneWith_tells _ h) (hthere h)
    simp only [Context.reportOn, hoptions, hbase]
    rfl

/-! ## Sessions -/

theorem Context.scan_some {scan : ProjectScan} (h : c.summary = some scan) (cwd : String) :
    c.scan cwd w = (.ok scan, c, w) := by
  rw [Context.scan, h]

theorem Context.scan_none (h : c.summary = none) (cwd : String) :
    c.scan cwd w = c.scanAfresh cwd w := by
  rw [Context.scan, h]

namespace Session

/-- What holds between any two calls: a scan in hand is that of the files it was made from, and the
cache holds scans. -/
structure Sound (s : Setting) (o : ProjectOptions) (t : Session) : Prop where
  options : t.context.options = o
  base : t.context.base = Context.baseOf s.cwd o
  cache : Faithful s t.context.cache.entries
  unseen : t.context.summary = none → t.seen = none
  seen : ∀ scan, t.context.summary = some scan → ∃ disk, t.seen = some disk ∧ Vouched s o disk ∧
    freshScan s o disk = .ok scan

variable {t t' : Session}

theorem Sound.congr (h : Sound s o t) (hcontext : t'.context = t.context)
    (hseen : t'.seen = t.seen) : Sound s o t' where
  options := hcontext ▸ h.options
  base := hcontext ▸ h.base
  cache := hcontext ▸ h.cache
  unseen := by rw [hcontext, hseen]; exact h.unseen
  seen := by rw [hcontext, hseen]; exact h.seen

/-- What a scan of a session gives and leaves behind. -/
structure Scanned (s : Setting) (o : ProjectOptions) (t : Session)
    (call : Except ScanError ProjectScan × Session) : Prop where
  answer : call.1 = freshScan s o t.reference
  vouched : Vouched s o t.reference
  summary : call.2.context.summary = (freshScan s o t.reference).toOption
  sound : Sound s o call.2

/-- The scan of a session is that of the files it goes by, and it becomes the one in hand. -/
theorem Sound.scan (hmarked : s.Marked) (huses : s.Uses (Context.baseOf s.cwd o))
    (h : Sound s o t) (hdisk : t.context.summary = none → Vouched s o t.workspace.disk) :
    Scanned s o t (t.scan s.cwd) := by
  cases hsummary : t.context.summary with
  | some scan =>
    obtain ⟨disk, hseen, hvouched, hscan⟩ := h.seen scan hsummary
    have hreference : t.reference = disk := by rw [reference, hseen, Option.getD_some]
    have hcall : t.scan s.cwd = (.ok scan, t) := by
      rw [Session.scan, Context.scan_some hsummary]
      simp only [after, hsummary, Option.map_some, hreference, ← hseen]
    rw [hcall]
    refine ⟨?_, ?_, ?_, h⟩ <;> rw [hreference]
    · exact hscan.symm
    · exact hvouched
    · rw [hsummary, hscan]
      rfl
  | none =>
    have hreference : t.reference = t.workspace.disk := by
      rw [reference, h.unseen hsummary, Option.getD_none]
    have hvouched := hdisk hsummary
    obtain ⟨hanswer, hoptions, hbase, hcache, hsummary'⟩ := scanAfresh_spec hmarked
      (by rw [h.options, h.base]) (h.base ▸ huses) h.cache hsummary hvouched.describes
    rw [h.options] at hanswer hoptions
    rw [h.base] at hbase
    rw [hanswer] at hsummary'
    rw [Session.scan, Context.scan_none hsummary]
    refine ⟨hreference ▸ hanswer, hreference ▸ hvouched, hreference ▸ hsummary',
      ⟨hoptions, hbase, hcache, fun hnone => ?_, fun scan hsome => ?_⟩⟩
    · simp only [after] at hnone ⊢
      rw [hnone, Option.map_none]
    · simp only [after] at hsome ⊢
      refine ⟨t.workspace.disk, by rw [hsome, Option.map_some, hreference], hvouched, ?_⟩
      rw [hsummary'] at hsome
      cases hfresh : freshScan s o t.workspace.disk with
      | error e => rw [hfresh] at hsome; cases hsome
      | ok found => rw [hfresh] at hsome; rw [Option.some.inj hsome]

/-- Pruning leaves the context as scanning does. -/
theorem prune_context (here : Surroundings) (css : String) (minify : Option Bool) :
    (t.prune here css minify).2.context = (t.scan here.cwd).2.context ∧
      (t.prune here css minify).2.seen = (t.scan here.cwd).2.seen := by
  rw [Session.prune, Session.scan, Context.prune]
  rcases t.context.scan here.cwd t.workspace with ⟨_ | _, _, _⟩ <;> exact ⟨rfl, rfl⟩

theorem prune_error {here : Surroundings} {css : String} {minify : Option Bool} {e : ScanError} :
    (t.prune here css minify).1 = .error (.scan e) ↔ (t.scan here.cwd).1 = .error e := by
  rw [Session.prune, Session.scan, Context.prune]
  rcases t.context.scan here.cwd t.workspace with ⟨e' | scan, c, w⟩
  · simp only [Except.error.injEq, RunError.scan.injEq]
  · exact iff_of_false pruneWith_ne_scan (fun h => by cases h)

theorem prune_ok {here : Surroundings} {css : String} {minify : Option Bool} {scan : ProjectScan}
    (h : (t.scan here.cwd).1 = .ok scan) : ∃ w, (t.prune here css minify).1 =
      ((t.scan here.cwd).2.context.pruneWith here scan css
        (minify.getD (t.scan here.cwd).2.context.options.minify) w).1 := by
  revert h
  rw [Session.prune, Session.scan, Context.prune]
  rcases t.context.scan here.cwd t.workspace with ⟨e' | found, c, w⟩ <;> intro h
  · cases h
  · obtain rfl := Except.ok.inj h
    exact ⟨w, rfl⟩

/-- One step keeps a session sound. -/
theorem Sound.step (hmarked : s.Marked) (huses : s.Uses (Context.baseOf s.cwd o))
    (h : Sound s o t) (hstep : SessionStep s o t t') : Sound s o t' := by
  cases hstep with
  | prune hcwd css minify hdisk =>
    obtain ⟨hcontext, hseen⟩ := prune_context (t := t) _ css minify
    rw [hcwd] at hcontext hseen
    exact (h.scan hmarked huses hdisk).sound.congr hcontext hseen
  | scan hdisk => exact (h.scan hmarked huses hdisk).sound
  | invalidate => exact ⟨h.options, h.base, h.cache, fun _ => rfl, fun _ hsome => by cases hsome⟩
  | edit disk => exact h.congr rfl rfl

theorem Reached.sound (hmarked : s.Marked) (huses : s.Uses (Context.baseOf s.cwd o))
    (h : Reached s o t) : Sound s o t := by
  induction h with
  | start hcache w => exact ⟨rfl, rfl, hcache, fun _ => rfl, fun _ hsome => by cases hsome⟩
  | step _ hstep ih => exact ih.step hmarked huses hstep

end Session

/-! ## Runs -/

theorem baseOf_forStyles (cwd : String) (o : ProjectOptions) (css : String)
    (minify : Option Bool) :
    Context.baseOf cwd (o.forStyles css minify) = Context.baseOf cwd o := by
  simp only [Context.baseOf, ProjectOptions.forStyles]

theorem cacheOf_forStyles (disk : Disk) (base : String) (o : ProjectOptions) (css : String)
    (minify : Option Bool) :
    Context.cacheOf disk base (o.forStyles css minify) = Context.cacheOf disk base o := by
  simp only [Context.cacheOf, ProjectOptions.forStyles]

/-- A run on a text gives what the scan of the files decides. -/
theorem run_eq (hmarked : s.Marked) (huses : s.Uses (Context.baseOf s.cwd o)) (css : String)
    (minify : Option Bool) (hvouched : Vouched s o w.disk) {there : Surroundings}
    (hcwd : there.cwd = s.cwd) :
    (∃ e, freshScan s o w.disk = .error e ∧
        (run there (o.forStyles css minify) w).1 = .error (.scan e)) ∨
      ∃ scan, ∃ c : Context, ∃ w', freshScan s o w.disk = .ok scan ∧
        c.options = o.forStyles css minify ∧ c.base = Context.baseOf s.cwd o ∧
        (run there (o.forStyles css minify) w).1 =
          (c.pruneWith there scan css c.options.minify w').1 := by
  obtain ⟨c, hc⟩ : ∃ c, Context.ofOptions w.disk s.cwd (o.forStyles css minify) = c := ⟨_, rfl⟩
  have hoptions : c.options = o.forStyles css minify := by rw [← hc, Context.ofOptions]
  have hbase : c.base = Context.baseOf s.cwd o := by
    rw [← hc, ← baseOf_forStyles s.cwd o css minify, Context.ofOptions]
  have hcache : c.cache = Context.cacheOf w.disk (Context.baseOf s.cwd o) o := by
    rw [← hc, ← baseOf_forStyles s.cwd o css minify, ← cacheOf_forStyles _ _ o css minify,
      Context.ofOptions]
  have hsummary : c.summary = none := by rw [← hc, Context.ofOptions]
  have hspec := scanAfresh_spec hmarked (by rw [hoptions, baseOf_forStyles, hbase]) (hbase ▸ huses)
    (hcache ▸ hvouched.saved) hsummary hvouched.describes
  rw [run, hcwd, hc, Context.scan_none hsummary]
  generalize Context.scanAfresh _ s.cwd w = call at hspec
  obtain ⟨hanswer, hoptions', hbase', -, hsummary'⟩ := hspec
  rw [hoptions] at hanswer hoptions'
  rw [freshScan_forStyles] at hanswer
  rw [hbase] at hbase'
  obtain ⟨answer, c, w'⟩ := call
  cases answer with
  | error e => exact .inl ⟨e, hanswer.symm, rfl⟩
  | ok scan =>
    refine .inr ⟨scan, c, w', hanswer.symm, hoptions', hbase', ?_⟩
    have hcss : (o.forStyles css minify).css.read w'.disk c.base = .ok css := rfl
    simp only [hcss, Context.prune, Context.scan_some (show c.summary = some scan from hsummary'),
      Option.getD_none]

/-- Whatever was done before with a context, pruning gives the answer of a run on the files as they
stood when the scan in hand was made. It leaves the options and a scan as they are, and a scan that
fails leaves none behind. -/
theorem Session.prune_agrees (hmarked : s.Marked) (huses : s.Uses (Context.baseOf s.cwd o))
    {t : Session} (ht : Reached s o t)
    (hdisk : t.context.summary = none → Vouched s o t.workspace.disk)
    (here there : Surroundings) (hhere : here.cwd = s.cwd) (hthere : there.cwd = s.cwd)
    (css : String) (minify : Option Bool) (tally : Tally) :
    Agree o (t.prune here css minify).1
        (run there (o.forStyles css minify) ⟨t.reference, tally⟩).1 ∧
      (t.prune here css minify).2.context.options = t.context.options ∧
      (t.prune here css minify).2.context.base = t.context.base ∧
      (∀ scan, t.context.summary = some scan →
        (t.prune here css minify).2.context.summary = some scan) ∧
      (∀ e, (t.scan s.cwd).1 = .error e → (t.scan s.cwd).2.context.summary = none) ∧
      ∀ e, (t.prune here css minify).1 = .error (.scan e) →
        (t.prune here css minify).2.context.summary = none := by
  have hsound := ht.sound hmarked huses
  obtain ⟨hanswer, hvouched, hsummary, hafter⟩ := hsound.scan hmarked huses hdisk
  obtain ⟨hcontext, -⟩ := prune_context (t := t) here css minify
  have herror := fun e => @prune_error t here css minify e
  have hok := fun scan => @prune_ok t here css minify scan
  rw [hhere] at hcontext herror hok
  have hagree : Agree o (t.prune here css minify).1
      (run there (o.forStyles css minify) ⟨t.reference, tally⟩).1 := by
    rcases run_eq hmarked huses css minify (w := ⟨t.reference, tally⟩) hvouched hthere with
      ⟨e, hfresh, hrun⟩ | ⟨scan, c, w, hfresh, hoptions, hbase, hrun⟩
    · exact .scan e ((herror e).2 (hanswer.trans hfresh)) hrun
    · obtain ⟨w', hprune⟩ := hok scan (hanswer.trans hfresh)
      rw [hprune, hrun, ← hafter.options]
      refine pruneWith_agree ?_ ?_ here there scan w' w
      · rw [hafter.options, hoptions]
      · rw [hafter.base, hbase]
  rw [hcontext, hafter.options, hafter.base, hsound.options, hsound.base, hsummary]
  refine ⟨hagree, rfl, rfl, fun scan hscan => ?_, fun e he => ?_, fun e he => ?_⟩
  · obtain ⟨disk, hseen, -, hfresh⟩ := hsound.seen scan hscan
    rw [reference, hseen, Option.getD_some, hfresh]
    rfl
  · rw [← hanswer, he]
    rfl
  · rw [← hanswer, (herror e).1 he]
    rfl

/-! ## A page that is edited -/

/-- Files that hold what their status says, on a disk without other files, are described. -/
theorem describes_of_files (hfiles : ∀ e ∈ disk.files, ∀ path,
      s.contents path ⟨e.2.modified, e.2.bytes.length⟩ =
        some (String.ofList (Utf8.plainLines (Utf8.decodeLossy e.2.bytes))))
    (hdirectory : ∀ path, s.contents path ⟨0, 4096⟩ = none) : s.Describes disk := by
  intro path status hstatus
  have hread : disk.readLossy path = (disk.file path).map fun f =>
      String.ofList (Utf8.plainLines (Utf8.decodeLossy f.bytes)) := by
    rw [Disk.readLossy]
    cases disk.file path <;> rfl
  rw [Disk.status?] at hstatus
  rw [hread]
  cases hfile : disk.file path with
  | error fault =>
    rw [hfile] at hstatus
    cases fault with
    | isDirectory =>
      obtain rfl := Option.some.inj hstatus
      exact (hdirectory _).symm
    | notFound | notDirectory | «exists» => cases hstatus
  | ok f =>
    rw [hfile] at hstatus
    obtain rfl := Option.some.inj hstatus
    rw [Disk.file] at hfile
    cases hplace : disk.locate path with
    | error fault => rw [hplace] at hfile; cases hfile
    | ok place =>
      simp only [hplace, bind, Except.bind] at hfile
      cases hentry : disk.fileAt? place with
      | none => rw [hentry] at hfile; cases hfile
      | some g =>
        rw [hentry] at hfile
        obtain rfl := Except.ok.inj hfile
        obtain ⟨before, after, hsplit, -⟩ := List.lookup_eq_some_iff.1 hentry
        exact (hfiles (place, g) (hsplit ▸ List.mem_append_right _ List.mem_cons_self) _).symm

namespace EditedPage

/-- A page that names one class. -/
def page (name : String) (modified : Nat) : File :=
  ⟨Utf8.encode ("<p class='" ++ name ++ "'>"), modified⟩

/-- A project of one page. -/
def project (page : File) : Disk :=
  { files := [(["p", "i.html"], page)], directories := [["p"]], clock := 9 }

def options : ProjectOptions := { content := ["i.html"] }

def here : Surroundings := ⟨"/p", "", 0⟩

def pages : List File := [page "a" 1, page "b" 2]

def textOf (status : FileStatus) : Option String :=
  (pages.find? fun f => f.modified = status.modified ∧ f.bytes.length = status.size).map fun f =>
    String.ofList (Utf8.plainLines (Utf8.decodeLossy f.bytes))

def setting : Setting where
  cwd := "/p"
  directories d := d = "/p"
  contents _ := textOf

theorem marked : setting.Marked := by
  rintro a b rfl rfl -
  rfl

theorem uses : setting.Uses (Context.baseOf "/p" options) := by
  show Path.absolute "/p" (Context.baseOf "/p" options) = "/p"
  decide +kernel

theorem textOf_page : ∀ f ∈ pages, textOf ⟨f.modified, f.bytes.length⟩ =
    some (String.ofList (Utf8.plainLines (Utf8.decodeLossy f.bytes))) := by
  decide +kernel

theorem textOf_directory : textOf ⟨0, 4096⟩ = none := by decide +kernel

theorem vouched {f : File} (h : f ∈ pages) : Vouched setting options (project f) := by
  refine ⟨describes_of_files (fun e he _ => ?_) fun _ => textOf_directory, .nil⟩
  rw [project, List.mem_singleton] at he
  rw [he]
  exact textOf_page f h

/-- The page is scanned, changes, and is scanned again after the scan was dropped; then it changes
back. -/
def session : Session :=
  let start : Session :=
    ⟨⟨options, Context.baseOf "/p" options, {}, none⟩, ⟨project (page "a" 1), {}⟩, none⟩
  let scanned := (start.scan "/p").2.edit (project (page "b" 2))
  (scanned.invalidate.prune here ".a\x7b\x7d" none).2.edit (project (page "a" 1))

theorem reached : session.Reached setting options :=
  .step (.step (.step (.step (.step (.start .nil ⟨project (page "a" 1), {}⟩)
    (.scan fun _ => vouched List.mem_cons_self)) (.edit (project (page "b" 2)))) .invalidate)
    (.prune rfl ".a\x7b\x7d" none fun _ => vouched (List.mem_cons_of_mem _ List.mem_cons_self)))
    (.edit (project (page "a" 1)))

theorem prune_agrees_edited : setting.Marked ∧ setting.Uses (Context.baseOf "/p" options) ∧
    session.Reached setting options ∧ session.context.summary.isSome = true ∧
    Agree options (session.prune here ".a\x7b\x7d.b\x7b\x7d" (some true)).1
      (run here (options.forStyles ".a\x7b\x7d.b\x7b\x7d" (some true)) ⟨session.reference, {}⟩).1 :=
  ⟨marked, uses, reached, by decide +kernel,
    (Session.prune_agrees marked uses reached (fun _ => vouched List.mem_cons_self) here here rfl
      rfl ".a\x7b\x7d.b\x7b\x7d" (some true) {}).1⟩

/-- The session of a page that is edited twice and then has the time and size that it had when it
was scanned. -/
def returned : Session :=
  let start : Session :=
    ⟨Context.ofOptions (project (page "a" 1)) "/p" options, ⟨project (page "a" 1), {}⟩, none⟩
  (((start.scan "/p").2.edit (project (page "b" 2))).edit (project (page "b" 1))).invalidate

/-- A text that comes with a time and size that the cache knows is not read. -/
theorem prune_returned_status :
    (project (page "a" 1)).status? "/p/i.html" ≠ (project (page "b" 2)).status? "/p/i.html" ∧
      (project (page "b" 2)).status? "/p/i.html" ≠ (project (page "b" 1)).status? "/p/i.html" ∧
      (returned.prune here ".a\x7b\x7d" none).1.toOption.map (·.pruned.css) =
        some ".a\x7b\x7d" ∧
      (run here (options.forStyles ".a\x7b\x7d" none) ⟨returned.reference, {}⟩).1.toOption.map
        (·.pruned.css) = some "" := by
  refine ⟨?_, ?_, ?_, ?_⟩ <;> decide +kernel

end EditedPage

end StylePrune
