import StylePrune.Proofs.Cache.SecondPass
import StylePrune.Proofs.Glob.Growth
import StylePrune.Proofs.Project.Snapshot

/-!
# Running again

A run writes a cache file and files that tell of it into the tree that a later run reads. As long as
nothing that a run reads is one of these files, running again gives the same (`run_again`).
-/

namespace StylePrune

open Disk (Grown WellFormed SameDirectories)

/-- Whether an output is off or goes to the file of its usual name. -/
def Output.isUsual : Output → Bool
  | .path _ => false
  | _ => true

/-- Whether a directory and those above it are there. -/
def Disk.Holds (disk : Disk) (path : String) : Prop :=
  ∀ q, q <+: Path.place path → disk.isDirectory q = true

namespace ProjectOptions

/-- The path of the cache file, if scans are kept. -/
def cacheFile? (o : ProjectOptions) (base : String) : Option String :=
  (nonEmpty? o.cacheDirectory).map fun directory =>
    CacheFile.pathIn base (Path.join base directory)

/-- The analysis and the reports, each with its usual name. -/
def tellings (o : ProjectOptions) : List (Output × String) :=
  [(o.analysis, Report.analysisFile), (o.reports.json, Report.dataFile),
    (o.reports.html, Report.pageFile), (o.reports.ci, Report.summaryFile)]

/-- The places of the files that tell of a run. -/
def tellingPlaces (o : ProjectOptions) (base : String) : List Place :=
  o.tellings.filterMap fun (output, usualName) =>
    (output.name? usualName).map fun name => Path.place (Path.absolute base name)

/-- The places of all files that a run writes. -/
def writtenPlaces (o : ProjectOptions) (base : String) : List Place :=
  ((o.cacheFile? base).map Path.place).toList ++ o.tellingPlaces base

end ProjectOptions

/-- Nothing that a run reads stands at a place that it writes to, and no glob takes steps up. -/
structure Apart (cwd : String) (o : ProjectOptions) (disk : Disk) : Prop where
  globs : ∀ q ∈ Glob.included (Path.absolute cwd (Context.baseOf cwd o)) o.content,
    ".." ∉ Path.names q
  content : ∀ f ∈ Glob.resolve disk cwd (Context.baseOf cwd o) o.content,
    ∀ place ∈ o.writtenPlaces (Context.baseOf cwd o), disk.locate f ≠ .ok place
  styles : ∀ paths, o.css = .files paths → ∀ path ∈ paths,
    ∀ place ∈ o.writtenPlaces (Context.baseOf cwd o),
      disk.locate (Path.join (Context.baseOf cwd o) path) ≠ .ok place

/-- Two runs give the same style sheet, figures and classes, or end with the same error. Where a
page holds a surrogate is told from its start, which tells the time, so this may differ. -/
inductive SameOutcome (a b : Except RunError RunResult) : Prop where
  | result (r r' : RunResult) (hpruned : r.pruned = r'.pruned)
      (hreport : r.report.timeless = r'.report.timeless) (ha : a = .ok r) (hb : b = .ok r')
  | error (e : RunError) (ha : a = .error e) (hb : b = .error e)
  | page (fault fault' : Text.Unencodable) (ha : a = .error (.page fault))
      (hb : b = .error (.page fault'))

namespace Rerun

variable {disk d e : Disk} {base : String} {places : List Place} {o : ProjectOptions}
  {here there : Surroundings} {scan : ProjectScan}

/-! ## Writing into directories that are there -/

/-- A disk to which texts were written, at some places, in directories that were there. -/
structure Beside (places : List Place) (d e : Disk) : Prop where
  grown : Grown places d e
  wellFormed : e.WellFormed
  directories : SameDirectories d e

theorem Beside.refl (places : List Place) (h : d.WellFormed) : Beside places d d :=
  ⟨.refl places d, h, fun _ => rfl⟩

theorem Beside.trans (h : Beside places disk d) (h' : Beside places d e) : Beside places disk e :=
  ⟨h.grown.trans h'.grown, h'.wellFormed, h.directories.trans h'.directories⟩

theorem Beside.holds (h : Beside places d e) (hholds : d.Holds base) : e.Holds base :=
  fun q hq => (h.directories q).trans (hholds q hq)

theorem isProper_usual (ho : ∀ t ∈ o.tellings, t.1.isUsual = true) {output : Output}
    {usualName : String} (ht : (output, usualName) ∈ o.tellings) {name : String}
    (hname : output.name? usualName = some name) : name = usualName ∧ Path.IsProper usualName := by
  have husual := ho _ ht
  constructor
  · cases output with
    | off => cases hname
    | usual => exact (Option.some.inj hname).symm
    | path p => cases husual
  · simp only [ProjectOptions.tellings, List.mem_cons, List.not_mem_nil, or_false,
      Prod.mk.injEq] at ht
    rcases ht with ⟨-, rfl⟩ | ⟨-, rfl⟩ | ⟨-, rfl⟩ | ⟨-, rfl⟩ <;>
      exact ⟨by decide, by decide, by decide⟩

theorem tryWrite_eq (disk : Disk) (path text : String) :
    Report.tryWrite disk path text = disk.attempt path text := rfl

/-- A file that tells of a run is written into the directory of the project. -/
theorem beside_attempt (ho : ∀ t ∈ o.tellings, t.1.isUsual = true)
    (hbase : Path.IsNormal base) (hd : d.WellFormed) (hholds : d.Holds base) {output : Output}
    {usualName name : String} (ht : (output, usualName) ∈ o.tellings)
    (hname : output.name? usualName = some name) (text : String) :
    Beside (o.tellingPlaces base) d (d.attempt (Path.absolute base name) text) := by
  obtain ⟨rfl, hproper⟩ := isProper_usual ho ht hname
  have hpath := Path.isNormal_absolute hbase.absolute name
  obtain ⟨front, hplace, hfront⟩ := Path.place_absolute_proper hbase.absolute hproper
  rw [hfront hbase] at hplace
  have hmem : Path.place (Path.absolute base name) ∈ o.tellingPlaces base :=
    List.mem_filterMap.2 ⟨_, ht, by simp only [hname, Option.map_some]⟩
  refine ⟨(Grown.attempt hpath text).mono (List.cons_subset.2 ⟨hmem, List.nil_subset _⟩),
    hd.attempt hpath text, Disk.sameDirectories_attempt hpath text fun q hq hne => hholds q ?_⟩
  rw [hplace] at hq hne
  exact (List.prefix_concat_iff.1 hq).resolve_left hne

theorem beside_writeOutput (ho : ∀ t ∈ o.tellings, t.1.isUsual = true)
    (hbase : Path.IsNormal base) (hd : d.WellFormed) (hholds : d.Holds base) {output : Output}
    {usualName : String} (ht : (output, usualName) ∈ o.tellings) (text : String) :
    Beside (o.tellingPlaces base) d (Report.writeOutput d base output usualName text) := by
  rw [Report.writeOutput]
  cases hname : output.name? usualName with
  | none => exact .refl _ hd
  | some name =>
    simp only [tryWrite_eq]
    exact beside_attempt ho hbase hd hholds ht hname text

/-! ## Pages -/

theorem isPlain_escapeString (s : String) : (Report.Page.escapeString s).isPlain = true := by
  rw [Report.Page.escapeString, Report.Page.escape, Text.isPlain, List.all_flatMap]
  refine List.all_eq_true.2 fun p hp => ?_
  have hchar := List.all_eq_true.1 (Text.isPlain_ofString s) p hp
  fun_cases Report.Page.escapePoint p with
  | case6 => rw [List.all_cons, hchar]; rfl
  | _ => exact Text.isPlain_ofString _

/-- Whether a page can be written is a matter of its warnings and entries. -/
theorem isOk_render {r r' : Report} (hwarnings : r.warnings = r'.warnings)
    (hentries : r.entries = r'.entries) :
    (Report.Page.render r).toString?.isOk = (Report.Page.render r').toString?.isOk := by
  simp only [Text.isOk_toString?, Report.Page.render, Text.isPlain_append, Text.isPlain_ofString,
    isPlain_escapeString, Bool.and_true, Bool.true_and, hwarnings, hentries]

/-! ## Reports -/

theorem isOk_writeText (disk : Disk) {path : String} (h : Path.IsNormal path) (text : String) :
    (disk.writeText path text).isOk = true ↔ disk.Opens (Path.place path) := by
  rcases Disk.writeText_normal disk h text with
    ⟨disk', hwrite, hopens, -⟩ | ⟨fault, hwrite, hclosed⟩
  · exact iff_of_true (by rw [hwrite]; rfl) hopens
  · exact iff_of_false (by rw [hwrite]; exact Bool.false_ne_true) hclosed

/-- Writing a page tries to write one text, and fails just if the page is no string although its
file can be opened. -/
theorem writePage_spec (disk : Disk) {output : Output} {name : String}
    (hname : output.name? Report.pageFile = some name)
    (hpath : Path.IsNormal (Path.absolute base name)) (page : Text) :
    (∃ text, (Report.writePage disk base output page).2 =
      disk.attempt (Path.absolute base name) text) ∧
    ((Report.writePage disk base output page).1.isOk = true ↔
      page.toString?.isOk = true ∨ ¬ disk.Opens (Path.place (Path.absolute base name))) := by
  rw [Report.writePage, hname]
  simp only
  cases hpage : page.toString? with
  | ok text => exact ⟨⟨text, by simp only [tryWrite_eq]⟩, iff_of_true rfl (.inl rfl)⟩
  | error fault =>
    have hopens := isOk_writeText disk hpath ""
    simp only
    cases hwrite : disk.writeText (Path.absolute base name) "" with
    | ok disk' =>
      rw [hwrite] at hopens
      refine ⟨⟨"", by rw [Disk.attempt, hwrite]⟩, iff_of_false Bool.false_ne_true ?_⟩
      rintro (hok | hclosed)
      · cases hok
      · exact hclosed (hopens.1 rfl)
    | error fault' =>
      rw [hwrite] at hopens
      exact ⟨⟨"", by rw [Disk.attempt, hwrite]⟩,
        iff_of_true rfl (.inr fun h => Bool.false_ne_true (hopens.2 h))⟩

theorem writePage_off {output : Output} (hname : output.name? Report.pageFile = none)
    (page : Text) : Report.writePage disk base output page = (.ok (), disk) := by
  rw [Report.writePage, hname]

variable {r : Report}

/-- Reports are written into the directory of the project, the page between the others. -/
theorem beside_writeAll (ho : ∀ t ∈ o.tellings, t.1.isUsual = true)
    (hbase : Path.IsNormal base) (hd : d.WellFormed) (hholds : d.Holds base) (r : Report) :
    ∃ d₁ d₂, (Report.writePage d₁ base o.reports.html (Report.Page.render r)).2 = d₂ ∧
      (Report.writePage d₁ base o.reports.html (Report.Page.render r)).1.isOk =
        (r.writeAll d base o.reports).1.isOk ∧
      Beside (o.tellingPlaces base) d d₁ ∧ Beside (o.tellingPlaces base) d₁ d₂ ∧
      Beside (o.tellingPlaces base) d₂ (r.writeAll d base o.reports).2 := by
  have htelling : (o.reports.json, Report.dataFile) ∈ o.tellings := by
    simp [ProjectOptions.tellings]
  have hdata := beside_writeOutput ho hbase hd hholds htelling r.toJson.pretty
  rw [Report.writeAll]
  generalize Report.writeOutput d base o.reports.json Report.dataFile r.toJson.pretty = d₁ at hdata
  have hpage : Beside (o.tellingPlaces base) d₁
      (Report.writePage d₁ base o.reports.html (Report.Page.render r)).2 := by
    cases hname : o.reports.html.name? Report.pageFile with
    | none =>
      rw [writePage_off hname]
      exact .refl _ hdata.wellFormed
    | some name =>
      obtain ⟨⟨text, hwritten⟩, -⟩ := writePage_spec d₁ hname
        (Path.isNormal_absolute hbase.absolute _) (Report.Page.render r)
      rw [hwritten]
      exact beside_attempt ho hbase hdata.wellFormed (hdata.holds hholds)
        (by simp [ProjectOptions.tellings]) hname text
  refine ⟨d₁, _, rfl, ?_, hdata, hpage, ?_⟩ <;>
    generalize Report.writePage d₁ base o.reports.html (Report.Page.render r) = call at hpage ⊢ <;>
    obtain ⟨_ | _, d₂⟩ := call
  · rfl
  · rfl
  · exact .refl _ hpage.wellFormed
  · exact beside_writeOutput ho hbase hpage.wellFormed ((hdata.trans hpage).holds hholds)
      (by simp [ProjectOptions.tellings]) r.summary

/-- Reports that differ in their figures alone are written alike, the second time on a disk that
has grown since the first. -/
theorem isOk_writeAll_again (ho : ∀ t ∈ o.tellings, t.1.isUsual = true)
    (hbase : Path.IsNormal base) (hd : d.WellFormed) (hholds : d.Holds base) (he : e.WellFormed)
    (heholds : e.Holds base) (hgrown : Grown places (r.writeAll d base o.reports).2 e)
    (hplaces : o.tellingPlaces base ⊆ places) (r' : Report)
    (hwarnings : r.warnings = r'.warnings) (hentries : r.entries = r'.entries) :
    (r'.writeAll e base o.reports).1.isOk = (r.writeAll d base o.reports).1.isOk := by
  obtain ⟨d₁, d₂, hpage, hok, hdata, -, hrest⟩ := beside_writeAll ho hbase hd hholds r
  obtain ⟨e₁, e₂, -, hok', hdata', -, -⟩ := beside_writeAll ho hbase he heholds r'
  rw [← hok, ← hok']
  cases hname : o.reports.html.name? Report.pageFile with
  | none => rw [writePage_off hname, writePage_off hname]
  | some name =>
    have hpath := Path.isNormal_absolute hbase.absolute name
    obtain ⟨⟨text, hwritten⟩, hiff⟩ :=
      writePage_spec d₁ hname hpath (Report.Page.render r)
    obtain ⟨-, hiff'⟩ := writePage_spec e₁ hname hpath (Report.Page.render r')
    rw [hwritten] at hpage
    subst hpage
    have hopens := Grown.opens_iff hpath hdata'.wellFormed
      (((hrest.grown.mono hplaces).trans hgrown).trans (hdata'.grown.mono hplaces))
    rw [Bool.eq_iff_iff, hiff, hiff', hopens, isOk_render hwarnings hentries]

/-! ## Pruning with a scan -/

/-- What a style sheet that can be pruned leaves behind is what its report does. -/
theorem pruneWith_ok (here : Surroundings) {c : Context} {css : String} (minify : Bool)
    {w : Workspace} {pruned : PruneResult} (h : pruneCss css scan.scan
      { c.options.toOptions with minify }.pruning = .ok pruned) :
    (c.pruneWith here scan css minify w).2.disk =
        ((c.reportOn here scan pruned).writeAll w.disk c.base c.options.reports).2 ∧
      (((c.reportOn here scan pruned).writeAll w.disk c.base c.options.reports).1.isOk = true ∧
          (c.pruneWith here scan css minify w).1 = .ok ⟨pruned, c.reportOn here scan pruned⟩ ∨
        ((c.reportOn here scan pruned).writeAll w.disk c.base c.options.reports).1.isOk = false ∧
          ∃ fault, (c.pruneWith here scan css minify w).1 = .error (.page fault)) := by
  rw [Context.pruneWith]
  simp only [h]
  rw [Context.reportOn]
  generalize Report.writeAll _ w.disk c.base c.options.reports = call
  obtain ⟨fault | _, disk⟩ := call
  · exact ⟨rfl, .inr ⟨rfl, fault, rfl⟩⟩
  · exact ⟨rfl, .inl ⟨rfl, rfl⟩⟩

/-- What a run does with a scan. -/
def finish (here : Surroundings) (o : ProjectOptions) (base : String) (scan : ProjectScan)
    (w : Workspace) : Except RunError RunResult × Workspace :=
  match o.css.read w.disk base with
  | .error fault => (.error (.styles fault), w)
  | .ok css => (⟨o, base, {}, none⟩ : Context).pruneWith here scan css o.minify w

theorem beside_finish (here : Surroundings) (scan : ProjectScan)
    (ho : ∀ t ∈ o.tellings, t.1.isUsual = true)
    (hbase : Path.IsNormal base) (hd : d.WellFormed) (hholds : d.Holds base) (tally : Tally) :
    Beside (o.tellingPlaces base) d (finish here o base scan ⟨d, tally⟩).2.disk := by
  rw [finish]
  split
  · exact .refl _ hd
  · rename_i css _
    cases h : pruneCss css scan.scan o.toOptions.pruning with
    | error error =>
      rw [Context.pruneWith]
      simp only [h]
      exact .refl _ hd
    | ok pruned =>
      obtain ⟨d₁, d₂, -, -, hdata, hpage, hrest⟩ := beside_writeAll ho hbase hd hholds
        ((⟨o, base, {}, none⟩ : Context).reportOn here scan pruned)
      rw [(pruneWith_ok here o.minify (c := ⟨o, base, {}, none⟩) h).1]
      exact (hdata.trans hpage).trans hrest

/-- Style sheets at places that were left alone. -/
theorem read_same {css : StyleSource} (h : SameDirectories d e)
    (hfile : ∀ paths, css = .files paths → ∀ path ∈ paths, ∀ place,
      d.locate (Path.join base path) = .ok place → e.fileAt? place = d.fileAt? place) :
    css.read e base = css.read d base := by
  cases css with
  | text css => rfl
  | files paths =>
    have hread : ∀ path ∈ paths, StyleSource.readFile e (Path.join base path) =
        StyleSource.readFile d (Path.join base path) := by
      intro path hpath
      have hsame := Disk.readText_same h _ (hfile paths rfl path hpath)
      simp only [StyleSource.readFile]
      revert hsame
      cases e.readText (Path.join base path) <;> cases d.readText (Path.join base path) <;>
        simp [Except.toOption]
    clear hfile
    have hall : (paths.mapM fun path => StyleSource.readFile e (Path.join base path)) =
        paths.mapM fun path => StyleSource.readFile d (Path.join base path) := by
      induction paths with
      | nil => rfl
      | cons path rest ih =>
        obtain ⟨hpath, hrest⟩ := List.forall_mem_cons.1 hread
        rw [List.mapM_cons, List.mapM_cons, hpath, ih hrest]
    rw [StyleSource.read, StyleSource.read, hall]

/-- The same scan gives the same on a disk that has grown since, if the style sheets are apart from
what was written. -/
theorem finish_again (ho : ∀ t ∈ o.tellings, t.1.isUsual = true) (hbase : Path.IsNormal base)
    (hd : d.WellFormed) (hholds : d.Holds base) (he : e.WellFormed) {tally tally' : Tally}
    (hgrown : Grown places (finish here o base scan ⟨d, tally⟩).2.disk e)
    (hdirectories : SameDirectories (finish here o base scan ⟨d, tally⟩).2.disk e)
    (hplaces : o.tellingPlaces base ⊆ places)
    (hstyles : ∀ paths, o.css = .files paths → ∀ path ∈ paths, ∀ place ∈ places,
      (finish here o base scan ⟨d, tally⟩).2.disk.locate (Path.join base path) ≠ .ok place) :
    SameOutcome (finish here o base scan ⟨d, tally⟩).1
      (finish there o base scan ⟨e, tally'⟩).1 := by
  have hbeside := beside_finish here scan ho hbase hd hholds tally
  have hread : o.css.read e base = o.css.read d base := by
    refine read_same (hbeside.directories.trans hdirectories) fun paths hcss path hpath place =>
      fun hp => ?_
    refine ((hbeside.grown.mono hplaces).trans hgrown).others place fun hplace => ?_
    exact hstyles paths hcss path hpath place hplace
      ((Disk.locate_same hbeside.directories).2 hp)
  have heholds : e.Holds base := fun q hq => (hdirectories q).trans (hbeside.holds hholds q hq)
  cases hcss : o.css.read d base with
  | error fault =>
    refine .error (.styles fault) ?_ ?_
    · rw [finish, show o.css.read _ base = _ from hcss]
    · rw [finish, show o.css.read _ base = _ from hread.trans hcss]
  | ok css =>
    have hfirst : finish here o base scan ⟨d, tally⟩ =
        (⟨o, base, {}, none⟩ : Context).pruneWith here scan css o.minify ⟨d, tally⟩ := by
      rw [finish, show o.css.read _ base = _ from hcss]
    have hsecond : finish there o base scan ⟨e, tally'⟩ =
        (⟨o, base, {}, none⟩ : Context).pruneWith there scan css o.minify ⟨e, tally'⟩ := by
      rw [finish, show o.css.read _ base = _ from hread.trans hcss]
    rw [hfirst] at hgrown ⊢
    rw [hsecond]
    cases h : pruneCss css scan.scan o.toOptions.pruning with
    | error error => exact .error (.prune error) (pruneWith_error h) (pruneWith_error h)
    | ok pruned =>
      obtain ⟨hdisk, hanswer⟩ := pruneWith_ok here o.minify (c := ⟨o, base, {}, none⟩)
        (w := ⟨d, tally⟩) h
      obtain ⟨-, hanswer'⟩ := pruneWith_ok there o.minify (c := ⟨o, base, {}, none⟩)
        (w := ⟨e, tally'⟩) h
      rw [hdisk] at hgrown
      have hsame := isOk_writeAll_again ho hbase hd hholds he heholds hgrown hplaces
        ((⟨o, base, {}, none⟩ : Context).reportOn there scan pruned) rfl rfl
      rcases hanswer with ⟨hok, hanswer⟩ | ⟨hfault, fault, hanswer⟩ <;>
        rcases hanswer' with ⟨hok', hanswer'⟩ | ⟨hfault', fault', hanswer'⟩
      · refine .result _ _ ?_ ?_ hanswer hanswer' <;> rfl
      · cases hfault'.symm.trans (hsame.trans hok)
      · cases hok'.symm.trans (hsame.trans hfault)
      · exact .page fault fault' hanswer hanswer'

/-! ## Scanning -/

/-- A run scans its content, saves the cache, writes the analysis, and goes on with the scan. -/
theorem run_eq_finish (here : Surroundings) (o : ProjectOptions) (w : Workspace) :
    run here o w =
      match scanFiles o.toOptions w.disk here.cwd (Context.baseOf here.cwd o)
          ⟨some (Context.cacheOf w.disk (Context.baseOf here.cwd o) o), w.tally⟩
          (Glob.resolve w.disk here.cwd (Context.baseOf here.cwd o) o.content) with
      | (.error e, state) => (.error (.scan e), { w with tally := state.tally })
      | (.ok scan, state) => finish here o (Context.baseOf here.cwd o) scan
          ⟨Report.writeAnalysis
            ((state.cache.getD (Context.cacheOf w.disk (Context.baseOf here.cwd o) o)).save w.disk)
            (Context.baseOf here.cwd o) o.analysis scan.scan.origins, state.tally⟩ := by
  rw [run, Context.scan_none rfl, Context.scanAfresh]
  simp only [Context.ofOptions]
  generalize scanFiles o.toOptions w.disk here.cwd (Context.baseOf here.cwd o)
    ⟨some (Context.cacheOf w.disk (Context.baseOf here.cwd o) o), w.tally⟩ _ = call
  obtain ⟨_ | scan, state⟩ := call
  · rfl
  · simp only [finish]
    cases o.css.read _ (Context.baseOf here.cwd o) with
    | error fault => rfl
    | ok css => simp only [Context.prune, Context.scan, Option.getD_none]; rfl

/-! ## The cache file -/

theorem file_cacheOf (disk : Disk) (base : String) (o : ProjectOptions) :
    (Context.cacheOf disk base o).file = o.cacheFile? base := by
  rw [Context.cacheOf, ProjectOptions.cacheFile?]
  cases nonEmpty? o.cacheDirectory <;> rfl

theorem fileName_eq : CacheFile.fileName = "scan-cache-v1.json" := rfl

theorem cacheFile?_normal (hbase : Path.IsNormal base) {path : String}
    (h : o.cacheFile? base = some path) :
    Path.IsNormal path ∧ ∃ front, Path.place path = front ++ [CacheFile.fileName] := by
  obtain ⟨directory, -, rfl⟩ := Option.map_eq_some_iff.1 h
  have hdirectory := Path.isAbsolute_join hbase.absolute directory
  have hfile := Path.isAbsolute_join hdirectory CacheFile.fileName
  have hpath : CacheFile.pathIn base (Path.join base directory) =
      Path.absolute (Path.join base directory) CacheFile.fileName := by
    rw [CacheFile.pathIn, Path.absolute, Path.join, if_pos hfile, Path.absolute]
  rw [hpath]
  have hproper : Path.IsProper CacheFile.fileName := by
    rw [fileName_eq]
    exact ⟨by decide, by decide, by decide⟩
  obtain ⟨front, hplace, -⟩ := Path.place_absolute_proper hdirectory hproper
  exact ⟨Path.isNormal_absolute hdirectory _, front, hplace⟩

/-- No file that tells of a run has the name of the cache file. -/
theorem ne_fileName {output : Output} {usualName : String} (ht : (output, usualName) ∈ o.tellings) :
    usualName ≠ CacheFile.fileName := by
  simp only [ProjectOptions.tellings, List.mem_cons, List.not_mem_nil, or_false,
    Prod.mk.injEq] at ht
  rw [fileName_eq]
  rcases ht with ⟨-, rfl⟩ | ⟨-, rfl⟩ | ⟨-, rfl⟩ | ⟨-, rfl⟩ <;> decide

theorem notMem_tellingPlaces (ho : ∀ t ∈ o.tellings, t.1.isUsual = true)
    (hbase : Path.IsNormal base) {front : Place} :
    front ++ [CacheFile.fileName] ∉ o.tellingPlaces base := by
  intro hmem
  obtain ⟨⟨output, usualName⟩, ht, htelling⟩ := List.mem_filterMap.1 hmem
  obtain ⟨name, hname, hplace⟩ := Option.map_eq_some_iff.1 htelling
  obtain ⟨rfl, hproper⟩ := isProper_usual ho ht hname
  obtain ⟨front', hplace', -⟩ := Path.place_absolute_proper hbase.absolute hproper
  have hlast : front' ++ [name] = front ++ [CacheFile.fileName] := hplace'.symm.trans hplace
  exact ne_fileName ht (List.singleton_inj.1 (List.append_inj_right' hlast rfl))

variable {cache : ScanCache}

theorem save_eq_attempt {path : String} (hfile : cache.file = some path) (disk : Disk) :
    cache.save disk = disk.attempt path (CacheFile.write cache.entries) := by
  rw [ScanCache.save, hfile]
  rfl

theorem grown_save (hbase : Path.IsNormal base) (hd : d.WellFormed)
    (hfile : cache.file = o.cacheFile? base) :
    Grown (o.writtenPlaces base) d (cache.save d) ∧ (cache.save d).WellFormed := by
  cases hpath : o.cacheFile? base with
  | none =>
    rw [ScanCache.save, hfile, hpath]
    exact ⟨.refl _ d, hd⟩
  | some path =>
    obtain ⟨hnormal, -⟩ := cacheFile?_normal hbase hpath
    rw [save_eq_attempt (hfile.trans hpath)]
    refine ⟨(Grown.attempt hnormal _).mono ?_, hd.attempt hnormal _⟩
    simp [ProjectOptions.writtenPlaces, hpath]

/-- Entries that are saved again bring no new directory. -/
theorem sameDirectories_save (hbase : Path.IsNormal base) {again : ScanCache}
    (hfile : cache.file = o.cacheFile? base) (hagain : again.file = o.cacheFile? base)
    (he : e.WellFormed) (hgrown : Grown places (cache.save d) e) :
    SameDirectories e (again.save e) := by
  cases hpath : o.cacheFile? base with
  | none =>
    rw [ScanCache.save, hagain, hpath]
    exact fun _ => rfl
  | some path =>
    rw [save_eq_attempt (hfile.trans hpath)] at hgrown
    rw [save_eq_attempt (hagain.trans hpath)]
    exact Disk.sameDirectories_again (cacheFile?_normal hbase hpath).1 _ he hgrown

theorem load_eq (disk : Disk) (path : String) : CacheFile.load disk path =
    match (disk.readText path).toOption with
    | some (.ok text) => (CacheFile.read? text).getD []
    | _ => [] := by
  rw [CacheFile.load]
  rcases disk.readText path with _ | _ | _ <;> rfl

/-- The next run finds the entries that were saved, or those of the run before. -/
theorem cacheOf_again (ho : ∀ t ∈ o.tellings, t.1.isUsual = true) (hbase : Path.IsNormal base)
    (hfile : cache.file = o.cacheFile? base) (hdistinct : cache.entries.Distinct)
    (h : Beside (o.tellingPlaces base) (cache.save d) e) :
    (Context.cacheOf e base o).entries = cache.entries ∨
      Context.cacheOf e base o = Context.cacheOf d base o := by
  cases hdirectory : nonEmpty? o.cacheDirectory with
  | none =>
    right
    rw [Context.cacheOf, Context.cacheOf, hdirectory]
  | some directory =>
    have hpath : o.cacheFile? base =
        some (CacheFile.pathIn base (Path.join base directory)) := by
      rw [ProjectOptions.cacheFile?, hdirectory, Option.map_some]
    obtain ⟨hnormal, front, hplace⟩ := cacheFile?_normal hbase hpath
    have hsave := save_eq_attempt (hfile.trans hpath) d
    simp only [Context.cacheOf, hdirectory, ScanCache.ofFile]
    generalize CacheFile.pathIn base (Path.join base directory) = path at *
    have hload : CacheFile.load e path = CacheFile.load (cache.save d) path := by
      have hsame := Disk.readText_same h.directories path fun place hp =>
        h.grown.others place fun hmem => by
          obtain ⟨rfl, -⟩ := (Disk.locate_normal hnormal).1 hp
          rw [hplace] at hmem
          exact notMem_tellingPlaces ho hbase hmem
      rw [load_eq, load_eq, hsame]
    rcases CacheFile.load_save hdistinct d path with hload' | hload'
    · exact .inl (hload.trans (hsave ▸ hload'))
    · right
      rw [hload, hsave]
      exact congrArg (ScanCache.mk (some path) · 0 0) (congrArg (CacheFile.load · path) hload')

theorem distinct_cacheOf (disk : Disk) (base : String) (o : ProjectOptions) :
    (Context.cacheOf disk base o).entries.Distinct := by
  rw [Context.cacheOf]
  cases nonEmpty? o.cacheDirectory with
  | none => exact ⟨List.nodup_nil, fun _ he => by cases he⟩
  | some directory =>
    simp only [ScanCache.ofFile]
    exact CacheFile.distinct_load disk _

/-- A second scan, on a disk that has grown since the entries of the first were saved, gives the
same and brings no new directory. -/
theorem scanFiles_grown {cwd : String} (ho : ∀ t ∈ o.tellings, t.1.isUsual = true)
    (hextractors : o.extractors = []) (hbase : Path.IsNormal base) {files : List String}
    (hfiles : ∀ f ∈ files, Path.IsNormal f ∧ ∃ g, d.file f = .ok g ∧ e.file f = .ok g)
    {tally : Tally} (tally' : Tally) {state : ScanState} {cache : ScanCache}
    (hstate : state.cache = some cache)
    (h : scanFiles o.toOptions d cwd base ⟨some (Context.cacheOf d base o), tally⟩ files =
      (.ok scan, state)) (hbeside : Beside (o.tellingPlaces base) (cache.save d) e) :
    ∃ again state', scanFiles o.toOptions e cwd base ⟨some (Context.cacheOf e base o), tally'⟩
        files = (.ok scan, state') ∧ state'.cache = some again ∧
      again.file = o.cacheFile? base ∧ SameDirectories e (again.save e) := by
  obtain ⟨cache', hstate', hfile, hdistinct, hscan⟩ := Caching.scanFiles_again hextractors hfiles h
  obtain rfl := Option.some.inj (hstate'.symm.trans hstate)
  rw [file_cacheOf] at hfile
  have hanswer : (scanFiles o.toOptions e cwd base ⟨some (Context.cacheOf e base o), tally'⟩
      files).1 = .ok scan := by
    rcases cacheOf_again ho hbase hfile (hdistinct (distinct_cacheOf d base o)) hbeside with
      hentries | hsame
    · exact hscan _ tally' hentries
    · rw [hsame, ← Caching.scanFiles_congr (d := d) (e := e) ?_ _ tally tally', h]
      intro f hf
      obtain ⟨hnormal, g, hd, he⟩ := hfiles f hf
      rw [Caching.seenFrom_absolute hnormal.absolute, hd, he]
  cases hsecond : scanFiles o.toOptions e cwd base ⟨some (Context.cacheOf e base o), tally'⟩ files
    with | mk answer state' =>
  rw [hsecond] at hanswer
  obtain rfl : answer = .ok scan := hanswer
  obtain ⟨again, hagain, hfile', -⟩ := Caching.scanFiles_again (e := e) hextractors
    (fun f hf => ⟨(hfiles f hf).1, (hfiles f hf).2.imp fun _ h => ⟨h.2, h.2⟩⟩) hsecond
  rw [file_cacheOf] at hfile'
  exact ⟨again, state', rfl, hagain, hfile',
    sameDirectories_save hbase hfile hfile' hbeside.wellFormed hbeside.grown⟩

end Rerun

open Rerun in
/-- If nothing that a run reads is a file that it writes, and no glob takes steps up, running again
gives the same: the caches, analyses and reports that the first run leaves behind change nothing. -/
theorem run_again {here there : Surroundings} {o : ProjectOptions} {disk : Disk}
    (hcwd : Path.isAbsolute here.cwd = true) (hthere : there.cwd = here.cwd)
    (hextractors : o.extractors = []) (husual : ∀ t ∈ o.tellings, t.1.isUsual = true)
    (hdisk : disk.WellFormed) (hholds : disk.Holds (Context.baseOf here.cwd o))
    (tally tally' : Tally) (hapart : Apart here.cwd o (run here o ⟨disk, tally⟩).2.disk) :
    SameOutcome (run here o ⟨disk, tally⟩).1
      (run there o ⟨(run here o ⟨disk, tally⟩).2.disk, tally'⟩).1 := by
  obtain ⟨hglobs, hcontent, hstyles⟩ := hapart
  have hbase : Path.IsNormal (Context.baseOf here.cwd o) := Path.isNormal_absolute hcwd _
  have hfirst := run_eq_finish here o ⟨disk, tally⟩
  have hsecond := fun w => run_eq_finish there o w
  rw [hthere] at hsecond
  generalize Context.baseOf here.cwd o = base at *
  cases hscan : scanFiles o.toOptions disk here.cwd base
    ⟨some (Context.cacheOf disk base o), tally⟩ (Glob.resolve disk here.cwd base o.content)
    with | mk answer state =>
  simp only [hscan] at hfirst
  cases answer with
  | error error =>
    -- Nothing was written, and the same files are scanned again.
    have hagain := @Caching.scanFiles_congr disk disk o.toOptions here.cwd base
      (Glob.resolve disk here.cwd base o.content) (fun _ _ => rfl)
      (some (Context.cacheOf disk base o)) tally' tally
    rw [hscan] at hagain
    have hsecond := hsecond ⟨disk, tally'⟩
    simp only [hfirst]
    rw [hsecond]
    generalize scanFiles o.toOptions disk here.cwd base
      ⟨some (Context.cacheOf disk base o), tally'⟩ _ = call at hagain
    obtain ⟨answer, state'⟩ := call
    obtain rfl : answer = .error error := hagain
    exact .error (.scan error) rfl rfl
  | ok scan =>
    obtain ⟨-, hnamed⟩ := Glob.resolve_grown hdisk hdisk (.refl [] disk) hcwd hglobs
      fun _ _ _ hplace => absurd hplace List.not_mem_nil
    obtain ⟨cache, hstate, hfile, -⟩ := Caching.scanFiles_again hextractors hnamed hscan
    rw [file_cacheOf] at hfile
    simp only [hstate, Option.getD_some] at hfirst
    have hplaces : o.tellingPlaces base ⊆ o.writtenPlaces base := List.subset_append_right ..
    -- The first run, write by write.
    obtain ⟨hsaved, hsavedFormed⟩ := grown_save hbase hdisk hfile
    have hsavedHolds : (cache.save disk).Holds base := fun q hq =>
      hsaved.directories q (hholds q hq)
    have hanalysis : Beside (o.tellingPlaces base) (cache.save disk)
        (Report.writeAnalysis (cache.save disk) base o.analysis scan.scan.origins) :=
      beside_writeOutput husual hbase hsavedFormed hsavedHolds (by simp [ProjectOptions.tellings]) _
    generalize Report.writeAnalysis (cache.save disk) base o.analysis scan.scan.origins = d
      at hfirst hanalysis
    have hreports := beside_finish here scan husual hbase hanalysis.wellFormed
      (hanalysis.holds hsavedHolds) state.tally
    rw [← hfirst] at hreports
    have hgrown := hsaved.trans ((hanalysis.trans hreports).grown.mono hplaces)
    -- The second run scans the same, and finds the same style sheets.
    obtain ⟨hsame, hfiles⟩ := Glob.resolve_grown hdisk hreports.wellFormed hgrown hcwd hglobs
      hcontent
    obtain ⟨again, state', hscan', hstate', hagain, hdirectories⟩ := scanFiles_grown husual
      hextractors hbase hfiles tally' hstate hscan (hanalysis.trans hreports)
    rw [hsecond]
    simp only [hsame, hscan', hstate', Option.getD_some]
    obtain ⟨hsaved', hsavedFormed'⟩ := grown_save hbase hreports.wellFormed hagain
    have hanalysis' : Beside (o.tellingPlaces base) (again.save (run here o ⟨disk, tally⟩).2.disk)
        (Report.writeAnalysis (again.save (run here o ⟨disk, tally⟩).2.disk) base o.analysis
          scan.scan.origins) :=
      beside_writeOutput husual hbase hsavedFormed' (fun q hq => hsaved'.directories q
        (hreports.holds (hanalysis.holds hsavedHolds) q hq)) (by simp [ProjectOptions.tellings]) _
    rw [hfirst] at hsaved' hanalysis' hdirectories hstyles ⊢
    exact finish_again husual hbase hanalysis.wellFormed (hanalysis.holds hsavedHolds)
      hanalysis'.wellFormed (hsaved'.trans (hanalysis'.grown.mono hplaces))
      (hdirectories.trans hanalysis'.directories) hplaces hstyles

/-! ## A project with one page -/

namespace OnePage

def here : Surroundings := ⟨"/p", "", 0⟩

def project (name : String) : Disk where
  files := [(["p", name], ⟨Utf8.encode "<p class='a'>", 1⟩)]
  directories := [["p"]]
  clock := 9

/-- Scans are kept, and an analysis and reports are written. -/
def options : ProjectOptions where
  content := ["*.html"]
  css := .text ".a\x7b\x7d.b\x7b\x7d"
  analysis := .usual
  reports := { json := .usual, ci := .usual }
  cacheDirectory := some "kept"

theorem wellFormed : (project "i.html").WellFormed := .of_files (by decide)

theorem holds : (project "i.html").Holds (Context.baseOf here.cwd options) := by
  have hplace : Path.place (Context.baseOf here.cwd options) = ["p"] := by decide +kernel
  intro q hq
  rw [hplace] at hq
  exact (by decide : ∀ q ∈ ["p"].inits, (project "i.html").isDirectory q = true) q
    ((List.mem_inits _ _).2 hq)

theorem apart : Apart here.cwd options (run here options ⟨project "i.html", {}⟩).2.disk :=
  ⟨by decide +kernel, by decide +kernel, fun _ h => by cases h⟩

theorem run_again_kept : Path.isAbsolute here.cwd = true ∧ options.extractors = [] ∧
    (∀ t ∈ options.tellings, t.1.isUsual = true) ∧ (project "i.html").WellFormed ∧
    (project "i.html").Holds (Context.baseOf here.cwd options) ∧
    Apart here.cwd options (run here options ⟨project "i.html", {}⟩).2.disk ∧
    (run here options ⟨project "i.html", {}⟩).1.toOption.map (·.pruned.css) =
      some ".a\x7b\x7d" ∧
    SameOutcome (run here options ⟨project "i.html", {}⟩).1
      (run here options ⟨(run here options ⟨project "i.html", {}⟩).2.disk, {}⟩).1 :=
  ⟨by decide, rfl, by decide, wellFormed, holds, apart, by decide +kernel,
    run_again (by decide) rfl rfl (by decide) wellFormed holds {} {} apart⟩

/-- The analysis names the page, and its name reads like a use of a class. A glob that takes the
analysis in finds that class in the second run. -/
theorem run_again_scans_analysis :
    let o : ProjectOptions := { content := ["*"], css := .text ".x\x7b\x7d", analysis := .usual }
    let first := run here o ⟨project "className='x'.html", {}⟩
    first.1.toOption.map (·.pruned.css) = some "" ∧
      (run here o first.2).1.toOption.map (·.pruned.css) = some ".x\x7b\x7d" := by
  refine ⟨?_, ?_⟩ <;> decide +kernel

end OnePage

end StylePrune
