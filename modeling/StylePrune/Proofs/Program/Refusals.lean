import StylePrune.Program
import StylePrune.Proofs.Outcome
import StylePrune.Proofs.Project.Rerun

/-!
# Runs that are refused

A run is refused when its configuration is at fault (`Stops`): it has no plan, or the extractors of
its plan cannot be used. Extractors are checked before the first file is scanned (`run_config`), and
whatever is printed after a scan starts otherwise (`quiet_finish`). So a run that starts by printing
an error has done nothing else (`prune_prints_error`).
-/

namespace StylePrune

open Outcome (map_eq_ok)

variable {w : Workspace} {here : Surroundings}

/-! ## Extractors that cannot be used -/

section

variable {s : Scanner} {o : Options} {state : ScanState} {disk : Disk} {path cwd base : String}
  {e : Extractor.ConfigError}

theorem Scanner.freshScan_ne_config : s.freshScan disk path ≠ .error (.config e) := by
  rw [freshScan]
  cases disk.readLossy (Path.seenFrom s.cwd path) with
  | error fault => exact fun h => by cases h
  | ok content =>
    simp only
    rw [scanContents, scanText]
    split
    · exact fun h => by cases h
    · cases Extractor.run s.extractors content (some (Path.label s.cwd s.base path)) s.base with
      | error error => exact fun h => by cases h
      | ok scan => exact fun h => by cases h

theorem Scanner.scanFile_ne_config : (s.scanFile disk state path).1 ≠ .error (.config e) := by
  have hstore : ∀ (state : ScanState) signature,
      (s.scanAndStore disk state path signature).1 ≠ .error (.config e) := by
    intro state signature
    rw [scanAndStore]
    cases hfresh : s.freshScan disk path with
    | error error => exact fun h => freshScan_ne_config (hfresh.trans (congrArg _ (by cases h; rfl)))
    | ok found => cases found <;> exact fun h => by cases h
  rw [scanFile]
  cases s.signature? disk state path with
  | none => exact hstore state none
  | some signature =>
    simp only
    split
    · exact hstore _ _
    · rw [lookup]
      split
      · exact fun h => by cases h
      · split <;> exact fun h => by cases h

theorem Scanner.scanEach_ne_config {paths : List String} {sum : ProjectScan} :
    (s.scanEach disk state sum paths).1 ≠ .error (.config e) := by
  induction paths generalizing state sum with
  | nil => exact fun h => by cases h
  | cons path rest ih =>
    rw [scanEach]
    have hfile := @scanFile_ne_config s state disk path e
    generalize s.scanFile disk state path = result at hfile
    obtain ⟨found, after⟩ := result
    cases found with
    | error error => exact fun h => hfile (by cases h; rfl)
    | ok found =>
      cases found with
      | none => exact ih
      | some scan => exact ih

theorem addSafelist_ne_config {entries : List SafelistEntry} {scan : Scan} :
    addSafelist scan entries ≠ .error (.config e) := by
  induction entries generalizing scan with
  | nil => exact fun h => by cases h
  | cons entry rest ih =>
    cases entry with
    | other value => exact fun h => by cases h
    | text list => exact ih

theorem addNamed_ne_config {scan : Scan} : addNamed o scan ≠ .error (.config e) := by
  rw [addNamed]
  cases hsafe : addSafelist scan o.safelist with
  | error error => exact fun h => addSafelist_ne_config (hsafe.trans (by cases h; rfl))
  | ok named =>
    cases o.dynamicPatterns with
    | given entries =>
      cases hpatterns : readPatterns entries with
      | error error =>
        simp only [bind, Except.bind, hpatterns, Except.mapError]
        exact fun h => by cases h
      | ok patterns =>
        simp only [bind, Except.bind, hpatterns, Except.mapError]
        exact fun h => by cases h
    | _ => exact fun h => by cases h

/-- A scan stops at the extractors just if they cannot be used, and then before its first file. -/
theorem scanFiles_config {paths : List String} :
    (scanFiles o disk cwd base state paths).1 = .error (.config e) ↔
      Extractor.checkAll o.extractors = .error e := by
  rw [scanFiles]
  cases hcheck : Extractor.checkAll o.extractors with
  | error error =>
    simp only [Except.error.injEq, ScanError.config.injEq]
  | ok extractors =>
    refine iff_of_false ?_ fun h => by cases h
    simp only
    have heach := @Scanner.scanEach_ne_config
      ⟨o, extractors, cwd, Path.absolute cwd base⟩ state disk e paths {}
    generalize Scanner.scanEach _ disk state {} paths = result at heach
    obtain ⟨sum, after⟩ := result
    cases sum with
    | error error => exact fun h => heach (by cases h; rfl)
    | ok sum =>
      simp only
      cases hnamed : addNamed o sum.scan with
      | error error => exact fun h => addNamed_ne_config (hnamed.trans (by cases h; rfl))
      | ok scan => exact fun h => by cases h

theorem scanFiles_unused {paths : List String} (h : Extractor.checkAll o.extractors = .error e) :
    scanFiles o disk cwd base state paths = (.error (.config e), state) := by
  rw [scanFiles, h]

end

/-- A run stops at its extractors just if they cannot be used. -/
theorem run_config {o : ProjectOptions} {e : Extractor.ConfigError} :
    (run here o w).1 = .error (.scan (.config e)) ↔
      Extractor.checkAll o.extractors = .error e := by
  have hscan := @scanFiles_config o.toOptions
    ⟨some (Context.cacheOf w.disk (Context.baseOf here.cwd o) o), w.tally⟩ w.disk here.cwd
    (Context.baseOf here.cwd o) e
    (Glob.resolve w.disk here.cwd (Context.baseOf here.cwd o) o.content)
  rw [Rerun.run_eq_finish, ← hscan]
  generalize scanFiles o.toOptions w.disk here.cwd (Context.baseOf here.cwd o) _ _ = call
  obtain ⟨error | scan, state⟩ := call
  · simp
  · refine iff_of_false ?_ fun h => by cases h
    simp only
    rw [Rerun.finish]
    split
    · exact fun h => by cases h
    · exact pruneWith_ne_scan

theorem run_unused {o : ProjectOptions} {e : Extractor.ConfigError}
    (h : Extractor.checkAll o.extractors = .error e) :
    run here o w = (.error (.scan (.config e)), w) := by
  rw [Rerun.run_eq_finish, scanFiles_unused h]

namespace Program

open CommandLine (PruneArguments)

variable {s : Settings} {a : PruneArguments} {o : Outcome} {plan : RunPlan} {result : RunResult}
  {text more : List Char} {c : Char}

/-! ## What is printed first -/

/-- What the line of an error starts with. -/
def errorMark : List Char := (line "error: ").toList

/-- Whether a run starts its error stream with an error. -/
def PrintsError (o : Outcome) : Prop := errorMark <+: o.err.toList

/-- A text that is another one than the mark of an error before it ends. -/
def Departs (text : List Char) : Prop :=
  ∃ (n : Nat) (c d : Char), text[n]? = some c ∧ errorMark[n]? = some d ∧ c ≠ d

/-- The error stream is empty, or starts with no error. -/
def Quiet (o : Outcome) : Prop := o.err = "" ∨ Departs o.err.toList

theorem Departs.append (h : Departs text) (more : List Char) : Departs (text ++ more) := by
  obtain ⟨n, c, d, hc, hd, hne⟩ := h
  obtain ⟨hn, -⟩ := List.getElem?_eq_some_iff.1 hc
  exact ⟨n, c, d, by rw [List.getElem?_append_left hn, hc], hd, hne⟩

/-- A line of the program's own that is about something else. -/
theorem departs_line {words : String} (h : words.toList.head? = some c) (hc : c ≠ 'e') :
    Departs (line words).toList := by
  obtain ⟨rest, hrest⟩ := List.head?_eq_some_iff.1 h
  refine ⟨12, c, 'e', ?_, by decide, hc⟩
  rw [line, String.toList_append, hrest,
    show (mark ++ " ").toList = "[bonsaicss] ".toList by decide]
  exact List.getElem?_append_right (by decide : "[bonsaicss] ".toList.length ≤ 12)

theorem Quiet.not_printsError (h : Quiet o) : ¬ PrintsError o := by
  rintro ⟨rest, hrest⟩
  rcases h with hempty | ⟨n, c, d, hc, hd, hne⟩
  · rw [hempty] at hrest
    exact absurd (List.append_eq_nil_iff.1 hrest).1 (by decide)
  · obtain ⟨hn, -⟩ := List.getElem?_eq_some_iff.1 hd
    rw [← hrest, List.getElem?_append_left hn, hd] at hc
    exact hne (Option.some.inj hc).symm

theorem Quiet.note (h : Quiet o) {words : String} (hline : Departs words.toList) :
    Quiet (o.note words) := by
  right
  rw [Outcome.note, String.toList_append, String.toList_append]
  rcases h with hempty | hdeparts
  · rw [hempty]
    exact hline.append _
  · exact (hdeparts.append _).append _

/-- Lines that are no errors leave the stream quiet. -/
theorem Quiet.foldl (h : Quiet o) {α : Type} {words : α → String}
    (hline : ∀ x, Departs (words x).toList) (xs : List α) :
    Quiet (xs.foldl (fun o x => o.note (words x)) o) := by
  induction xs generalizing o with
  | nil => exact h
  | cons x rest ih => exact ih (h.note (hline x))

theorem quiet_emitStyles {disk disk' : Disk} (h : emitStyles plan result disk {} = .ok (o, disk')) :
    Quiet o := by
  rw [emitStyles] at h
  split at h
  · obtain ⟨rfl, -⟩ := Prod.mk.inj (Except.ok.inj h)
    refine .inl ?_
    rw [printStyles]
    split <;> rfl
  · obtain ⟨d, -, hd⟩ := map_eq_ok.1 h
    obtain ⟨rfl, -⟩ := Prod.mk.inj hd
    exact Quiet.note (.inl rfl) (departs_line (c := 'r') (by simp [toString]) (by decide))

theorem quiet_describe (h : Quiet o) : Quiet (describe plan result o) := by
  have hwarnings : Quiet (if plan.verbose then
      result.report.warnings.foldl (fun o warning => o.note s!"{mark}[warning] {warning}")
        (o.note (runLine result)) else o) := by
    split
    · refine (h.note ?_).foldl (fun warning => ?_) _
      · exact departs_line (c := 'f') (by simp [toString]) (by decide)
      · refine ⟨11, '[', ' ', ?_, by decide, by decide⟩
        simp [mark, toString]
    · exact h
  rw [describe]
  split
  · refine hwarnings.note ⟨0, '\x7b', '[', ?_, by decide, by decide⟩
    simp [figures, Json.compact, Json.print]
  · exact hwarnings

/-- What is printed after a run with a result starts with no error. -/
theorem quiet_finish : Quiet (finish plan result w).1 := by
  rw [finish]
  cases hstyles : emitStyles plan result w.disk {} with
  | error fault => exact .inl rfl
  | ok emitted =>
    obtain ⟨o, disk⟩ := emitted
    have hquiet : Quiet (describe plan result o) := quiet_describe (quiet_emitStyles hstyles)
    simp only [checkBudgets]
    split
    · exact hquiet
    · exact hquiet.foldl (fun message => departs_line (c := 'b') (by simp [toString]) (by decide)) _

/-! ## Runs that are refused -/

/-- The fault of the configuration that refuses a run, by its message: there is no plan, or the
extractors of the plan cannot be used. It is a matter of the configuration and of which files there
are, whatever the content files hold. -/
inductive Stops (disk : Disk) (cwd : String) (a : PruneArguments) (s : Settings) :
    String → Prop where
  | plan {e : ConfigError} (h : planOf disk cwd a s = .error (.inl e)) : Stops disk cwd a s e.message
  | extractors {plan : RunPlan} {e : Extractor.ConfigError} (h : planOf disk cwd a s = .ok plan)
      (hcheck : Extractor.checkAll plan.options.extractors = .error e)
      (hplain : ∀ p, e ≠ .pattern p) : Stops disk cwd a s e.message

theorem carryOut_refused {e : Extractor.ConfigError}
    (hcheck : Extractor.checkAll plan.options.extractors = .error e)
    (hplain : ∀ p, e ≠ .pattern p) : carryOut here plan w = (refused e.message, w) := by
  have hrun : run here { plan.options with css := .files plan.cssPaths } w =
      (.error (.scan (.config e)), w) := run_unused hcheck
  rw [carryOut, hrun]
  cases e with
  | pattern p => exact absurd rfl (hplain p)
  | _ => rfl

theorem unused_of_carryOut (h : PrintsError (carryOut here plan w).1) :
    ∃ e, Extractor.checkAll plan.options.extractors = .error e ∧ ∀ p, e ≠ .pattern p := by
  rw [carryOut] at h
  split at h
  · rename_i e _ hrun
    refine ⟨e, (run_config (o := { plan.options with css := .files plan.cssPaths })).1
      (congrArg Prod.fst hrun), fun p hp => ?_⟩
    rw [hp] at h
    exact Quiet.not_printsError (.inl rfl) h
  · exact absurd h (Quiet.not_printsError (.inl rfl))
  · exact absurd h quiet_finish.not_printsError

theorem prune_stops {message : String} (h : Stops w.disk here.cwd a s message) :
    prune here s a w = (refused message, w) := by
  cases h with
  | plan h => rw [prune, h]
  | extractors h hcheck hplain =>
    rw [prune, h]
    exact carryOut_refused hcheck hplain

theorem printsError_refused (message : String) : PrintsError (refused message) := by
  refine ⟨(message ++ "\n").toList, ?_⟩
  simp [errorMark, refused, Outcome.note, line, toString]

/-- A run starts its error stream with an error just if its configuration is at fault. Then the
message of that fault is all that it prints and its exit code is one, all files and counts are as
they were, and so no content file was scanned. -/
theorem prune_prints_error (here : Surroundings) (s : Settings) (a : PruneArguments)
    (w : Workspace) :
    (PrintsError (prune here s a w).1 ↔ ∃ message, Stops w.disk here.cwd a s message) ∧
      ∀ message, Stops w.disk here.cwd a s message →
        (prune here s a w).1.err = line s!"error: {message}" ++ "\n" ∧
          (prune here s a w).1.out = "" ∧ (prune here s a w).1.code.toOption = some 1 ∧
          (prune here s a w).2 = w := by
  refine ⟨⟨fun h => ?_, fun ⟨message, h⟩ => ?_⟩, fun message h => ?_⟩
  · rw [prune] at h
    cases hplan : planOf w.disk here.cwd a s with
    | error e =>
      rw [hplan] at h
      cases e with
      | inl e => exact ⟨_, .plan hplan⟩
      | inr e => exact absurd h (Quiet.not_printsError (.inl rfl))
    | ok plan =>
      rw [hplan] at h
      obtain ⟨e, hcheck, hplain⟩ := unused_of_carryOut h
      exact ⟨_, .extractors hplan hcheck hplain⟩
  · rw [prune_stops h]
    exact printsError_refused message
  · rw [prune_stops h]
    exact ⟨rfl, rfl, rfl, rfl⟩

/-! ## A project with an extractor that extracts nothing -/

namespace UnusedExtractor

def file (text : String) : File := ⟨Utf8.encode text, 1⟩

def configuration : String :=
  "\x7b\"content\": [\"*.html\"], \"css\": [\"a.css\"], \"cache_dir\": \".cache\", " ++
    "\"extractors\": [\x7b\"name\": \"mine\"\x7d]\x7d"

def project : Workspace where
  disk :=
    { files := [(["p", "bonsaicss.json"], file configuration), (["p", "a.css"], file ".a\x7b\x7d"),
        (["p", "i.html"], file "class=\"a\"")]
      directories := [["p"]]
      clock := 9 }

def arguments : PruneArguments := { analyze := some .usual, out := some "o.css" }

theorem prune_prints_error_unused :
    PrintsError (prune ⟨"/p", "", 0⟩ {} arguments project).1 ∧
      (prune ⟨"/p", "", 0⟩ {} arguments project).1.err =
        "[bonsaicss] error: Extractor 'mine' must provide an extract strategy.\n" ∧
      (prune ⟨"/p", "", 0⟩ {} arguments project).1.out = "" ∧
      (prune ⟨"/p", "", 0⟩ {} arguments project).2 = project := by
  have herr : (prune ⟨"/p", "", 0⟩ {} arguments project).1.err =
      "[bonsaicss] error: Extractor 'mine' must provide an extract strategy.\n" := by
    decide +kernel
  have hprints : PrintsError (prune ⟨"/p", "", 0⟩ {} arguments project).1 := by
    rw [PrintsError, herr]
    decide
  obtain ⟨hstops, hclean⟩ := prune_prints_error ⟨"/p", "", 0⟩ {} arguments project
  obtain ⟨message, h⟩ := hstops.1 hprints
  obtain ⟨-, hout, -, hsame⟩ := hclean message h
  exact ⟨hprints, herr, hout, hsame⟩

end UnusedExtractor

end Program

end StylePrune
