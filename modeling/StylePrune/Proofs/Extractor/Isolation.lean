import StylePrune.Extractor.Run
import StylePrune.Proofs.Outcome
import StylePrune.Proofs.Scan.Order

/-!
# Extractors do not reach into each other

A result is read without a look at the scan it is added to (`applyResult_eq`), and what it says is
added to any scan alike (`Reading.addTo_merge`). So a run of extractors is made of the runs of each
alone (`run_isolated`): their scans are merged in order, and the first pattern of each written form
is kept. An extractor that fails while it is tried adds its warning and nothing else. Results are
read after that, so one that cannot be read ends the whole run (`run_unreadable`); these are the
only ones that do (`Result.Readable`).
-/

namespace StylePrune.Extractor

open Regex (Pattern PatternError)
open Outcome (bind_eq_ok mapError_ok mapError_eq_ok map_eq_ok mapM_ok_iff mapM_map)

/-! ## Results, read -/

/-- What a result says: the texts of its warnings, its class lists with their lines, where an entry
may be none, and its patterns. -/
structure Reading where
  warnings : List String
  entries : List (Option (List Char × Nat))
  patterns : List Pattern

/-- Reads a result. -/
def Result.read (r : Result) : Except RunError Reading := do
  let warnings ← (r.warnings.items).mapError .fault
  let warnings ← (warnings.mapM Value.shown).mapError .fault
  let entries ← (r.classes.items).mapError .fault
  let entries ← (entries.mapM entryOf?).mapError .fault
  let patterns ← (r.dynamicPatterns.itemsOrNone).mapError .fault
  let patterns ← (readPatterns (patterns.map patternEntry)).mapError .pattern
  return ⟨warnings, entries, patterns⟩

/-- Results that can be read: the fields can be gone through, each warning can be shown, each entry
is a class list whose name is text and whose line is a number within bounds, or no entry at all, and
no pattern is refused for more than its syntax. -/
structure Result.Readable (r : Result) : Prop where
  warnings : ∃ items texts, r.warnings.items = .ok items ∧ items.mapM Value.shown = .ok texts
  entries : ∃ items, r.classes.items = .ok items ∧
    ∀ entry ∈ items, ∃ found, entryOf? entry = .ok found
  patterns : ∃ items patterns, r.dynamicPatterns.itemsOrNone = .ok items ∧
    readPatterns (items.map patternEntry) = .ok patterns

/-- Adds the class list of an entry, if it is one. -/
def addFound (label : Option String) (scan : Scan) : Option (List Char × Nat) → Scan
  | none => scan
  | some (text, line) =>
    (tokenizeClassList text).foldl
      (fun scan token => scan.addClass token (label.map fun label => s!"{label}:{line}")) scan

/-- Adds what a result says to a scan. -/
def Reading.addTo (reading : Reading) (name : String) (label : Option String) (scan : Scan) :
    Scan :=
  let scan := { scan with
    warnings := scan.warnings ++ reading.warnings.map fun text => s!"[{name}] {text}" }
  let scan := reading.entries.foldl (addFound label) scan
  { scan with dynamicPatterns := scan.dynamicPatterns ++ reading.patterns }

section

variable {name : String} {label : Option String}

theorem addEntries_eq (entries : List Value) (scan : Scan) :
    addEntries label scan entries =
      (entries.mapM entryOf?).map fun found => found.foldl (addFound label) scan := by
  induction entries generalizing scan with
  | nil => rfl
  | cons entry rest ih =>
    rw [addEntries, addEntry, List.mapM_cons]
    cases entryOf? entry with
    | error fault => rfl
    | ok found =>
      cases found with
      | none =>
        simp only [ih]
        cases rest.mapM entryOf? <;> rfl
      | some found =>
        simp only [ih]
        cases rest.mapM entryOf? <;> rfl

/-- Results are read before anything of them is added. -/
theorem applyResult_eq (r : Result) (scan : Scan) :
    applyResult name label scan r = r.read.map fun reading => reading.addTo name label scan := by
  simp only [applyResult, Result.read, addEntries_eq, bind, Except.bind]
  cases r.warnings.items with
  | error fault => rfl
  | ok warnings =>
    simp only [mapError_ok]
    cases warnings.mapM Value.shown with
    | error fault => rfl
    | ok texts =>
      simp only [mapError_ok]
      cases r.classes.items with
      | error fault => rfl
      | ok entries =>
        simp only [mapError_ok]
        cases entries.mapM entryOf? with
        | error fault => rfl
        | ok found =>
          simp only [mapError_ok, Except.map]
          cases r.dynamicPatterns.itemsOrNone with
          | error fault => rfl
          | ok patterns =>
            simp only [mapError_ok]
            cases readPatterns (patterns.map patternEntry) <;> rfl

theorem ordered_addFound {scan : Scan} (h : scan.Ordered) :
    ∀ found, (addFound label scan found).Ordered
  | none => h
  | some (text, line) => by
    rw [addFound]
    induction tokenizeClassList text generalizing scan with
    | nil => exact h
    | cons token rest ih => exact ih (h.addClass token _)

theorem addFound_merge {a b : Scan} (ha : a.Ordered) (hb : b.Ordered) :
    ∀ found, addFound label (a.merge b) found = a.merge (addFound label b found)
  | none => rfl
  | some (text, line) => by
    rw [addFound, addFound]
    induction tokenizeClassList text generalizing b with
    | nil => rfl
    | cons token rest ih =>
      rw [List.foldl_cons, List.foldl_cons, ← Scan.merge_addClass ha hb]
      exact ih (hb.addClass token _)

theorem ordered_foldl_addFound (found : List (Option (List Char × Nat))) {scan : Scan}
    (h : scan.Ordered) : (found.foldl (addFound label) scan).Ordered := by
  induction found generalizing scan with
  | nil => exact h
  | cons f rest ih => exact ih (ordered_addFound h f)

theorem foldl_addFound_merge (found : List (Option (List Char × Nat))) {a b : Scan}
    (ha : a.Ordered) (hb : b.Ordered) :
    found.foldl (addFound label) (a.merge b) = a.merge (found.foldl (addFound label) b) := by
  induction found generalizing b with
  | nil => rfl
  | cons f rest ih =>
    rw [List.foldl_cons, List.foldl_cons, addFound_merge ha hb]
    exact ih (ordered_addFound hb f)

theorem Reading.ordered_addTo (reading : Reading) {scan : Scan} (h : scan.Ordered) :
    (reading.addTo name label scan).Ordered := by
  have hstart : { scan with
      warnings := scan.warnings ++ reading.warnings.map fun text => s!"[{name}] {text}" }.Ordered :=
    ⟨h.classes, h.origins⟩
  have hadded : (reading.entries.foldl (addFound label) _).Ordered :=
    ordered_foldl_addFound reading.entries hstart
  exact ⟨hadded.classes, hadded.origins⟩

/-- What a result says is added to a scan as the scan of the result alone is. -/
theorem Reading.addTo_merge (reading : Reading) {a : Scan} (ha : a.Ordered) :
    reading.addTo name label a = a.merge (reading.addTo name label {}) := by
  have hstart : { a with
      warnings := a.warnings ++ reading.warnings.map fun text => s!"[{name}] {text}" } =
        a.merge { warnings := reading.warnings.map fun text => s!"[{name}] {text}" } := by
    simp [Scan.merge, Sorted.unionStrings, Sorted.union]
  have hordered : ({ warnings := reading.warnings.map fun text => s!"[{name}] {text}" } :
      Scan).Ordered := ⟨.nil, Scan.Ordered.empty.origins⟩
  rw [Reading.addTo, hstart, foldl_addFound_merge _ ha hordered]
  simp only [Reading.addTo, Scan.merge, List.append_assoc, List.nil_append]

end

theorem Result.read_ok_iff (r : Result) : (∃ reading, r.read = .ok reading) ↔ r.Readable := by
  simp only [Result.read, bind_eq_ok, mapError_eq_ok]
  constructor
  · rintro ⟨_, items, hitems, texts, htexts, entries, hentries, found, hfound, patterns, hpatterns,
      ps, hps, _⟩
    exact ⟨⟨items, texts, hitems, htexts⟩, ⟨entries, hentries, mapM_ok_iff.1 ⟨found, hfound⟩⟩,
      ⟨patterns, ps, hpatterns, hps⟩⟩
  · rintro ⟨⟨items, texts, hitems, htexts⟩, ⟨entries, hentries, hall⟩, patterns, ps, hpatterns, hps⟩
    obtain ⟨found, hfound⟩ := mapM_ok_iff.2 hall
    exact ⟨⟨texts, found, ps⟩, items, hitems, texts, htexts, entries, hentries, found, hfound,
      patterns, hpatterns, ps, hps, rfl⟩

/-! ## Runs -/

/-- What extractors are given of a text. -/
def givenContext (content : String) (label : Option String) (cwd : String) : Context :=
  ⟨normalizeSlashes ((label.filter (· ≠ "")).getD "<inline>"), content, cwd⟩

/-- What an extractor adds to a scan. -/
def contribution (context : Context) (label : Option String) (e : Extractor) :
    Except RunError Scan :=
  match attempt e context with
  | .error text => .ok { warnings := [s!"[{e.name}] {text}"] }
  | .ok none => .ok {}
  | .ok (some r) => applyResult e.name label {} r

section

variable {context : Context} {label : Option String}

theorem ordered_contribution {e : Extractor} {scan : Scan}
    (h : contribution context label e = .ok scan) : scan.Ordered := by
  rw [contribution] at h
  split at h
  · cases h
    exact ⟨.nil, Scan.Ordered.empty.origins⟩
  · cases h
    exact Scan.Ordered.empty
  · rename_i r _
    rw [applyResult_eq] at h
    cases hread : r.read with
    | error error => rw [hread] at h; cases h
    | ok reading =>
      rw [hread] at h
      cases h
      exact reading.ordered_addTo Scan.Ordered.empty

/-- One step of a run merges what its extractor adds. -/
theorem runFrom_cons {scan : Scan} (h : scan.Ordered) (e : Extractor) (rest : List Extractor) :
    runFrom context label scan (e :: rest) =
      (contribution context label e).bind fun s => runFrom context label (scan.merge s) rest := by
  rw [runFrom, contribution]
  cases attempt e context with
  | error text =>
    have : { scan with warnings := scan.warnings ++ [s!"[{e.name}] {text}"] } =
        scan.merge { warnings := [s!"[{e.name}] {text}"] } := by
      simp [Scan.merge, Sorted.unionStrings, Sorted.union]
    exact congrArg (runFrom context label · rest) this
  | ok found =>
    cases found with
    | none => exact congrArg (runFrom context label · rest) (Scan.merge_empty scan).symm
    | some r =>
      simp only [applyResult_eq]
      cases r.read with
      | error error => rfl
      | ok reading =>
        exact congrArg (runFrom context label · rest) (reading.addTo_merge h)

theorem runFrom_eq (es : List Extractor) {scan : Scan} (h : scan.Ordered) :
    runFrom context label scan es =
      (es.mapM (contribution context label)).map fun scans =>
        (scans.foldl Scan.merge scan).dedupe := by
  induction es generalizing scan with
  | nil => rfl
  | cons e rest ih =>
    rw [runFrom_cons h, List.mapM_cons]
    cases contribution context label e with
    | error error => rfl
    | ok s =>
      simp only [Except.bind, ih h.merge]
      cases rest.mapM (contribution context label) <;> rfl

end

theorem run_eq (es : List Extractor) (content : String) (label : Option String) (cwd : String) :
    run es content label cwd =
      (es.mapM (contribution (givenContext content label cwd) (label.filter (· ≠ "")))).map
        Scan.mergeAll :=
  runFrom_eq es Scan.Ordered.empty

theorem run_alone (e : Extractor) (content : String) (label : Option String) (cwd : String) :
    run [e] content label cwd = (contribution (givenContext content label cwd)
      (label.filter (· ≠ "")) e).map Scan.dedupe := by
  rw [run_eq, List.mapM_cons]
  cases h : contribution (givenContext content label cwd) (label.filter (· ≠ "")) e with
  | error error => rfl
  | ok scan => exact congrArg (Except.ok ·.dedupe) (Scan.empty_merge (ordered_contribution h))

theorem contribution_ok_iff {context : Context} (label : Option String) {e : Extractor} :
    (∃ scan, contribution context label e = .ok scan) ↔
      ∀ r, attempt e context = .ok (some r) → r.Readable := by
  rw [contribution]
  cases attempt e context with
  | error text => simp
  | ok found =>
    cases found with
    | none => simp
    | some r =>
      simp only [applyResult_eq, map_eq_ok, Except.ok.injEq, Option.some.injEq, forall_eq',
        ← Result.read_ok_iff]
      exact ⟨fun ⟨_, reading, h, _⟩ => ⟨reading, h⟩, fun ⟨reading, h⟩ => ⟨_, reading, h, rfl⟩⟩

/-- A run of extractors merges, in order, the runs of each alone, and keeps the first pattern of
each written form; a run alone of one that fails when it is tried, be it in its test, in its call or
by what it gives back, is its warning and nothing else. The run gives a scan exactly if every result
that was given back can be read. -/
theorem run_isolated (es : List Extractor) (content : String) (label : Option String)
    (cwd : String) :
    run es content label cwd =
        (es.mapM fun e => run [e] content label cwd).map Scan.mergeAll ∧
      ((∃ scan, run es content label cwd = .ok scan) ↔
        ∀ e ∈ es, ∀ r, attempt e (givenContext content label cwd) = .ok (some r) → r.Readable) ∧
      ∀ e text, attempt e (givenContext content label cwd) = .error text →
        run [e] content label cwd = .ok { warnings := [s!"[{e.name}] {text}"] } := by
  refine ⟨?merged, ?reads, ?failed⟩
  case merged =>
    simp only [run_alone, mapM_map]
    rw [run_eq]
    cases es.mapM (contribution (givenContext content label cwd) (label.filter (· ≠ ""))) with
    | error error => rfl
    | ok scans => exact congrArg Except.ok (Scan.dedupe_foldl_merge scans {}).symm
  case reads =>
    simp only [← contribution_ok_iff (label.filter (· ≠ "")), ← mapM_ok_iff, run_eq, map_eq_ok]
    exact ⟨fun ⟨_, scans, h, _⟩ => ⟨scans, h⟩, fun ⟨scans, h⟩ => ⟨_, scans, h, rfl⟩⟩
  case failed =>
    intro e text h
    rw [run_alone, contribution, h]
    rfl

example :
    run [⟨"first", .function fun _ => .error "broken", .always⟩,
        ⟨"second", .function fun _ => .ok (.data (.int 5)), .predicate fun _ => .error "untested"⟩,
        ⟨"third", .function fun _ => .ok (.data (.str "a")), .always⟩,
        ⟨"fourth", .function fun _ => .ok (.mapping [("classes", Value.ofStrings ["b a"])]),
          .always⟩] "x" (some "f") "." =
      .ok {
        classes := ["a", "b"]
        origins := [("b", ["f:1"]), ("a", ["f:1"])]
        warnings := ["[first] broken", "[second] untested",
          "[third] unsupported extractor result str"] } := rfl

/-- A result whose classes cannot be gone through ends the run, and the next extractor does not
run. -/
theorem run_unreadable :
    run [⟨"extractor:1", .function fun _ => .ok (.result (.data (.int 5)) (.list []) (.list [])),
          .always⟩,
        ⟨"extractor:2", .function fun _ => .ok (.mapping [("classes", Value.ofStrings ["a"])]),
          .always⟩] "x" none "." =
      .error (.fault (.notIterable "int")) := rfl

end StylePrune.Extractor
