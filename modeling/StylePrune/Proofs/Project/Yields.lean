import StylePrune.Proofs.Project.ScanOrder

/-!
# What files yield

A project scan has every class that a file yields, and the origins that its files give
(`scanFiles_ok`). Whatever adds a class with an origin, recognisers, extractors or a merge, adds it
to the classes too (`Scan.Backed`); a cache that was written by hand may not.
-/

namespace StylePrune

open Outcome (bind_eq_ok map_eq_ok mapError_eq_ok)

/-! ## Classes with origins -/

namespace Scan

variable {a b scan : Scan} {scans : List Scan}

/-- Every class that has origins is among the classes. -/
def Backed (scan : Scan) : Prop := ∀ name ∈ scan.origins.names, name ∈ scan.classes

theorem Backed.empty : ({} : Scan).Backed := fun _ h => (List.not_mem_nil h).elim

theorem Backed.addClass (h : scan.Backed) (name : String) (origin : Option String) :
    (scan.addClass name origin).Backed := by
  intro other hother
  refine (Sorted.mem_insert Sorted.strict_stringLt ..).2 ?_
  cases origin with
  | none => exact .inr (h other hother)
  | some place => exact (Origins.mem_names_add.1 hother).imp_right (h other)

theorem Backed.merge (ha : a.Backed) (hb : b.Backed) : (a.merge b).Backed := by
  have hnames : ∀ {o o' : Origins} {name : String}, name ∈ (o.merge o').names →
      name ∈ o.names ∨ name ∈ o'.names := by
    intro o o' name h
    induction o' generalizing o with
    | nil => exact .inl h
    | cons entry rest ih =>
      rcases ih h with h | h
      · exact (Origins.mem_names_add.1 h).elim (fun e => .inr (e ▸ List.mem_cons_self)) .inl
      · exact .inr (List.mem_cons_of_mem _ h)
  intro name h
  exact (Sorted.mem_union Sorted.strict_stringLt ..).2 ((hnames h).imp (ha name) (hb name))

theorem Backed.foldl (ha : a.Backed) (h : ∀ s ∈ scans, s.Backed) :
    (scans.foldl Scan.merge a).Backed := by
  induction scans generalizing a with
  | nil => exact ha
  | cons s rest ih =>
    obtain ⟨hs, hrest⟩ := List.forall_mem_cons.1 h
    exact ih (ha.merge hs) hrest

theorem Backed.addTokens {α : Type} {name : α → String} {origin : α → Option String} :
    ∀ (tokens : List α) {scan : Scan}, scan.Backed →
      (tokens.foldl (fun scan t => scan.addClass (name t) (origin t)) scan).Backed
  | [], _, h => h
  | t :: rest, _, h => addTokens rest (h.addClass (name t) (origin t))

end Scan

theorem Content.backed_scan (collectDynamic : Bool) (label : Option String) (content : List Char) :
    (Content.scan collectDynamic label content).Backed := by
  have folded : ∀ (source : Source) (ys : List Yield) (s : Scan), s.Backed →
      (ys.foldl (addYield source) s).Backed := by
    intro source ys
    induction ys with
    | nil => exact fun _ h => h
    | cons y ys ih => exact fun s h => ih _ (h.addTokens y.tokens)
  exact folded _ (yields collectDynamic content) {} .empty

theorem Extractor.backed_contribution {context : Context} {label : Option String} {e : Extractor}
    {scan : Scan} (h : contribution context label e = .ok scan) : scan.Backed := by
  have folded : ∀ (entries : List (Option (List Char × Nat))) (s : Scan), s.Backed →
      (entries.foldl (addFound label) s).Backed := by
    intro entries
    induction entries with
    | nil => exact fun _ h => h
    | cons entry rest ih =>
      refine fun s h => ih _ ?_
      cases entry with
      | none => exact h
      | some found => exact h.addTokens _
  rw [contribution] at h
  split at h
  · obtain rfl := Except.ok.inj h
    exact .empty
  · obtain rfl := Except.ok.inj h
    exact .empty
  · rw [applyResult_eq] at h
    obtain ⟨reading, -, rfl⟩ := map_eq_ok.1 h
    exact folded reading.entries _ .empty

theorem backed_scanText {o : Options} {extractors : List Extractor} {content cwd : String}
    {label : Option String} {scan : Scan}
    (h : scanText o extractors content label cwd = .ok scan) : scan.Backed := by
  rw [scanText] at h
  split at h
  · obtain rfl := Except.ok.inj h
    exact Content.backed_scan _ _ _
  · have h := mapError_eq_ok.1 h
    rw [Extractor.run_eq] at h
    obtain ⟨scans, hscans, rfl⟩ := map_eq_ok.1 h
    refine Scan.Backed.foldl .empty fun s hs => ?_
    obtain ⟨e, -, he⟩ := Outcome.exists_of_mem_mapM hscans hs
    exact Extractor.backed_contribution he

/-- Every class for which an entry of a cache holds origins is among the classes of the entry. -/
def ScanCache.Backed (cache : ScanCache) : Prop :=
  ∀ path e, (path, e) ∈ cache.entries → ∀ name ∈ e.origins.names, name ∈ e.classes

theorem Caching.backed_answer {s : Scanner} {disk : Disk} {state : ScanState} {path : String}
    {scan : Scan} (hcache : ∀ cache, state.cache = some cache → cache.Backed)
    (h : answer s disk state path = .ok (some scan)) : scan.Backed := by
  rcases answer_ok h with ⟨content, hscan⟩ | ⟨cache, e, hc, he, hscan⟩
  · exact backed_scanText hscan
  · rw [CacheEntry.scan] at hscan
    obtain ⟨patterns, -, heq⟩ := bind_eq_ok.1 hscan
    obtain rfl := Except.ok.inj heq
    intro name hname
    rw [Origins.names, List.map_map] at hname
    exact (Sorted.mem_ofList Sorted.strict_stringLt ..).2 (hcache cache hc _ e he name hname)

/-! ## What files yield is in the sum -/

section

variable {o : Options} {disk : Disk} {cwd base : String} {state : ScanState} {paths : List String}
  {scan named : Scan} {sum : ProjectScan}

theorem mem_classes_addSafelist {name : String} : ∀ {entries : List SafelistEntry}
    {scan named : Scan}, addSafelist scan entries = .ok named → name ∈ scan.classes →
      name ∈ named.classes
  | [], _, _, h, hname => Except.ok.inj h ▸ hname
  | .text list :: rest, scan, named, h, hname => by
    rw [addSafelist] at h
    exact mem_classes_addSafelist h ((Sorted.mem_union Sorted.strict_stringLt ..).2 (.inl hname))
  | .other value :: rest, _, _, h, _ => by cases h

/-- What options name is added to the classes and patterns, and nothing else changes. -/
theorem addNamed_ok (h : addNamed o scan = .ok named) :
    named.origins = scan.origins ∧ ∀ name ∈ scan.classes, name ∈ named.classes := by
  obtain ⟨given, heq⟩ := addNamed_eq o
  rw [heq] at h
  obtain ⟨listed, hlisted, h⟩ := bind_eq_ok.1 h
  obtain ⟨given, -, rfl⟩ := map_eq_ok.1 h
  obtain ⟨hsame, -⟩ := addSafelist_ok hlisted
  have horigins : listed.origins = scan.origins := by rw [hsame]
  have hclasses : ∀ name ∈ scan.classes, name ∈ listed.classes :=
    fun name => mem_classes_addSafelist hlisted
  exact ⟨horigins, hclasses⟩

/-- The scans that a project scan was made of. -/
theorem scanFiles_ok (hcwd : Path.isAbsolute cwd = true)
    (h : (scanFiles o disk cwd base state paths).1 = .ok sum) : ∃ extractors, ∃ scans : List Scan,
      Extractor.checkAll o.extractors = .ok extractors ∧
      (∀ path ∈ paths, ∀ scan, (scanFile o disk cwd base state path).1 = .ok (some scan) →
        scan ∈ scans) ∧
      (∀ scan ∈ scans, ∃ path, Caching.answer ⟨o, extractors, cwd, Path.absolute cwd base⟩ disk
        state path = .ok (some scan)) ∧
      sum.scan.origins = (scans.foldl Scan.merge {}).origins ∧
      ∀ name ∈ (scans.foldl Scan.merge {}).classes, name ∈ sum.scan.classes := by
  cases hchecked : Extractor.checkAll o.extractors with
  | error e =>
    rw [scanFiles, hchecked] at h
    cases h
  | ok extractors =>
    obtain ⟨found, named, hfound, hnamed, rfl⟩ := (scanFiles_ok_iff hcwd hchecked).1 h
    rw [Caching.total_eq] at hnamed
    refine ⟨extractors, found.filterMap id, rfl, fun path hpath scan hscan => ?_,
      fun scan hscan => ?_, addNamed_ok hnamed⟩
    · rw [scanFile, hchecked] at hscan
      exact List.mem_filterMap.2 ⟨some scan, Outcome.mem_of_mem_mapM hfound hpath hscan, rfl⟩
    · obtain ⟨given, hgiven, rfl⟩ := List.mem_filterMap.1 hscan
      obtain ⟨path, -, hpath⟩ := Outcome.exists_of_mem_mapM hfound hgiven
      exact ⟨path, hpath⟩

end

end StylePrune
