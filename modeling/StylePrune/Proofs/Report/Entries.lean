import StylePrune.Proofs.Project.Yields
import StylePrune.Proofs.Prune.Safelist
import StylePrune.Report.Basic

/-!
# The entries of a report

Of entries that are put in one after the other the first of each name stays, in the order of the
names (`mem_insertAll`, `increasing_insertAll`). So a report has one entry for each class that
content or a selector names, with what the lists of the pruner say of it (`accounts_entriesOf`).
The scan of a project has all that its files yield, so no such class is reported as removed
(`build_agrees`).
-/

namespace StylePrune

open Outcome (map_eq_ok)

theorem Origins.WellFormed.placesOf_of_mem {origins : Origins} (h : origins.WellFormed)
    {o : String × List String} (ho : o ∈ origins) : origins.placesOf o.1 = o.2 := by
  obtain ⟨before, after, rfl⟩ := List.append_of_mem ho
  have hnames := h.names
  rw [List.map_append, List.nodup_append] at hnames
  have hlookup : (before ++ o :: after).lookup o.1 = some o.2 := by
    refine List.lookup_eq_some_iff.2 ⟨before, after, rfl, fun p hp => bne_iff_ne.2 ?_⟩
    exact (hnames.2.2 p.1 (List.mem_map_of_mem hp) o.1 List.mem_cons_self).symm
  rw [placesOf, hlookup, Option.getD_some]

namespace Report

open Prune (Named)

/-! ## Entries put in one after the other -/

section

variable {entries given : List ReportEntry} {entry x : ReportEntry}

/-- Entries with one for each name, in the order of the names. -/
def Increasing (entries : List ReportEntry) : Prop :=
  entries.Pairwise fun a b => Text.lt a.name b.name = true

/-- An entry is put in unless there is one of its name. -/
theorem mem_insertEntry (h : Increasing entries) : x ∈ insertEntry entry entries ↔
    x ∈ entries ∨ x = entry ∧ ∀ y ∈ entries, y.name ≠ entry.name := by
  induction entries with
  | nil => simp [insertEntry]
  | cons other rest ih =>
    obtain ⟨hother, hrest⟩ := List.pairwise_cons.1 h
    rw [insertEntry]
    split
    · rename_i heq
      exact (or_iff_left fun hx => hx.2 other List.mem_cons_self heq.symm).symm
    rename_i hne
    split
    · rename_i hlt
      -- The names from here on are all greater, so none of them is the entry's.
      have hnone : ∀ y ∈ other :: rest, y.name ≠ entry.name := by
        intro y hy heq
        have hlt : Text.lt entry.name y.name = true := by
          rcases List.mem_cons.1 hy with rfl | hy
          · exact hlt
          · exact Text.strict_lt.trans _ _ _ hlt (hother y hy)
        rw [heq, Text.strict_lt.irrefl] at hlt
        cases hlt
      rw [List.mem_cons, or_comm]
      exact or_congr_right (and_iff_left hnone).symm
    · rw [List.mem_cons, ih hrest, List.mem_cons, or_assoc, List.forall_mem_cons]
      exact or_congr_right (or_congr_right (and_congr_right fun _ =>
        (and_iff_right (Ne.symm hne)).symm))

theorem increasing_insertEntry (h : Increasing entries) :
    Increasing (insertEntry entry entries) := by
  induction entries with
  | nil => exact List.pairwise_singleton _ _
  | cons other rest ih =>
    obtain ⟨hother, hrest⟩ := List.pairwise_cons.1 h
    rw [insertEntry]
    split
    · exact h
    rename_i hne
    split
    · rename_i hlt
      refine List.pairwise_cons.2 ⟨fun y hy => ?_, h⟩
      rcases List.mem_cons.1 hy with rfl | hy
      · exact hlt
      · exact Text.strict_lt.trans _ _ _ hlt (hother y hy)
    · rename_i hnot
      have hgreater : Text.lt other.name entry.name = true := by
        rw [← Bool.not_eq_false]
        exact fun hge => hne (Text.strict_lt.total _ _ (Bool.not_eq_true _ ▸ hnot) hge)
      refine List.pairwise_cons.2 ⟨fun y hy => ?_, ih hrest⟩
      rcases (mem_insertEntry hrest).1 hy with hy | ⟨rfl, -⟩
      · exact hother y hy
      · exact hgreater

/-- Entries put in one after the other. -/
def insertAll (given : List ReportEntry) : List ReportEntry :=
  given.foldl (fun entries entry => insertEntry entry entries) []

theorem insertAll_concat (given : List ReportEntry) (entry : ReportEntry) :
    insertAll (given ++ [entry]) = insertEntry entry (insertAll given) := by
  rw [insertAll, List.foldl_append]
  rfl

theorem increasing_insertAll (given : List ReportEntry) : Increasing (insertAll given) := by
  induction given using List.reverseRecOn with
  | nil => exact .nil
  | append_singleton given entry ih =>
    rw [insertAll_concat]
    exact increasing_insertEntry ih

/-- Every name that is given is put in, and no other. -/
theorem name_insertAll {name : Text} :
    (∃ x ∈ insertAll given, x.name = name) ↔ ∃ x ∈ given, x.name = name := by
  induction given using List.reverseRecOn with
  | nil => exact Iff.rfl
  | append_singleton given entry ih =>
    simp only [insertAll_concat, mem_insertEntry (increasing_insertAll given), or_and_right,
      exists_or, List.mem_append, List.mem_singleton, ih]
    constructor
    · rintro (h | ⟨x, ⟨rfl, -⟩, rfl⟩)
      · exact .inl h
      · exact .inr ⟨x, rfl, rfl⟩
    · rintro (h | ⟨x, rfl, rfl⟩)
      · exact .inl h
      · by_cases hx : ∃ y ∈ given, y.name = x.name
        · exact .inl hx
        · exact .inr ⟨x, ⟨rfl, fun y hy hname => hx (ih.1 ⟨y, hy, hname⟩)⟩, rfl⟩

/-- Of the entries of one name the first is put in. -/
theorem mem_insertAll :
    x ∈ insertAll given ↔ given.find? (fun y => y.name = x.name) = some x := by
  induction given using List.reverseRecOn with
  | nil => simp [insertAll]
  | append_singleton given entry ih =>
    rw [insertAll_concat, mem_insertEntry (increasing_insertAll given), ih, List.find?_append,
      Option.or_eq_some_iff]
    refine or_congr_right ?_
    have hnone : given.find? (fun y => y.name = x.name) = none ↔
        ∀ y ∈ insertAll given, y.name ≠ x.name := by
      have hnames := not_congr (@name_insertAll given x.name)
      simp only [not_exists, not_and] at hnames
      simpa using hnames.symm
    rw [hnone, List.find?_singleton]
    constructor
    · rintro ⟨rfl, hnew⟩
      exact ⟨hnew, by simp⟩
    · rintro ⟨hnew, heq⟩
      split at heq
      · obtain rfl := Option.some.inj heq
        exact ⟨rfl, hnew⟩
      · cases heq

end

/-! ## What a report says of each class -/

/-- The style sheet has a selector that names the class. -/
def References (css : String) (name : Text) : Prop :=
  ∃ s, Css.read css.toList = .ok s ∧ Named s name

/-- Entries that say of each class, in the order of the names, what became of it and where it was
found. -/
structure Accounts (origins : Origins) (result : PruneResult) (references counts : Text → Prop)
    (entries : List ReportEntry) : Prop where
  increasing : entries.Pairwise fun a b => a.name.codes < b.name.codes
  names : ∀ name, (∃ e ∈ entries, e.name = name) ↔
    (∃ c ∈ origins.names, Text.ofString c = name) ∨ name ∈ result.keptClasses ∨
      name ∈ result.removedClasses
  kept : ∀ e ∈ entries, e.status = .kept ↔ references e.name ∧ counts e.name
  removed : ∀ e ∈ entries, e.status = .removed ↔ references e.name ∧ ¬ counts e.name
  detectedOnly : ∀ e ∈ entries, e.status = .detectedOnly ↔ ¬ references e.name
  sorted : ∀ e ∈ entries, e.origins.Pairwise fun a b => Sorted.stringLt a b = true
  places : ∀ e ∈ entries, ∀ place, place ∈ e.origins ↔
    ∃ c, Text.ofString c = e.name ∧ place ∈ origins.placesOf c

section

variable {origins : Origins} {result : PruneResult} {e : ReportEntry}

theorem statusOf_eq (result : PruneResult) (name : Text) : statusOf result name =
    if name ∈ result.keptClasses then .kept
    else if name ∈ result.removedClasses then .removed else .detectedOnly := by
  simp [statusOf]

/-- What a report says of a class. -/
theorem entry_entriesOf (h : e ∈ entriesOf origins result) :
    e.status = statusOf result e.name ∧
      ((∃ o ∈ origins, Text.ofString o.1 = e.name ∧ e.origins = Sorted.strings o.2) ∨
        (∀ o ∈ origins, Text.ofString o.1 ≠ e.name) ∧ e.origins = []) := by
  have h := mem_insertAll.1 h
  rw [List.find?_append, List.find?_append, Option.or_eq_some_iff, Option.or_eq_some_iff,
    Option.or_eq_none_iff] at h
  have hnone : ∀ {α : Type} {xs : List α} {f : α → ReportEntry},
      (xs.map f).find? (fun y => y.name = e.name) = none → ∀ x ∈ xs, (f x).name ≠ e.name :=
    fun h x hx => by simpa using List.find?_eq_none.1 h _ (List.mem_map_of_mem hx)
  rcases h with (hdetected | ⟨hdetected, hkept⟩) | ⟨⟨hdetected, hkept⟩, hremoved⟩
  · obtain ⟨o, ho, rfl⟩ := List.mem_map.1 (List.mem_of_find?_eq_some hdetected)
    exact ⟨rfl, .inl ⟨o, ho, rfl, rfl⟩⟩
  · obtain ⟨name, hname, rfl⟩ := List.mem_map.1 (List.mem_of_find?_eq_some hkept)
    exact ⟨by rw [statusOf_eq, if_pos hname], .inr ⟨hnone hdetected, rfl⟩⟩
  · obtain ⟨name, hname, rfl⟩ := List.mem_map.1 (List.mem_of_find?_eq_some hremoved)
    have hnot : name ∉ result.keptClasses := fun hm => hnone hkept name hm rfl
    exact ⟨by rw [statusOf_eq, if_neg hnot, if_pos hname], .inr ⟨hnone hdetected, rfl⟩⟩

theorem name_entriesOf {name : Text} : (∃ e ∈ entriesOf origins result, e.name = name) ↔
    (∃ c ∈ origins.names, Text.ofString c = name) ∨ name ∈ result.keptClasses ∨
      name ∈ result.removedClasses := by
  refine name_insertAll.trans ?_
  simp [Origins.names, or_and_right, exists_or]

/-- The entries of a report, if the lists of the pruner part the names that the style sheet has by
whether they count. -/
theorem accounts_entriesOf {references counts : Text → Prop} (horigins : origins.WellFormed)
    (hkept : ∀ name, name ∈ result.keptClasses ↔ references name ∧ counts name)
    (hremoved : ∀ name, name ∈ result.removedClasses ↔ references name ∧ ¬ counts name) :
    Accounts origins result references counts (entriesOf origins result) := by
  have hdisjoint : ∀ name ∈ result.keptClasses, name ∉ result.removedClasses :=
    fun name hk hr => ((hremoved name).1 hr).2 ((hkept name).1 hk).2
  have hreferences : ∀ name, references name ↔
      name ∈ result.keptClasses ∨ name ∈ result.removedClasses := fun name => by
    rw [hkept, hremoved, ← and_or_left, and_iff_left (Classical.em _)]
  refine ⟨(increasing_insertAll _).imp Text.lt_iff.1, fun _ => name_entriesOf, fun e he => ?kept,
    fun e he => ?removed, fun e he => ?detectedOnly, fun e he => ?sorted, fun e he => ?places⟩
  all_goals
    obtain ⟨hstatus, hplaces⟩ := entry_entriesOf he
    rw [statusOf_eq] at hstatus
  case kept =>
    rw [hstatus, ← hkept]
    by_cases hk : e.name ∈ result.keptClasses
    · simp [hk]
    · by_cases hr : e.name ∈ result.removedClasses <;> simp [hk, hr]
  case removed =>
    rw [hstatus, ← hremoved]
    by_cases hk : e.name ∈ result.keptClasses
    · simp [hk, hdisjoint _ hk]
    · by_cases hr : e.name ∈ result.removedClasses <;> simp [hk, hr]
  case detectedOnly =>
    rw [hstatus, hreferences]
    by_cases hk : e.name ∈ result.keptClasses
    · simp [hk]
    · by_cases hr : e.name ∈ result.removedClasses <;> simp [hk, hr]
  case sorted =>
    rcases hplaces with ⟨o, -, -, heq⟩ | ⟨-, heq⟩
    · exact heq ▸ Sorted.pairwise_ofList Sorted.strict_stringLt o.2
    · exact heq ▸ .nil
  case places =>
    intro place
    rcases hplaces with ⟨o, ho, hname, heq⟩ | ⟨hnone, heq⟩
    · rw [heq, Sorted.strings, Sorted.mem_ofList Sorted.strict_stringLt]
      constructor
      · exact fun h => ⟨o.1, hname, (horigins.placesOf_of_mem ho).symm ▸ h⟩
      · rintro ⟨c, hc, h⟩
        obtain rfl := Prune.ofString_injective (hc.trans hname.symm)
        exact horigins.placesOf_of_mem ho ▸ h
    · rw [heq]
      refine iff_of_false List.not_mem_nil ?_
      rintro ⟨c, hc, h⟩
      have hmem : c ∉ origins.names := fun hm => by
        obtain ⟨o, ho, rfl⟩ := List.mem_map.1 hm
        exact hnone o ho hc
      rw [Origins.placesOf, Origins.lookup_eq_none.2 hmem] at h
      exact List.not_mem_nil h

end

/-! ## Reports of scanned projects -/

/-- The lists of a result part the names that the style sheet has by whether they count. -/
theorem lists_pruneCss {css : String} {scan : Scan} {options : PruneOptions} {result : PruneResult}
    (h : pruneCss css scan options = .ok result) : ∃ safelist,
      readPatterns options.safelistPatterns = .ok safelist ∧
      (∀ name, name ∈ result.keptClasses ↔
        References css name ∧ Counts scan options safelist name) ∧
      ∀ name, name ∈ result.removedClasses ↔
        References css name ∧ ¬ Counts scan options safelist name := by
  cases hu : usageOf scan options with
  | error e =>
    rw [pruneCss, hu] at h
    cases h
  | ok u =>
    obtain ⟨safelist, hp, -⟩ := map_eq_ok.1 hu
    refine ⟨safelist, hp, ?_⟩
    have huses := uses_iff hp hu
    cases hs : Css.read css.toList with
    | error e =>
      have hnone : ∀ name, ¬ References css name := by
        rintro name ⟨s, hs', -⟩
        rw [hs] at hs'
        cases hs'
      rw [pruneCss, hu, hs] at h
      cases e with
      | integerTooLong digits => cases h
      | broken e =>
        obtain rfl := Except.ok.inj h
        exact ⟨fun name => iff_of_false List.not_mem_nil fun h => hnone name h.1,
          fun name => iff_of_false List.not_mem_nil fun h => hnone name h.1⟩
    | ok s =>
      have hreferences : ∀ name, References css name ↔ name ∈ classNamesOf s := fun name => by
        rw [Prune.mem_classNamesOf hs]
        refine ⟨?_, fun h => ⟨s, hs, h⟩⟩
        rintro ⟨s', hs', h⟩
        obtain rfl := Except.ok.inj (hs.symm.trans hs')
        exact h
      rw [pruneCss_eq hu hs] at h
      obtain ⟨-, hremoved, hkept, -⟩ := pruneSheet_ok h
      refine ⟨fun name => ?_, fun name => ?_⟩
      · rw [hkept, List.mem_filter, hreferences, huses]
      · rw [hremoved, List.mem_filter, hreferences, ← huses, Bool.not_eq_true', Bool.not_eq_true]

/-- A report of a project and of the style sheet pruned with its scan and the same options has one
entry for each class that was found or is named by a selector, with its origins and with what the
pruner made of it; no class that a file yields is reported as removed, and none with an origin
unless a cache held origins for a class that it did not list. -/
theorem build_agrees {o : Options} {disk : Disk} {cwd base css : String} {state : ScanState}
    {paths : List String} {project : ProjectScan} {result : PruneResult}
    (hcwd : Path.isAbsolute cwd = true)
    (hscanned : (scanFiles o disk cwd base state paths).1 = .ok project)
    (hpruned : pruneCss css project.scan o.pruning = .ok result) (run : Circumstances) :
    ∃ safelist, readPatterns o.safelistPatterns = .ok safelist ∧
      Accounts project.scan.origins result (References css)
        (Counts project.scan o.pruning safelist) (build project result run).entries ∧
      (∀ path ∈ paths, ∀ scan, (scanFile o disk cwd base state path).1 = .ok (some scan) →
        ∀ name ∈ scan.classes, ∀ e ∈ (build project result run).entries,
          e.name = Text.ofString name → e.status ≠ .removed) ∧
      ((∀ cache, state.cache = some cache → cache.Backed) →
        ∀ name ∈ project.scan.origins.names, ∀ e ∈ (build project result run).entries,
          e.name = Text.ofString name → e.status ≠ .removed) := by
  obtain ⟨extractors, scans, -, hyielded, hscans, horigins, hclasses⟩ := scanFiles_ok hcwd hscanned
  obtain ⟨safelist, hp, hkept, hremoved⟩ := lists_pruneCss hpruned
  have hordered : project.scan.origins.WellFormed := by
    rw [horigins]
    exact (Scan.ordered_foldl Scan.Ordered.empty).origins
  have haccounts := accounts_entriesOf hordered hkept hremoved
  -- A class of the project counts as used, and no class that does is removed.
  have hused : ∀ name ∈ project.scan.classes, ∀ e ∈ (build project result run).entries,
      e.name = Text.ofString name → e.status ≠ .removed := by
    intro name hname e he heq hstatus
    exact ((haccounts.removed e he).1 hstatus).2 (.inl ⟨name, hname, heq.symm⟩)
  refine ⟨safelist, hp, haccounts, fun path hpath scan hscan name hname => hused name ?yielded,
    fun hcache name hname => hused name ?backed⟩
  case yielded =>
    have hgiven := hyielded path hpath scan hscan
    exact hclasses name (Scan.mem_classes_foldl.2 (.inr ⟨scan, hgiven, hname⟩))
  case backed =>
    have hbacked : (scans.foldl Scan.merge {}).Backed := by
      refine .foldl .empty fun scan hscan => ?_
      obtain ⟨path, hpath⟩ := hscans scan hscan
      exact Caching.backed_answer hcache hpath
    exact hclasses name (hbacked name (horigins ▸ hname))

/-- A class that a file yields, one that a pattern matches, one that is not used, and the start of a
class that is put together at run time. -/
theorem build_agrees_pages :
    let o : Options := { dynamicPatterns := .collect }
    let pages := ["a.jsx", "b.jsx"]
    let css := ".xyz{}.btn-s{}.gone{}"
    ∃ project result safelist, (scanFiles o TwoPages.project "/p" "" {} pages).1 = .ok project ∧
      pruneCss css project.scan o.pruning = .ok result ∧
      Accounts project.scan.origins result (References css)
        (Counts project.scan o.pruning safelist) (entriesOf project.scan.origins result) ∧
      (entriesOf project.scan.origins result).map (fun e => (e.name, e.status, e.origins)) =
        [(Text.ofString "btn-", .detectedOnly, ["a.jsx:1"]), (Text.ofString "btn-s", .kept, []),
          (Text.ofString "gone", .removed, []), (Text.ofString "xyz", .kept, ["b.jsx:1"])] := by
  intro o pages css
  have heval : (scanFiles o TwoPages.project "/p" "" {} pages).1.toOption.bind (fun project =>
      (pruneCss css project.scan o.pruning).toOption.map fun result =>
        (entriesOf project.scan.origins result).map fun e => (e.name, e.status, e.origins)) =
      some [(Text.ofString "btn-", .detectedOnly, ["a.jsx:1"]), (Text.ofString "btn-s", .kept, []),
        (Text.ofString "gone", .removed, []), (Text.ofString "xyz", .kept, ["b.jsx:1"])] := by
    decide +kernel
  cases hscanned : (scanFiles o TwoPages.project "/p" "" {} pages).1 with
  | error e =>
    rw [hscanned] at heval
    cases heval
  | ok project =>
    rw [hscanned] at heval
    cases hpruned : pruneCss css project.scan o.pruning with
    | error e =>
      simp only [Except.toOption, Option.bind_some, hpruned] at heval
      cases heval
    | ok result =>
      simp only [Except.toOption, Option.bind_some, hpruned] at heval
      obtain ⟨safelist, -, haccounts, -⟩ := build_agrees (by decide) hscanned hpruned
        ⟨"", "/p", [], 0⟩
      exact ⟨project, result, safelist, rfl, hpruned, haccounts, Option.some.inj heval⟩

end Report

end StylePrune
