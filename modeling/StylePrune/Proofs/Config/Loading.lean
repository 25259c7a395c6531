import StylePrune.Config.File
import StylePrune.Config.Plan
import StylePrune.Proofs.Json.Keys
import StylePrune.Proofs.Outcome

/-!
# Loading configurations

What the members of a configuration must be is a list of demands, one for each known key, and the
members are read just if they meet all of them (`ofSource_ok_iff`). Loading ends in a configuration
or is refused, and searching ends, for every content of the files but two of the shared one: its
bytes are no UTF-8, which matters to searching alone, or its tools are no table
(`find_load_closed`).
-/

namespace StylePrune

/-- What a value of a shape is. -/
def Shape.Admits : Shape → Json → Prop
  | stringList, v => ∃ items, v = .arr items ∧ ∀ item ∈ items, item.isString = true
  | boolean, v => ∃ b, v = .bool b
  | string, v => v.isString = true
  | number, v => (∃ n, v = .int n) ∨ ∃ x, v = .float x
  | flagOrPatterns, v => (∃ b, v = .bool b) ∨ ∃ items, v = .arr items
  | flagOrPath, v => (∃ b, v = .bool b) ∨ v.isString = true
  | reportTable, v => ∃ entries, v = .obj entries ∧ ∀ entry ∈ entries,
      entry.1 ∈ ["json", "html", "ci"] ∧ ((∃ b, entry.2 = .bool b) ∨ entry.2.isString = true)
  | tableList, v => ∃ items, v = .arr items ∧ ∀ item ∈ items, ∃ members, item = .obj members

namespace Config

/-! ## Demands -/

/-- What the value of a key must be, if it is there. -/
structure Demand where
  key : String
  shape : Shape
  /-- Whether null stands for a value that is missing. -/
  nullable : Bool

def Demand.Met (d : Demand) (members : List (String × Json)) : Prop :=
  ∀ v, members.lookup d.key = some v → d.nullable = true ∧ v = .null ∨ d.shape.Admits v

def demands : List Demand :=
  listKeys.map (⟨·, .stringList, true⟩) ++ flagKeys.map (⟨·, .boolean, false⟩) ++
    textKeys.map (⟨·, .string, false⟩) ++ numberKeys.map (⟨·, .number, true⟩) ++
    [⟨"keep_dynamic_patterns", .flagOrPatterns, true⟩, ⟨"analyze", .flagOrPath, true⟩,
      ⟨"report", .reportTable, true⟩, ⟨"extractors", .tableList, true⟩]

/-- Each known key has its demand. -/
theorem demands_keys : demands.map Demand.key = knownKeys := rfl

/-- Members with known keys, each at most once, and with values of the right shapes. -/
structure WellTyped (members : List (String × Json)) : Prop where
  distinct : (members.map Prod.fst).Nodup
  known : ∀ m ∈ members, m.1 ∈ knownKeys
  typed : ∀ d ∈ demands, d.Met members

/-! ## Reading values -/

section Reading

variable {α β ε : Type} {s : Source} {shape : Shape} {read : Json → Option α} {key : String}

/-- A chain of steps of which none depends on the others goes through just if each step does. -/
theorem exists_bind_ok_iff {x : Except ε α} {f : α → Except ε β} :
    (∃ b, x >>= f = .ok b) ↔ ∃ a, x = .ok a ∧ ∃ b, f a = .ok b := by
  simp only [Outcome.bind_eq_ok]
  exact ⟨fun ⟨b, a, ha, hb⟩ => ⟨a, ha, b, hb⟩, fun ⟨a, ha, b, hb⟩ => ⟨b, a, ha, hb⟩⟩

theorem readValue_ok_iff {value : Option Json} :
    (∃ o, s.readValue key shape read value = .ok o) ↔
      ∀ v, value = some v → (read v).isSome = true := by
  cases value with
  | none => exact iff_of_true ⟨none, rfl⟩ fun v h => by cases h
  | some v =>
    simp only [Source.readValue, Option.some.injEq, forall_eq']
    cases read v with
    | none => exact iff_of_false (fun ⟨_, h⟩ => by cases h) Bool.false_ne_true
    | some a => exact iff_of_true ⟨some a, rfl⟩ rfl

theorem eq_of_readValue {value : Option Json} {o : Option α}
    (h : s.readValue key shape read value = .ok o) : o = value.bind read := by
  cases value with
  | none => exact (Except.ok.inj h).symm
  | some v =>
    rw [Source.readValue] at h
    rw [Option.bind_some]
    cases hread : read v with
    | none => simp [hread] at h
    | some a => simpa [hread] using h.symm

theorem value?_eq_some {v : Json} :
    s.value? key = some v ↔ s.members.lookup key = some v ∧ v ≠ .null := by
  rw [Source.value?]
  cases s.members.lookup key with
  | none => simp
  | some w => cases w <;> simp <;> rintro rfl <;> simp

/-- Null meets a demand that allows it, as a missing value does. -/
theorem met_nullable_iff : Demand.Met ⟨key, shape, true⟩ s.members ↔
    ∀ v, s.value? key = some v → shape.Admits v := by
  simp only [Demand.Met, value?_eq_some, true_and]
  constructor
  · intro h v hv
    exact (h v hv.1).resolve_left hv.2
  · intro h v hv
    by_cases hnull : v = .null
    · exact .inl hnull
    · exact .inr (h v ⟨hv, hnull⟩)

theorem optional_ok_iff (hread : ∀ v, (read v).isSome = true ↔ shape.Admits v) :
    (∃ o, s.optional shape read key = .ok o) ↔ Demand.Met ⟨key, shape, true⟩ s.members := by
  rw [Source.optional, readValue_ok_iff, met_nullable_iff]
  simp only [hread]

theorem strict_ok_iff (hread : ∀ v, (read v).isSome = true ↔ shape.Admits v) :
    (∃ o, s.strict shape read key = .ok o) ↔ Demand.Met ⟨key, shape, false⟩ s.members := by
  rw [Source.strict, readValue_ok_iff]
  simp only [hread, Demand.Met, Bool.false_eq_true, false_and, false_or]

end Reading

/-! ## The readers of the shapes -/

theorem isSome_mapM {α β : Type} {f : α → Option β} {xs : List α} :
    (xs.mapM f).isSome = true ↔ ∀ x ∈ xs, (f x).isSome = true := by
  induction xs with
  | nil => exact iff_of_true rfl fun x h => by cases h
  | cons x rest ih =>
    rw [List.forall_mem_cons, ← ih, List.mapM_cons]
    cases f x with
    | none => simp
    | some y => cases rest.mapM f <;> simp

theorem isSome_stringList (v : Json) :
    (Json.stringList? v).isSome = true ↔ Shape.Admits .stringList v := by
  cases v with
  | arr items =>
    simp only [Json.stringList?, Shape.Admits, Json.arr.injEq, exists_eq_left', isSome_mapM]
    rfl
  | _ => simp [Json.stringList?, Shape.Admits]

theorem isSome_flag (v : Json) : (Source.flag? v).isSome = true ↔ Shape.Admits .boolean v := by
  cases v <;> simp [Source.flag?, Shape.Admits]

theorem isSome_string (v : Json) : (Json.string? v).isSome = true ↔ Shape.Admits .string v :=
  Iff.rfl

theorem isSome_limit (v : Json) : (Source.limit? v).isSome = true ↔ Shape.Admits .number v := by
  cases v <;> simp [Source.limit?, Shape.Admits]

theorem isSome_dynamicPatterns (v : Json) :
    (Source.dynamicPatterns? v).isSome = true ↔ Shape.Admits .flagOrPatterns v := by
  cases v <;> simp [Source.dynamicPatterns?, Shape.Admits]

theorem isSome_output (v : Json) :
    (Source.output? v).isSome = true ↔ Shape.Admits .flagOrPath v := by
  cases v <;> simp [Source.output?, Shape.Admits, Json.isString, Json.string?]

theorem isSome_members (v : Json) :
    (Source.members? v).isSome = true ↔ ∃ members, v = .obj members := by
  cases v <;> simp [Source.members?]

theorem isSome_extractors (v : Json) :
    (Source.extractors? v).isSome = true ↔ Shape.Admits .tableList v := by
  cases v with
  | arr items =>
    simp only [Source.extractors?, Shape.Admits, Json.arr.injEq, exists_eq_left', ← isSome_members,
      ← List.all_eq_true]
    split <;> simp_all
  | _ => simp [Source.extractors?, Shape.Admits]

theorem isSome_setOutput (r : ReportOutputs) (key : String) (output : Output) :
    (Source.setOutput r key output).isSome = true ↔ key ∈ ["json", "html", "ci"] := by
  rw [Source.setOutput]
  split
  · simp_all
  · split
    · simp_all
    · split <;> simp_all

/-- The entries of a report are read one by one. -/
theorem reportOutputs_ok_iff {s : Source} {entries : List (String × Json)} {r : ReportOutputs} :
    (∃ r', s.reportOutputs r entries = .ok r') ↔ ∀ entry ∈ entries,
      entry.1 ∈ ["json", "html", "ci"] ∧ Shape.Admits .flagOrPath entry.2 := by
  induction entries generalizing r with
  | nil => simp [Source.reportOutputs]
  | cons entry rest ih =>
    obtain ⟨key, value⟩ := entry
    rw [List.forall_mem_cons, ← isSome_output]
    cases houtput : Source.output? value with
    | none =>
      simp [Source.reportOutputs, houtput]
    | some output =>
      rw [← isSome_setOutput r key output]
      cases hset : Source.setOutput r key output with
      | none => simp [Source.reportOutputs, houtput, hset]
      | some r' => simp [Source.reportOutputs, houtput, hset, ih]

theorem reports_ok_iff {s : Source} :
    (∃ r, s.reports = .ok r) ↔ Demand.Met ⟨"report", .reportTable, true⟩ s.members := by
  rw [met_nullable_iff, Source.reports, Source.optional]
  cases s.value? "report" with
  | none => simp [Source.readValue, bind, Except.bind, pure, Except.pure]
  | some v =>
    simp only [Option.some.injEq, forall_eq', Source.readValue]
    cases v with
    | obj entries =>
      simp [Source.members?, Shape.Admits, bind, Except.bind, reportOutputs_ok_iff]
    | _ => simp [Source.members?, Shape.Admits, bind, Except.bind]

/-! ## What members mean -/

/-- What the outputs of a report are, entries that cannot be read setting none. -/
def readReport (entries : List (String × Json)) : ReportOutputs :=
  entries.foldl
    (fun r entry => ((Source.output? entry.2).bind (Source.setOutput r entry.1)).getD r) {}

/-- The configuration that members give, values that are missing, null or of another shape giving
nothing. -/
def reading (s : Source) : Config where
  content := (s.value? "content").bind Json.stringList?
  css := (s.value? "css").bind Json.stringList?
  safelist := (s.value? "safelist").bind Json.stringList?
  safelistPatterns := (s.value? "safelist_patterns").bind Json.stringList?
  minify := (s.members.lookup "minify").bind Source.flag?
  verbose := (s.members.lookup "verbose").bind Source.flag?
  stats := (s.members.lookup "stats").bind Source.flag?
  cwd := (s.members.lookup "cwd").bind Json.string?
  out := (s.members.lookup "out").bind Json.string?
  cacheDirectory := (s.members.lookup "cache_dir").bind Json.string?
  maxUnusedPercent := (s.value? "max_unused_percent").bind Source.limit?
  maxFinalKb := (s.value? "max_final_kb").bind Source.limit?
  dynamicPatterns := (s.value? "keep_dynamic_patterns").bind Source.dynamicPatterns?
  analysis := (s.value? "analyze").bind Source.output?
  reports := (((s.value? "report").bind Source.members?).map readReport).getD {}
  extractors := ((s.value? "extractors").bind Source.extractors?).getD []

/-- Members are read just if they meet every demand. -/
theorem ofSource_ok_iff {s : Source} :
    (∃ c, ofSource s = .ok c) ↔ ∀ d ∈ demands, d.Met s.members := by
  have hdemands : demands =
      [⟨"content", .stringList, true⟩, ⟨"css", .stringList, true⟩, ⟨"safelist", .stringList, true⟩,
        ⟨"safelist_patterns", .stringList, true⟩, ⟨"minify", .boolean, false⟩,
        ⟨"verbose", .boolean, false⟩, ⟨"stats", .boolean, false⟩, ⟨"cwd", .string, false⟩,
        ⟨"out", .string, false⟩, ⟨"cache_dir", .string, false⟩,
        ⟨"max_unused_percent", .number, true⟩, ⟨"max_final_kb", .number, true⟩,
        ⟨"keep_dynamic_patterns", .flagOrPatterns, true⟩, ⟨"analyze", .flagOrPath, true⟩,
        ⟨"report", .reportTable, true⟩, ⟨"extractors", .tableList, true⟩] := rfl
  simp only [ofSource, exists_bind_ok_iff, pure, Except.pure, Except.ok.injEq, exists_eq',
    and_true, exists_and_right, optional_ok_iff isSome_stringList, strict_ok_iff isSome_flag,
    strict_ok_iff isSome_string, optional_ok_iff isSome_limit,
    optional_ok_iff isSome_dynamicPatterns, optional_ok_iff isSome_output, reports_ok_iff,
    optional_ok_iff isSome_extractors, hdemands, List.forall_mem_cons, List.not_mem_nil,
    false_imp_iff, implies_true]

theorem eq_foldl_of_reportOutputs {s : Source} {entries : List (String × Json)}
    {r r' : ReportOutputs} (h : s.reportOutputs r entries = .ok r') :
    r' = entries.foldl
      (fun r entry => ((Source.output? entry.2).bind (Source.setOutput r entry.1)).getD r) r := by
  induction entries generalizing r with
  | nil => exact (Except.ok.inj h).symm
  | cons entry rest ih =>
    rw [Source.reportOutputs] at h
    rw [List.foldl_cons]
    cases hset : (Source.output? entry.2).bind (Source.setOutput r entry.1) with
    | none => simp [hset] at h
    | some r₁ => exact ih (by simpa [hset] using h)

theorem eq_of_reports {s : Source} {r : ReportOutputs} (h : s.reports = .ok r) :
    r = (((s.value? "report").bind Source.members?).map readReport).getD {} := by
  obtain ⟨entries, hentries, hr⟩ := Outcome.bind_eq_ok.1 h
  rw [← eq_of_readValue hentries]
  cases entries with
  | none => exact (Except.ok.inj hr).symm
  | some entries => exact eq_foldl_of_reportOutputs hr

/-- Members that are read mean the same whatever file they come from. -/
theorem eq_reading {s : Source} {c : Config} (h : ofSource s = .ok c) : c = reading s := by
  simp only [ofSource, Outcome.bind_eq_ok] at h
  obtain ⟨content, hcontent, css, hcss, safelist, hsafelist, patterns, hpatterns, minify, hminify,
    verbose, hverbose, stats, hstats, cwd, hcwd, out, hout, cache, hcache, unused, hunused,
    final, hfinal, dynamic, hdynamic, analysis, hanalysis, reports, hreports, extractors,
    hextractors, hc⟩ := h
  rw [← Except.ok.inj hc, reading, eq_of_readValue hcontent, eq_of_readValue hcss,
    eq_of_readValue hsafelist, eq_of_readValue hpatterns, eq_of_readValue hminify,
    eq_of_readValue hverbose, eq_of_readValue hstats, eq_of_readValue hcwd, eq_of_readValue hout,
    eq_of_readValue hcache, eq_of_readValue hunused, eq_of_readValue hfinal,
    eq_of_readValue hdynamic, eq_of_readValue hanalysis, eq_of_reports hreports,
    eq_of_readValue hextractors]

/-- Members that meet every demand are read, and mean the same whatever file they come from. -/
theorem ofSource_eq {s : Source} (h : ∀ d ∈ demands, d.Met s.members) :
    ofSource s = .ok (reading s) := by
  obtain ⟨c, hc⟩ := ofSource_ok_iff.2 h
  rw [hc, eq_reading hc]

/-! ## Known keys -/

/-- Only known keys are kept, each once. -/
theorem known_keys (members : List (String × Json)) :
    ((known members).1.map Prod.fst).Nodup ∧ ∀ m ∈ (known members).1, m.1 ∈ knownKeys := by
  rw [known]
  refine List.foldlRecOn members _ (motive := fun (r : List (String × Json) × List String) =>
    (r.1.map Prod.fst).Nodup ∧ ∀ m ∈ r.1, m.1 ∈ knownKeys)
    ⟨List.nodup_nil, fun m h => absurd h List.not_mem_nil⟩ ?_
  rintro ⟨kept, unknown⟩ ⟨hnodup, hkept⟩ ⟨key, value⟩ -
  simp only
  split
  · rename_i hknown
    refine ⟨nodup_setMember hnodup, fun m hm => ?_⟩
    rcases mem_setMember hm with rfl | hm
    · exact List.contains_iff_mem.1 hknown
    · exact hkept m hm
  · exact ⟨hnodup, hkept⟩

/-! ## Loading -/

variable {path : String} {value : Json} {bytes : List UInt8} {members : List (String × Json)}

theorem ofValue_eq_ok {loaded : Loaded} : ofValue path value = .ok loaded ↔
    ∃ members config, value = .obj members ∧
      ofSource ⟨path, (known members).1⟩ = .ok config ∧
      loaded = ⟨(known members).1, config, (known members).2.map (unknownKeyWarning path)⟩ := by
  cases value with
  | obj members =>
    simp only [ofValue, Outcome.bind_eq_ok, pure, Except.pure, Except.ok.injEq, Json.obj.injEq]
    constructor
    · rintro ⟨config, hconfig, rfl⟩
      exact ⟨members, config, rfl, hconfig, rfl⟩
    · rintro ⟨_, config, rfl, hconfig, rfl⟩
      exact ⟨config, hconfig, rfl⟩
  | _ => simp [ofValue]

/-- A value is accepted just if it is an object whose members of known keys meet every demand. -/
theorem ofValue_ok_iff : (∃ loaded, ofValue path value = .ok loaded) ↔
    ∃ members, value = .obj members ∧ WellTyped (known members).1 := by
  simp only [ofValue_eq_ok]
  constructor
  · rintro ⟨_, members, config, rfl, hconfig, -⟩
    obtain ⟨hdistinct, hknown⟩ := known_keys members
    exact ⟨members, rfl, hdistinct, hknown, ofSource_ok_iff.1 ⟨config, hconfig⟩⟩
  · rintro ⟨members, rfl, htyped⟩
    exact ⟨_, members, _, rfl, ofSource_eq htyped.typed, rfl⟩

/-- What is loaded is well-typed, and its configuration is what its members mean. -/
theorem loaded_of_ofValue {loaded : Loaded} (h : ofValue path value = .ok loaded) :
    WellTyped loaded.members ∧ loaded.config = reading ⟨path, loaded.members⟩ := by
  obtain ⟨members, config, rfl, hconfig, rfl⟩ := ofValue_eq_ok.1 h
  obtain ⟨hdistinct, hknown⟩ := known_keys members
  exact ⟨⟨hdistinct, hknown, ofSource_ok_iff.1 ⟨config, hconfig⟩⟩, eq_reading hconfig⟩

/-- A value, or a refusal. -/
def Settled {α : Type} (x : Except LoadError α) : Prop :=
  (∃ a, x = .ok a) ∨ ∃ error, x = .error (.config error)

section Settled

variable {α β ε : Type}

theorem settled_ok (a : α) : Settled (.ok a) := .inl ⟨a, rfl⟩

theorem settled_refused (error : ConfigError) : Settled (.error (.config error) : Except _ α) :=
  .inr ⟨error, rfl⟩

theorem not_settled (kind : String) : ¬ Settled (.error (.toolsNotTable kind) : Except _ α) := by
  rintro (⟨_, h⟩ | ⟨_, h⟩) <;> cases h

theorem settled_mapError (refuse : ε → ConfigError) (x : Except ε α) :
    Settled (x.mapError fun e => .config (refuse e)) := by
  cases x with
  | ok a => exact settled_ok a
  | error e => exact settled_refused (refuse e)

theorem settled_bind {x : Except LoadError α} {f : α → Except LoadError β} :
    Settled (x >>= f) ↔ Settled x ∧ ∀ a, x = .ok a → Settled (f a) := by
  cases x with
  | ok a => exact ⟨fun h => ⟨settled_ok a, fun b hb => Except.ok.inj hb ▸ h⟩, fun h => h.2 a rfl⟩
  | error e =>
    cases e with
    | config error =>
      exact iff_of_true (settled_refused error) ⟨settled_refused error, fun a h => by cases h⟩
    | toolsNotTable kind => exact iff_of_false (not_settled kind) fun h => not_settled kind h.1

end Settled

/-- The tools of a shared file are a table, if it has any. -/
def ToolsTable (members : List (String × Json)) : Prop :=
  ∀ v, members.lookup "tool" = some v → ∃ tools, v = .obj tools

theorem settled_ownTable : Settled (ownTable members) ↔ ToolsTable members := by
  rw [ownTable, ToolsTable]
  cases members.lookup "tool" with
  | none => exact iff_of_true (settled_ok none) fun v h => by cases h
  | some v =>
    simp only [Option.some.injEq, forall_eq']
    cases v with
    | obj tools => exact iff_of_true (settled_ok _) ⟨tools, rfl⟩
    | _ => exact iff_of_false (not_settled _) fun ⟨_, h⟩ => by cases h

theorem settled_valueOf : Settled (valueOf path bytes) ↔
    (Path.fileName path = sharedFile →
      ∀ members, readToml bytes = .ok members → ToolsTable members) := by
  have hread : Settled ((readToml bytes).mapError fun fault => .config (.unreadable path fault)) :=
    settled_mapError _ _
  by_cases hshared : Path.fileName path = sharedFile
  · have hkind : lowerCase (Path.suffix path) = ".toml" := by
      rw [Path.suffix, hshared]
      decide
    simp only [valueOf, hkind, hshared, if_true, settled_bind, hread, true_and, true_imp_iff,
      Outcome.mapError_eq_ok, settled_ownTable]
    exact ⟨fun h members hm => (h members hm).1,
      fun h members hm => ⟨h members hm, fun own _ => settled_ok _⟩⟩
  · refine iff_of_true ?_ fun h => absurd h hshared
    rw [valueOf]
    simp only [hshared, if_false]
    split
    · exact settled_bind.2 ⟨hread, fun members _ => settled_ok _⟩
    · split
      · exact settled_mapError _ _
      · exact settled_refused _

theorem settled_load {disk : Disk} {cwd : String} : Settled (load disk cwd path) ↔
    (Path.fileName path = sharedFile →
      ∀ file members, disk.file (Path.join cwd (Path.tidy path)) = .ok file →
        readToml file.bytes = .ok members → ToolsTable members) := by
  unfold load
  cases disk.file (Path.join cwd (Path.tidy path)) with
  | error fault => exact iff_of_true (settled_refused _) fun _ file members h => by cases h
  | ok file =>
    simp only [settled_bind, settled_valueOf, Except.ok.injEq]
    constructor
    · rintro h hshared _ members rfl
      exact h.1 hshared members
    · exact fun h => ⟨fun hshared members => h hshared file members rfl,
        fun value _ => settled_mapError id _⟩

/-- A configuration is loaded just if the file is there, holds an object, and the members of known
keys in it meet every demand. -/
theorem load_ok_iff {disk : Disk} {cwd : String} {loaded : Loaded} :
    load disk cwd path = .ok loaded ↔
      ∃ file value, disk.file (Path.join cwd (Path.tidy path)) = .ok file ∧
        valueOf path file.bytes = .ok value ∧ ofValue path value = .ok loaded := by
  unfold load
  cases disk.file (Path.join cwd (Path.tidy path)) with
  | error fault => simp
  | ok file => simp [Outcome.bind_eq_ok, Outcome.mapError_eq_ok]

/-! ## Searching -/

/-- Whether a shared file holds this program's table can be told. The grammar of TOML may refuse the
file. -/
structure Judgeable (bytes : List UInt8) : Prop where
  decoded : ∃ text, Utf8.decode bytes = .ok text
  /-- No integer has more digits than are read. -/
  integers : ∀ digits text, readToml bytes ≠ .error (.toml (.integerTooLong digits) text)
  tools : ∀ members, readToml bytes = .ok members → ToolsTable members

theorem judgeable_iff : Judgeable bytes ↔
    (∀ fault, readToml bytes ≠ .error (.encoding fault)) ∧
      (∀ digits text, readToml bytes ≠ .error (.toml (.integerTooLong digits) text)) ∧
      ∀ members, readToml bytes = .ok members → ToolsTable members := by
  have hdecoded : (∃ text, Utf8.decode bytes = .ok text) ↔
      ∀ fault, readToml bytes ≠ .error (.encoding fault) := by
    rw [readToml]
    cases Utf8.decode bytes with
    | error fault => exact iff_of_false (fun ⟨_, h⟩ => by cases h) fun h => h fault rfl
    | ok text =>
      refine iff_of_true ⟨text, rfl⟩ fun fault => ?_
      simp only
      cases Toml.parse (Toml.plainLineEnds text) with
      | error fault' => exact fun h => by cases h
      | ok members => exact fun h => by cases h
  rw [← hdecoded]
  exact ⟨fun h => ⟨h.decoded, h.integers, h.tools⟩, fun ⟨h₁, h₂, h₃⟩ => ⟨h₁, h₂, h₃⟩⟩

theorem hasOwnTable_ok_iff : (∃ held, hasOwnTable bytes = .ok held) ↔ Judgeable bytes := by
  rw [judgeable_iff, hasOwnTable]
  cases readToml bytes with
  | error fault =>
    cases fault with
    | encoding fault => simp
    | json fault text => simp
    | toml fault text => cases fault <;> simp
  | ok members =>
    simp only [Except.ok.injEq, forall_eq', ne_eq, reduceCtorEq, not_false_eq_true, implies_true,
      true_and, ← settled_ownTable]
    cases ownTable members with
    | ok own =>
      refine iff_of_true ?_ (settled_ok own)
      cases own with
      | none => exact ⟨_, rfl⟩
      | some v => cases v <;> exact ⟨_, rfl⟩
    | error e =>
      cases e with
      | config error => exact iff_of_true ⟨_, rfl⟩ (settled_refused error)
      | toolsNotTable kind => exact iff_of_false (fun ⟨_, h⟩ => by cases h) (not_settled kind)

theorem find_ok_iff {disk : Disk} {cwd directory : String} :
    (∃ found, find? disk cwd directory = .ok found) ↔
      (∃ name ∈ fileNames, disk.isFile (Path.join cwd (Path.child directory name)) = true) ∨
        ∀ file, disk.file (Path.join cwd (Path.child directory sharedFile)) = .ok file →
          Judgeable file.bytes := by
  unfold find?
  -- the names as variables keep the paths from being worked out
  generalize fileNames = names
  generalize Path.child directory sharedFile = shared
  simp only
  cases hfound : (names.map (Path.child directory)).find? fun path =>
      disk.isFile (Path.join cwd path) with
  | some path =>
    obtain ⟨name, hname, rfl⟩ := List.mem_map.1 (List.mem_of_find?_eq_some hfound)
    have hfile := List.find?_some hfound
    exact iff_of_true ⟨_, rfl⟩ (.inl ⟨name, hname, hfile⟩)
  | none =>
    have hnone : ¬ ∃ name ∈ names,
        disk.isFile (Path.join cwd (Path.child directory name)) = true := by
      rintro ⟨name, hname, hfile⟩
      exact List.find?_eq_none.1 hfound _ (List.mem_map_of_mem hname) hfile
    rw [or_iff_right hnone]
    cases disk.file (Path.join cwd shared) with
    | error fault => exact iff_of_true ⟨_, rfl⟩ fun file h => by cases h
    | ok file =>
      simp only [Except.ok.injEq, forall_eq', exists_bind_ok_iff, ← hasOwnTable_ok_iff]
      refine exists_congr fun held => and_iff_left ?_
      cases held <;> exact ⟨_, rfl⟩

/-! ## What can go wrong -/

/-- Searching a directory and loading a file end in a configuration or are refused just if the
shared file does not stop them: its tools must be a table and, for searching alone, its bytes UTF-8
and its integers of a length that is read. What is loaded is well-typed, just the well-typed objects
are accepted, and merging reads the members again without an error. -/
theorem find_load_closed (disk : Disk) (cwd : String) :
    (∀ directory, (∃ found, find? disk cwd directory = .ok found) ↔
      (∃ name ∈ fileNames, disk.isFile (Path.join cwd (Path.child directory name)) = true) ∨
        ∀ file, disk.file (Path.join cwd (Path.child directory sharedFile)) = .ok file →
          Judgeable file.bytes) ∧
    (∀ path, ((∃ loaded, load disk cwd path = .ok loaded) ∨
        ∃ error, load disk cwd path = .error (.config error)) ↔
      (Path.fileName path = sharedFile → ∀ file members,
        disk.file (Path.join cwd (Path.tidy path)) = .ok file →
          readToml file.bytes = .ok members → ToolsTable members)) ∧
    (∀ path, (∃ loaded, load disk cwd path = .ok loaded) ↔
      ∃ file members, disk.file (Path.join cwd (Path.tidy path)) = .ok file ∧
        valueOf path file.bytes = .ok (.obj members) ∧ WellTyped (known members).1) ∧
    ∀ path loaded, load disk cwd path = .ok loaded → WellTyped loaded.members ∧
      ∀ source directory arguments settings,
        (ofSource ⟨source, loaded.members⟩).map
            (fun c => RunPlan.merge directory c arguments settings) =
          .ok (RunPlan.merge directory loaded.config arguments settings) := by
  refine ⟨fun directory => find_ok_iff, fun path => settled_load, fun path => ?_, ?_⟩
  · simp only [load_ok_iff]
    constructor
    · rintro ⟨loaded, file, value, hfile, hvalue, hloaded⟩
      obtain ⟨members, rfl, htyped⟩ := ofValue_ok_iff.1 ⟨loaded, hloaded⟩
      exact ⟨file, members, hfile, hvalue, htyped⟩
    · rintro ⟨file, members, hfile, hvalue, htyped⟩
      obtain ⟨loaded, hloaded⟩ := (@ofValue_ok_iff path _).2 ⟨members, rfl, htyped⟩
      exact ⟨loaded, file, _, hfile, hvalue, hloaded⟩
  · intro path loaded hload
    obtain ⟨file, value, -, -, hvalue⟩ := load_ok_iff.1 hload
    obtain ⟨htyped, hconfig⟩ := loaded_of_ofValue hvalue
    refine ⟨htyped, fun source directory arguments settings => ?_⟩
    rw [@ofSource_eq ⟨source, loaded.members⟩ htyped.typed, hconfig]
    rfl

/-- A disk whose directory `/p` holds only a shared file. -/
def sharedDisk (bytes : List UInt8) : Disk where
  files := [(["p", sharedFile], ⟨bytes, 1⟩)]
  directories := [["p"]]

/-- A shared file with a table for this program is found and loaded. -/
theorem find_load_closed_table :
    let disk := sharedDisk (Utf8.encode "[tool.bonsaicss]\nmax-final-kb = 3\n")
    (∃ found, find? disk "/p" "" = .ok found) ∧
      ∃ loaded, load disk "/p" "pyproject.toml" = .ok loaded ∧ WellTyped loaded.members := by
  intro disk
  obtain ⟨-, -, -, hloaded⟩ := find_load_closed disk "/p"
  have hfind : (find? disk "/p" "").isOk = true := by decide +kernel
  have hload : (load disk "/p" "pyproject.toml").isOk = true := by decide +kernel
  obtain ⟨loaded, hload⟩ := Outcome.isOk_iff.1 hload
  exact ⟨Outcome.isOk_iff.1 hfind, loaded, hload, (hloaded _ loaded hload).1⟩

/-- The error that a step ends in. -/
def errorOf? {ε α : Type} : Except ε α → Option ε
  | .ok _ => none
  | .error e => some e

theorem file_sharedDisk (bytes : List UInt8) :
    (sharedDisk bytes).file (Path.join "/p" (Path.tidy sharedFile)) = .ok ⟨bytes, 1⟩ := rfl

/-- Bytes that are no UTF-8 stop the search, and tools that are no table stop both. -/
theorem find_load_stopped :
    (errorOf? (find? (sharedDisk [0xff]) "/p" "")).map FindError.message =
        some "'utf-8' codec can't decode byte 0xff in position 0: invalid start byte" ∧
      let disk := sharedDisk (Utf8.encode "tool = 1\n")
      (errorOf? (find? disk "/p" "")).map FindError.message =
          some "'int' object has no attribute 'get'" ∧
        (errorOf? (load disk "/p" sharedFile)).map LoadError.message =
          some "'int' object has no attribute 'get'" ∧
        ¬ ((∃ loaded, load disk "/p" sharedFile = .ok loaded) ∨
          ∃ error, load disk "/p" sharedFile = .error (.config error)) := by
  have htool : ((readToml (Utf8.encode "tool = 1\n")).toOption.bind
      (·.lookup "tool")).map Json.kind = some "int" := by decide +kernel
  refine ⟨by decide +kernel, by decide +kernel, by decide +kernel, fun hsettled => ?_⟩
  have htable := fun members =>
    settled_load.1 hsettled (by decide) _ members (file_sharedDisk _)
  cases hread : readToml (Utf8.encode "tool = 1\n") with
  | error fault =>
    rw [hread] at htool
    cases htool
  | ok members =>
    rw [hread] at htool
    obtain ⟨v, hv, hkind⟩ := Option.map_eq_some_iff.1 htool
    obtain ⟨tools, rfl⟩ := htable members hread v hv
    simp [Json.kind] at hkind

end Config

end StylePrune
