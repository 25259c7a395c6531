import StylePrune.Proofs.Cache.Scanner
import StylePrune.Proofs.Disk.Location
import StylePrune.Proofs.Scan.Text

/-!
# What files give while files are scanned

What is put into the cache for a file answers for every path to it as a scan would, so scanning a
file leaves what each path gives as it was (`steady_scanFile`). Scanning files is then to merge what
each of them gives (`scanEach_eq`).
-/

namespace StylePrune.Caching

open Outcome (bind_eq_ok map_eq_ok mapError_eq_ok)

variable {s : Scanner} {disk : Disk} {state after : ScanState} {path : String} {scan : Scan}

/-- What a file gives. -/
def answer (s : Scanner) (disk : Disk) (state : ScanState) (path : String) :
    Except ScanError (Option Scan) := (s.scanFile disk state path).1

/-- The entry that the cache holds for a file, if it is asked. -/
def held? (s : Scanner) (disk : Disk) (state : ScanState) (path : String) : Option CacheEntry :=
  (s.signature? disk state path).bind fun signature =>
    state.cache.bind fun cache => cache.entry? (Path.absolute s.cwd path) signature

/-- A file gives what the cache holds for it, and what a scan gives if that is nothing. -/
theorem answer_eq (s : Scanner) (disk : Disk) (state : ScanState) (path : String) :
    answer s disk state path = (held? s disk state path).elim (s.freshScan disk path) fun entry =>
      (entry.scan.map some).mapError ScanError.pattern := by
  have hfresh : ∀ (state : ScanState) (signature : Option String),
      (s.scanAndStore disk state path signature).1 = s.freshScan disk path := fun state _ => by
    rw [Scanner.scanAndStore]
    cases s.freshScan disk path with
    | error e => rfl
    | ok found => cases found <;> rfl
  rw [answer, held?, Scanner.scanFile]
  cases s.signature? disk state path with
  | none => exact hfresh state none
  | some signature =>
    simp only [Scanner.lookup, Option.bind_some]
    cases hcache : state.cache with
    | none => exact hfresh state (some signature)
    | some cache =>
      simp only [ScanCache.get, Option.bind_some]
      cases cache.entry? (Path.absolute s.cwd path) signature with
      | none => exact hfresh _ (some signature)
      | some entry =>
        dsimp only [Option.elim]
        cases entry.scan <;> rfl

/-- Scanning a file changes the entries of the cache only to put in a scan that it had none for. -/
theorem entries_scanFile (s : Scanner) (disk : Disk) (state : ScanState) (path : String) :
    (s.scanFile disk state path).2.cache.map ScanCache.entries =
        state.cache.map ScanCache.entries ∨
      ∃ signature scan, s.signature? disk state path = some signature ∧
        held? s disk state path = none ∧ s.freshScan disk path = .ok (some scan) ∧
        (s.scanFile disk state path).2.cache.map ScanCache.entries =
          state.cache.map fun cache => setMember cache.entries (Path.absolute s.cwd path)
            (CacheEntry.ofScan signature scan) := by
  rw [held?, Scanner.scanFile]
  cases s.signature? disk state path with
  | none =>
    refine .inl ?_
    simp only [Scanner.scanAndStore]
    cases s.freshScan disk path with
    | error e => rfl
    | ok found => cases found <;> rfl
  | some signature =>
    simp only [Scanner.lookup, Option.bind_some]
    cases hcache : state.cache with
    | none =>
      refine .inl ?_
      simp only [Scanner.scanAndStore]
      cases s.freshScan disk path with
      | error e => rw [hcache]
      | ok found => cases found <;> simp [Scanner.store, hcache]
    | some cache =>
      simp only [ScanCache.get, Option.bind_some]
      cases hentry : cache.entry? (Path.absolute s.cwd path) signature with
      | some entry =>
        refine .inl ?_
        dsimp only
        cases entry.scan with
        | error e => simp [Except.map, hcache]
        | ok scan => rfl
      | none =>
        simp only [Scanner.scanAndStore]
        cases s.freshScan disk path with
        | error e => exact .inl rfl
        | ok found =>
          cases found with
          | none => exact .inl rfl
          | some scan => exact .inr ⟨signature, scan, rfl, trivial, rfl, rfl⟩

/-! ## No file changes what another gives -/

theorem signature?_congr (h : after.cache.isSome = state.cache.isSome) (path : String) :
    s.signature? disk after path = s.signature? disk state path := by
  rw [Scanner.signature?, Scanner.signature?, h]

/-- What files give depends on the entries of the cache. -/
theorem answer_congr (h : after.cache.map ScanCache.entries = state.cache.map ScanCache.entries)
    (path : String) : answer s disk after path = answer s disk state path := by
  have hsome : after.cache.isSome = state.cache.isSome := by
    simpa using congrArg Option.isSome h
  have hheld : held? s disk after path = held? s disk state path := by
    rw [held?, held?, signature?_congr hsome]
    cases ha : after.cache with
    | none =>
      rw [ha, Option.map_none, eq_comm, Option.map_eq_none_iff] at h
      rw [h]
    | some cache =>
      rw [ha, Option.map_some, eq_comm, Option.map_eq_some_iff] at h
      obtain ⟨cache', hcache', hentries⟩ := h
      simp only [hcache', Option.bind_some, ScanCache.entry?, hentries]
  rw [answer_eq, answer_eq, hheld]

/-- A file that the cache is asked for: there are no extractors, and the path leads to something. -/
theorem asked_of_signature? {signature : String}
    (h : s.signature? disk state path = some signature) :
    s.extractors = [] ∧ path ≠ "" ∧
      (disk.status? (Path.join s.cwd path)).isSome = true := by
  rw [Scanner.signature?] at h
  split at h
  · rename_i hasked
    rw [Bool.and_eq_true, List.isEmpty_iff] at hasked
    obtain ⟨status, hstatus, -⟩ := Option.map_eq_some_iff.1 h
    have hpath : path ≠ "" := by
      rintro rfl
      cases hstatus
    rw [Path.seenFrom, if_neg hpath] at hstatus
    exact ⟨hasked.1, hpath, hstatus ▸ rfl⟩
  · cases h

/-- Paths under one name in the cache that it is asked for have one signature and one scan. -/
theorem same_of_absolute (hcwd : Path.isAbsolute s.cwd = true) {other signature signature' : String}
    (h : s.signature? disk state path = some signature)
    (h' : s.signature? disk state other = some signature')
    (hname : Path.absolute s.cwd other = Path.absolute s.cwd path) :
    signature' = signature ∧ s.freshScan disk other = s.freshScan disk path := by
  obtain ⟨-, hpath, hstatus⟩ := asked_of_signature? h
  obtain ⟨-, hother, hstatus'⟩ := asked_of_signature? h'
  have hfile : disk.file (Path.join s.cwd other) = disk.file (Path.join s.cwd path) :=
    Disk.file_eq_of_normalize (Path.isAbsolute_join hcwd other) (Path.isAbsolute_join hcwd path)
      hname hstatus' hstatus
  have hread : disk.readLossy (Path.join s.cwd other) = disk.readLossy (Path.join s.cwd path) := by
    rw [Disk.readLossy, Disk.readLossy, hfile]
  have hsame : disk.status? (Path.join s.cwd other) = disk.status? (Path.join s.cwd path) := by
    rw [Disk.status?, Disk.status?, hfile]
  have hlabel : Path.label s.cwd s.base other = Path.label s.cwd s.base path := by
    rw [Path.label, Path.label, if_neg hother, if_neg hpath, hname]
  refine ⟨?signature, ?scan⟩
  case signature =>
    rw [Scanner.signature?, Signature.ofPath?, Path.seenFrom, if_neg hother, hsame] at h'
    rw [Scanner.signature?, Signature.ofPath?, Path.seenFrom, if_neg hpath] at h
    exact Option.some.inj (h'.symm.trans h)
  case scan =>
    simp only [Scanner.freshScan, Path.seenFrom, if_neg hother, if_neg hpath, hread,
      Scanner.scanContents, hlabel]

theorem scan_freshScan (h : s.freshScan disk path = .ok (some scan)) :
    ∃ content, s.scanContents path content = .ok scan := by
  rw [Scanner.freshScan] at h
  split at h
  · cases h
  · obtain ⟨_, hscan, heq⟩ := map_eq_ok.1 h
    obtain rfl := Option.some.inj heq
    exact ⟨_, hscan⟩

theorem wellFormed_freshScan (hextractors : s.extractors = [])
    (h : s.freshScan disk path = .ok (some scan)) : scan.WellFormed := by
  obtain ⟨content, hscan⟩ := scan_freshScan h
  rw [Scanner.scanContents, scanText, hextractors] at hscan
  obtain rfl := Except.ok.inj hscan
  exact Content.wellFormed_scan ..

/-- Scanning a file leaves what every file gives as it was. -/
theorem steady_scanFile (hcwd : Path.isAbsolute s.cwd = true) (disk : Disk) (state : ScanState)
    (path other : String) :
    answer s disk (s.scanFile disk state path).2 other = answer s disk state other := by
  generalize hafter : (s.scanFile disk state path).2 = after
  rcases entries_scanFile s disk state path with
    hsame | ⟨signature, scan, hsignature, hheld, hfresh, hstored⟩
  · exact answer_congr (hafter ▸ hsame) other
  rw [hafter] at hstored
  obtain ⟨cache, hcache⟩ : ∃ cache, state.cache = some cache := by
    cases hcache : state.cache with
    | none =>
      rw [Scanner.signature?, hcache] at hsignature
      simp at hsignature
    | some cache => exact ⟨cache, rfl⟩
  obtain ⟨cache', hcache', hentries⟩ : ∃ cache', after.cache = some cache' ∧
      cache'.entries = setMember cache.entries (Path.absolute s.cwd path)
        (CacheEntry.ofScan signature scan) := by
    rw [hcache] at hstored
    exact Option.map_eq_some_iff.1 hstored
  have hasked : s.signature? disk after other = s.signature? disk state other :=
    signature?_congr (by rw [hcache, hcache']; rfl) other
  rw [answer_eq, answer_eq, held?, held?, hasked]
  cases hother : s.signature? disk state other with
  | none => rfl
  | some signature' =>
    simp only [Option.bind_some, hcache, hcache', ScanCache.entry?, hentries]
    by_cases hname : Path.absolute s.cwd other = Path.absolute s.cwd path
    · obtain ⟨rfl, hscan⟩ := same_of_absolute hcwd hsignature hother hname
      rw [held?, hsignature, hcache] at hheld
      rw [hname, lookup_setMember, hscan, hfresh,
        show (cache.entries.lookup _).filter _ = none from hheld, Option.filter_some,
        if_pos (by exact decide_eq_true rfl), Option.elim_some, Option.elim_none,
        CacheEntry.scan_ofScan
          (wellFormed_freshScan (asked_of_signature? hsignature).1 hfresh)]
      rfl
    · rw [lookup_setMember_of_ne hname]

/-! ## What scans hold -/

theorem ordered_entry {e : CacheEntry} (hnames : (e.origins.map Prod.fst).Nodup)
    (h : e.scan = .ok scan) : scan.Ordered := by
  rw [CacheEntry.scan] at h
  obtain ⟨patterns, -, heq⟩ := bind_eq_ok.1 h
  obtain rfl := Except.ok.inj heq
  refine ⟨Sorted.pairwise_ofList Sorted.strict_stringLt e.classes, ?_, fun o ho => ?_⟩
  · rwa [List.map_map]
  · obtain ⟨member, -, rfl⟩ := List.mem_map.1 ho
    exact Sorted.pairwise_ofList Sorted.strict_stringLt member.2

theorem plain_entry {e : CacheEntry} (h : e.scan = .ok scan) :
    ∀ p ∈ scan.dynamicPatterns, p.Plain := by
  rw [CacheEntry.scan] at h
  obtain ⟨patterns, hpatterns, heq⟩ := bind_eq_ok.1 h
  obtain rfl := Except.ok.inj heq
  refine plain_of_readPatterns (fun p hp => ?_) hpatterns
  obtain ⟨text, -, heq⟩ := List.mem_map.1 hp
  cases heq

/-- What a file gives is a scan of its text, or what an entry keeps. -/
theorem answer_ok (h : answer s disk state path = .ok (some scan)) :
    (∃ content, s.scanContents path content = .ok scan) ∨
      ∃ cache e, state.cache = some cache ∧ (Path.absolute s.cwd path, e) ∈ cache.entries ∧
        e.scan = .ok scan := by
  rw [answer_eq] at h
  cases hheld : held? s disk state path with
  | none =>
    rw [hheld] at h
    exact .inl (scan_freshScan h)
  | some e =>
    rw [hheld, Option.elim_some, mapError_eq_ok] at h
    obtain ⟨_, hscan, heq⟩ := map_eq_ok.1 h
    obtain rfl := Option.some.inj heq
    obtain ⟨signature, -, hcache⟩ := Option.bind_eq_some_iff.1 hheld
    obtain ⟨cache, hcache, hentry⟩ := Option.bind_eq_some_iff.1 hcache
    obtain ⟨hlookup, -⟩ := Option.filter_eq_some_iff.1 hentry
    obtain ⟨before, rest, hentries, -⟩ := List.lookup_eq_some_iff.1 hlookup
    exact .inr ⟨cache, e, hcache, hentries ▸ List.mem_append_right _ List.mem_cons_self, hscan⟩

theorem ordered_answer (hcache : ∀ cache, state.cache = some cache → cache.entries.Distinct)
    (h : answer s disk state path = .ok (some scan)) : scan.Ordered := by
  rcases answer_ok h with ⟨content, hscan⟩ | ⟨cache, e, hc, he, hscan⟩
  · exact ordered_scanText hscan
  · exact ordered_entry ((hcache cache hc).names _ he) hscan

theorem plain_answer (hextractors : ∀ e ∈ s.extractors, e.GivesPlain)
    (h : answer s disk state path = .ok (some scan)) : ∀ p ∈ scan.dynamicPatterns, p.Plain := by
  rcases answer_ok h with ⟨content, hscan⟩ | ⟨cache, e, hc, he, hscan⟩
  · exact plain_scanText hextractors hscan
  · exact plain_entry hscan

/-! ## Several files -/

/-- The scans of files merged into a sum; files that cannot be read do not count. -/
def total (sum : ProjectScan) (found : List (Option Scan)) : ProjectScan :=
  (found.filterMap id).foldl Scanner.addScan sum

/-- Scanning files merges what each gives, and leaves it as it was. -/
theorem scanEach_eq (hcwd : Path.isAbsolute s.cwd = true) (disk : Disk) (paths : List String)
    (state : ScanState) (sum : ProjectScan) :
    (s.scanEach disk state sum paths).1 = (paths.mapM (answer s disk state)).map (total sum) ∧
      ∀ path, answer s disk (s.scanEach disk state sum paths).2 path =
        answer s disk state path := by
  induction paths generalizing state sum with
  | nil => exact ⟨rfl, fun _ => rfl⟩
  | cons path rest ih =>
    have hsteady := steady_scanFile hcwd disk state path
    rw [Scanner.scanEach, List.mapM_cons, answer]
    generalize s.scanFile disk state path = result at hsteady
    obtain ⟨found, after⟩ := result
    have hrest : rest.mapM (answer s disk state) = rest.mapM (answer s disk after) := by
      rw [funext hsteady]
    cases found with
    | error e => exact ⟨rfl, hsteady⟩
    | ok found =>
      rw [hrest]
      cases found with
      | none =>
        obtain ⟨hsum, hlast⟩ := ih after sum
        refine ⟨hsum.trans ?_, fun path => (hlast path).trans (hsteady path)⟩
        cases rest.mapM (answer s disk after) <;> rfl
      | some scan =>
        obtain ⟨hsum, hlast⟩ := ih after (Scanner.addScan sum scan)
        refine ⟨hsum.trans ?_, fun path => (hlast path).trans (hsteady path)⟩
        cases rest.mapM (answer s disk after) <;> rfl

end StylePrune.Caching
