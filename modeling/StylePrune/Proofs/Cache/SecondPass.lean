import StylePrune.Project.Scanner
import StylePrune.Proofs.Cache.File
import StylePrune.Proofs.Disk.Frame
import StylePrune.Proofs.Json.Keys

/-!
# Scanning twice with one cache

Files that were scanned are answered by the cache from then on (`scanEach_held`), so a second pass
over files that are as they were gives the same (`scanEach_again`), whatever entries the cache held
at first. Entries that come from a file, whoever wrote it, survive being saved (`distinct_load`).
-/

namespace StylePrune

/-! ## Entries that were read -/

theorem mapM_fst {α β : Type} {f : α → Option β} {members : List (String × α)}
    {entries : List (String × β)}
    (h : members.mapM (fun m => (f m.2).map fun b => (m.1, b)) = some entries) :
    entries.map Prod.fst = members.map Prod.fst ∧
      ∀ e ∈ entries, ∃ m ∈ members, f m.2 = some e.2 := by
  induction members generalizing entries with
  | nil =>
    obtain rfl := Option.some.inj h
    exact ⟨rfl, fun _ he => by cases he⟩
  | cons m rest ih =>
    rw [List.mapM_cons] at h
    cases hm : f m.2 with
    | none => rw [hm] at h; cases h
    | some b =>
      cases hrest : rest.mapM fun m => (f m.2).map fun b => (m.1, b) with
      | none => simp [hm, hrest] at h
      | some more =>
        obtain rfl : (m.1, b) :: more = entries := by simpa [hm, hrest] using h
        obtain ⟨hkeys, hmore⟩ := ih hrest
        refine ⟨by rw [List.map_cons, List.map_cons, hkeys], fun e he => ?_⟩
        rcases List.mem_cons.1 he with rfl | he
        · exact ⟨m, List.mem_cons_self, hm⟩
        · obtain ⟨m', hm', hfound⟩ := hmore e he
          exact ⟨m', List.mem_cons_of_mem _ hm', hfound⟩

theorem CacheEntry.nodup_ofJson? {v : Json} {e : CacheEntry} (hv : v.Keyed)
    (h : ofJson? v = some e) : (e.origins.map Prod.fst).Nodup := by
  obtain ⟨_, -, h⟩ := Option.bind_eq_some_iff.1 h
  obtain ⟨_, -, h⟩ := Option.bind_eq_some_iff.1 h
  obtain ⟨_, -, h⟩ := Option.bind_eq_some_iff.1 h
  obtain ⟨_, -, h⟩ := Option.bind_eq_some_iff.1 h
  obtain ⟨origins, horigins, h⟩ := Option.bind_eq_some_iff.1 h
  obtain ⟨_, -, h⟩ := Option.bind_eq_some_iff.1 h
  obtain rfl := Option.some.inj h
  rw [originsOf?] at horigins
  split at horigins
  · obtain rfl := Option.some.inj horigins
    exact List.nodup_nil
  · rename_i hmember
    rw [(mapM_fst horigins).1]
    exact (hv.member? hmember).names
  · cases horigins

theorem CacheFile.distinct_ofJson? {v : Json} {entries : CacheEntries} (hv : v.Keyed)
    (h : ofJson? v = some entries) : entries.Distinct := by
  rw [ofJson?] at h
  split at h
  · rename_i members hmember
    split at h
    · obtain ⟨hkeys, hvalues⟩ := mapM_fst h
      have hmembers := hv.member? hmember
      refine ⟨hkeys ▸ hmembers.names, fun e he => ?_⟩
      obtain ⟨m, hm, hentry⟩ := hvalues e he
      exact CacheEntry.nodup_ofJson? (hmembers.values m hm) hentry
    · cases h
  · cases h

/-- Entries that come from a file are distinct, whatever the file holds. -/
theorem CacheFile.distinct_load (disk : Disk) (path : String) : (load disk path).Distinct := by
  have hempty : CacheEntries.Distinct [] := ⟨List.nodup_nil, fun _ he => by cases he⟩
  rw [load]
  split
  · rename_i text _
    rw [read?]
    split
    · rename_i v hv
      cases hentries : ofJson? v with
      | none => exact hempty
      | some entries => exact distinct_ofJson? (Json.keyed_parse hv) hentries
    · exact hempty
  · exact hempty

namespace Caching

variable {scanner : Scanner} {disk d e : Disk} {entries entries' : CacheEntries}
  {cache : ScanCache} {path : String} {f : File} {scan : Scan}

/-! ## What a cache holds -/

/-- The signature of a file. -/
def fileSignature (scanner : Scanner) (f : File) : String :=
  Signature.ofStatus scanner.options.dynamicPatterns.collects (some scanner.base)
    ⟨f.modified, f.bytes.length⟩

/-- The scan of a file by the recognisers. -/
def fileScan (scanner : Scanner) (path : String) (f : File) : Scan :=
  Content.scan scanner.options.dynamicPatterns.collects
    (some (Path.label scanner.cwd scanner.base path))
    (String.ofList (Utf8.plainLines (Utf8.decodeLossy f.bytes))).toList

/-- Whether entries answer for a file with a scan. -/
def Held (scanner : Scanner) (disk : Disk) (entries : CacheEntries) (path : String)
    (scan : Scan) : Prop :=
  ∃ f entry, disk.file path = .ok f ∧
    entries.lookup (Path.absolute scanner.cwd path) = some entry ∧
    entry.signature = fileSignature scanner f ∧ entry.scan = .ok scan

theorem seenFrom_absolute {cwd : String} (h : Path.isAbsolute path = true) :
    Path.seenFrom cwd path = path := by
  rw [Path.seenFrom, if_neg, Path.join, if_pos h]
  rintro rfl
  cases h

theorem signature?_file (hextractors : scanner.extractors = [])
    (habsolute : Path.isAbsolute path = true) (hfile : disk.file path = .ok f)
    (cache : ScanCache) (tally : Tally) :
    scanner.signature? disk ⟨some cache, tally⟩ path = some (fileSignature scanner f) := by
  rw [Scanner.signature?, hextractors, seenFrom_absolute habsolute, Signature.ofPath?,
    Disk.status?, hfile]
  rfl

theorem freshScan_file (hextractors : scanner.extractors = [])
    (habsolute : Path.isAbsolute path = true) (hfile : disk.file path = .ok f) :
    scanner.freshScan disk path = .ok (some (fileScan scanner path f)) := by
  rw [Scanner.freshScan, seenFrom_absolute habsolute, Disk.readLossy, hfile]
  simp only [bind, Except.bind, pure, Except.pure, Scanner.scanContents, scanText, hextractors,
    List.isEmpty_nil, if_true]
  rfl

/-- Normal paths under one name in the cache lead to one file. -/
theorem file_eq_of_absolute {cwd other : String} {g : File} (hpath : Path.IsNormal path)
    (hother : Path.IsNormal other) (h : Path.absolute cwd path = Path.absolute cwd other)
    (hf : disk.file path = .ok f) (hg : disk.file other = .ok g) : f = g := by
  have hplace : ∀ {p : String}, Path.IsNormal p →
      Path.place (Path.absolute cwd p) = Path.place p := fun {p} hp => by
    rw [Path.absolute, Path.join, if_pos hp.absolute, Path.place_normalize hp.absolute hp.noUp]
  obtain ⟨p, hp, hfp⟩ := Disk.file_ok.1 hf
  obtain ⟨q, hq, hgq⟩ := Disk.file_ok.1 hg
  obtain ⟨rfl, -⟩ := (Disk.locate_normal hpath).1 hp
  obtain ⟨rfl, -⟩ := (Disk.locate_normal hother).1 hq
  rw [← hplace hpath, h, hplace hother, hgq] at hfp
  exact (Option.some.inj hfp).symm

/-! ## One file -/

/-- What scanning a file does to the entries, if it gives a scan: they answer for the file with it,
and for every other file as before. -/
structure Scanned (scanner : Scanner) (disk : Disk) (entries : CacheEntries) (path : String)
    (scan : Scan) (entries' : CacheEntries) : Prop where
  held : Held scanner disk entries' path scan
  kept : ∀ {other found}, Path.IsNormal other → Held scanner disk entries other found →
    Held scanner disk entries' other found
  distinct : entries.Distinct → entries'.Distinct

theorem scanned_setMember (hpath : Path.IsNormal path) (hfile : disk.file path = .ok f)
    (hmiss : (entries.lookup (Path.absolute scanner.cwd path)).filter
      (fun entry => entry.signature = fileSignature scanner f) = none) :
    Scanned scanner disk entries path (fileScan scanner path f)
      (setMember entries (Path.absolute scanner.cwd path)
        (CacheEntry.ofScan (fileSignature scanner f) (fileScan scanner path f))) := by
  have hshape : (fileScan scanner path f).WellFormed := Content.wellFormed_scan ..
  generalize fileScan scanner path f = scan at hshape
  refine ⟨⟨f, _, hfile, lookup_setMember .., rfl, CacheEntry.scan_ofScan hshape _⟩, ?_, ?_⟩
  · rintro other found hother ⟨g, entry, hg, hlookup, hsignature, hscan⟩
    -- A file of the same name has the same signature, and there was no entry with it.
    by_cases hname : Path.absolute scanner.cwd other = Path.absolute scanner.cwd path
    · obtain rfl := file_eq_of_absolute hother hpath hname hg hfile
      rw [← hname, hlookup, Option.filter_some, if_pos (decide_eq_true hsignature)] at hmiss
      cases hmiss
    · exact ⟨g, entry, hg, (lookup_setMember_of_ne hname).trans hlookup, hsignature, hscan⟩
  · intro hdistinct
    refine ⟨nodup_setMember hdistinct.paths, fun m hm => ?_⟩
    rcases mem_setMember hm with rfl | hm
    · exact hshape.origins.names
    · exact hdistinct.names m hm

/-- A file that is there gives a scan that the cache holds afterwards, or an error. -/
theorem scanFile_held (hextractors : scanner.extractors = []) (hpath : Path.IsNormal path)
    (hfile : disk.file path = .ok f) (cache : ScanCache) (tally : Tally) :
    (∃ error state, scanner.scanFile disk ⟨some cache, tally⟩ path = (.error error, state)) ∨
      ∃ scan cache' tally', scanner.scanFile disk ⟨some cache, tally⟩ path =
          (.ok (some scan), ⟨some cache', tally'⟩) ∧
        Scanned scanner disk cache.entries path scan cache'.entries ∧
        cache'.file = cache.file := by
  rw [Scanner.scanFile, signature?_file hextractors hpath.absolute hfile]
  simp only [Scanner.lookup, ScanCache.get]
  cases hentry : cache.entry? (Path.absolute scanner.cwd path) (fileSignature scanner f) with
  | none =>
    simp only [Scanner.scanAndStore, freshScan_file hextractors hpath.absolute hfile]
    exact .inr ⟨_, _, _, rfl, scanned_setMember hpath hfile hentry, rfl⟩
  | some entry =>
    obtain ⟨hlookup, hsignature⟩ := Option.filter_eq_some_iff.1 hentry
    cases hscan : entry.scan with
    | error error =>
      simp only [hscan, Except.map]
      exact .inl ⟨_, _, rfl⟩
    | ok scan =>
      simp only [hscan, Except.map]
      exact .inr ⟨scan, _, _, rfl, ⟨⟨f, entry, hfile, hlookup, of_decide_eq_true hsignature, hscan⟩,
        fun _ h => h, fun h => h⟩, rfl⟩

/-- A file that the cache answers for gives what the cache holds. -/
theorem scanFile_again (hextractors : scanner.extractors = [])
    (habsolute : Path.isAbsolute path = true) (tally : Tally)
    (h : Held scanner disk cache.entries path scan) : ∃ cache' tally',
      scanner.scanFile disk ⟨some cache, tally⟩ path = (.ok (some scan), ⟨some cache', tally'⟩) ∧
        cache'.entries = cache.entries := by
  obtain ⟨f, entry, hfile, hlookup, hsignature, hscan⟩ := h
  have hentry : cache.entry? (Path.absolute scanner.cwd path) (fileSignature scanner f) =
      some entry := by
    rw [ScanCache.entry?, hlookup, Option.filter_some, if_pos (decide_eq_true hsignature)]
  rw [Scanner.scanFile, signature?_file hextractors habsolute hfile]
  simp only [Scanner.lookup, ScanCache.get, hentry, hscan, Except.map]
  exact ⟨_, _, rfl, rfl⟩

/-! ## Several files -/

/-- A first pass over files gives the sum of scans that the cache holds afterwards. -/
theorem scanEach_held (hextractors : scanner.extractors = []) {paths : List String}
    (hpaths : ∀ path ∈ paths, Path.IsNormal path ∧ ∃ f, disk.file path = .ok f)
    {tally : Tally} {sum total : ProjectScan} {state : ScanState}
    (h : scanner.scanEach disk ⟨some cache, tally⟩ sum paths = (.ok total, state)) :
    ∃ cache' scans, state.cache = some cache' ∧
      List.Forall₂ (Held scanner disk cache'.entries) paths scans ∧
      total = scans.foldl Scanner.addScan sum ∧
      (∀ {other found}, Path.IsNormal other → Held scanner disk cache.entries other found →
        Held scanner disk cache'.entries other found) ∧
      (cache.entries.Distinct → cache'.entries.Distinct) ∧ cache'.file = cache.file := by
  induction paths generalizing cache tally sum with
  | nil =>
    obtain ⟨htotal, rfl⟩ := Prod.mk.inj h
    obtain rfl := Except.ok.inj htotal
    exact ⟨cache, [], rfl, .nil, rfl, fun _ h => h, fun h => h, rfl⟩
  | cons path rest ih =>
    obtain ⟨⟨hpath, f, hfile⟩, hrest⟩ := List.forall_mem_cons.1 hpaths
    rw [Scanner.scanEach] at h
    rcases scanFile_held hextractors hpath hfile cache tally with
      ⟨error, state', hscan⟩ | ⟨scan, cache', tally', hscan, hscanned, hsameFile⟩
    · rw [hscan] at h
      cases h
    · rw [hscan] at h
      obtain ⟨cache'', scans, hstate, hscans, htotal, hkept, hdistinct, hlast⟩ := ih hrest h
      exact ⟨cache'', scan :: scans, hstate, .cons (hkept hpath hscanned.held) hscans, htotal,
        fun hother hheld => hkept hother (hscanned.kept hother hheld),
        fun h => hdistinct (hscanned.distinct h), hlast.trans hsameFile⟩

/-- A pass over files that the cache answers for gives what the cache holds. -/
theorem scanEach_again (hextractors : scanner.extractors = []) {paths : List String}
    (hpaths : ∀ path ∈ paths, Path.isAbsolute path = true) {scans : List Scan}
    (h : List.Forall₂ (Held scanner disk entries) paths scans) (hentries : cache.entries = entries)
    (tally : Tally) (sum : ProjectScan) :
    (scanner.scanEach disk ⟨some cache, tally⟩ sum paths).1 =
      .ok (scans.foldl Scanner.addScan sum) := by
  induction h generalizing cache tally sum with
  | nil => rfl
  | @cons path scan rest scans hpath _ ih =>
    obtain ⟨habsolute, hrest⟩ := List.forall_mem_cons.1 hpaths
    obtain ⟨cache', tally', hscan, hsame⟩ :=
      scanFile_again hextractors habsolute tally (hentries ▸ hpath)
    rw [Scanner.scanEach, hscan, List.foldl_cons]
    exact ih hrest (hsame.trans hentries) tally' (Scanner.addScan sum scan)

/-- A file that is the same, with the same cache, gives the same, whatever was counted. -/
theorem scanFile_congr (h : d.file (Path.seenFrom scanner.cwd path) =
    e.file (Path.seenFrom scanner.cwd path)) (cache : Option ScanCache) (tally tally' : Tally) :
    ∃ answer cache' after after',
      scanner.scanFile d ⟨cache, tally⟩ path = (answer, ⟨cache', after⟩) ∧
      scanner.scanFile e ⟨cache, tally'⟩ path = (answer, ⟨cache', after'⟩) := by
  have hsignature : scanner.signature? e ⟨cache, tally'⟩ path =
      scanner.signature? d ⟨cache, tally⟩ path := by
    simp only [Scanner.signature?, Signature.ofPath?, Disk.status?, h]
  have hfresh : scanner.freshScan e path = scanner.freshScan d path := by
    simp only [Scanner.freshScan, Disk.readLossy, h]
  have hstore : ∀ (cache : Option ScanCache) (tally tally' : Tally) (signature : Option String),
      ∃ answer cache' after after',
        scanner.scanAndStore d ⟨cache, tally⟩ path signature = (answer, ⟨cache', after⟩) ∧
        scanner.scanAndStore e ⟨cache, tally'⟩ path signature = (answer, ⟨cache', after'⟩) := by
    intro cache tally tally' signature
    simp only [Scanner.scanAndStore, hfresh]
    rcases scanner.freshScan d path with _ | _ | scan
    · exact ⟨_, _, _, _, rfl, rfl⟩
    · exact ⟨_, _, _, _, rfl, rfl⟩
    · cases signature <;> exact ⟨_, _, _, _, rfl, rfl⟩
  rw [Scanner.scanFile, Scanner.scanFile, hsignature]
  cases scanner.signature? d ⟨cache, tally⟩ path with
  | none => exact hstore cache tally tally' none
  | some signature =>
    simp only [Scanner.lookup]
    cases cache with
    | none => exact hstore none tally tally' (some signature)
    | some cache =>
      simp only
      rcases cache.get (Path.absolute scanner.cwd path) signature with _ | ⟨_ | scan, cache'⟩
      · exact ⟨_, _, _, _, rfl, rfl⟩
      · exact hstore (some cache') _ _ (some signature)
      · exact ⟨_, _, _, _, rfl, rfl⟩

theorem scanEach_congr (scanner : Scanner) {paths : List String}
    (h : ∀ path ∈ paths, d.file (Path.seenFrom scanner.cwd path) =
      e.file (Path.seenFrom scanner.cwd path))
    (cache : Option ScanCache) (tally tally' : Tally) (sum : ProjectScan) :
    (scanner.scanEach d ⟨cache, tally⟩ sum paths).1 =
      (scanner.scanEach e ⟨cache, tally'⟩ sum paths).1 := by
  induction paths generalizing cache tally tally' sum with
  | nil => rfl
  | cons path rest ih =>
    obtain ⟨hpath, hrest⟩ := List.forall_mem_cons.1 h
    obtain ⟨answer, cache', after, after', hd, he⟩ := scanFile_congr hpath cache tally tally'
    rw [Scanner.scanEach, Scanner.scanEach, hd, he]
    rcases answer with _ | _ | scan
    · rfl
    · exact ih hrest ..
    · exact ih hrest ..

/-! ## Scanning with options -/

variable {o : Options} {cwd base : String} {paths : List String}

/-- What a pass over files that are there leaves behind, if it gives a scan: with the entries of
its cache, files that are as they were give the scan again. -/
theorem scanFiles_again (hextractors : o.extractors = [])
    (hpaths : ∀ path ∈ paths, Path.IsNormal path ∧ ∃ f, d.file path = .ok f ∧ e.file path = .ok f)
    {tally : Tally} {scan : ProjectScan} {state : ScanState}
    (h : scanFiles o d cwd base ⟨some cache, tally⟩ paths = (.ok scan, state)) :
    ∃ cache', state.cache = some cache' ∧ cache'.file = cache.file ∧
      (cache.entries.Distinct → cache'.entries.Distinct) ∧
      ∀ (again : ScanCache) (tally' : Tally), again.entries = cache'.entries →
        (scanFiles o e cwd base ⟨some again, tally'⟩ paths).1 = .ok scan := by
  have hcheck : Extractor.checkAll o.extractors = .ok [] := by rw [hextractors]; rfl
  simp only [scanFiles, hcheck] at h ⊢
  cases heach : Scanner.scanEach ⟨o, [], cwd, Path.absolute cwd base⟩ d ⟨some cache, tally⟩ {} paths
    with | mk answer state' =>
  rw [heach] at h
  cases answer with
  | error error => cases h
  | ok sum =>
    obtain ⟨hscan, rfl⟩ := Prod.mk.inj h
    obtain ⟨cache', scans, hstate, hheld, rfl, -, hdistinct, hfile⟩ := scanEach_held rfl
      (fun path hpath => ⟨(hpaths path hpath).1, (hpaths path hpath).2.imp fun _ h => h.1⟩) heach
    refine ⟨cache', hstate, hfile, hdistinct, fun again tally' hentries => ?_⟩
    have hsame : ∀ path ∈ paths,
        e.file (Path.seenFrom cwd path) = d.file (Path.seenFrom cwd path) :=
      fun path hpath => by
        obtain ⟨hnormal, f, hd, he⟩ := hpaths path hpath
        rw [seenFrom_absolute hnormal.absolute, hd, he]
    have hagain := scanEach_again rfl (fun path hpath => (hpaths path hpath).1.absolute) hheld
      hentries tally' {}
    rw [← scanEach_congr _ hsame (some again) tally' tally'] at hagain
    generalize Scanner.scanEach _ e ⟨some again, tally'⟩ {} paths = call at hagain
    obtain ⟨answer, state⟩ := call
    obtain rfl := hagain
    exact hscan

/-- Scanning the same files with the same cache gives the same, whatever was counted. -/
theorem scanFiles_congr
    (h : ∀ path ∈ paths, d.file (Path.seenFrom cwd path) = e.file (Path.seenFrom cwd path))
    (cache : Option ScanCache) (tally tally' : Tally) :
    (scanFiles o d cwd base ⟨cache, tally⟩ paths).1 =
      (scanFiles o e cwd base ⟨cache, tally'⟩ paths).1 := by
  simp only [scanFiles]
  cases Extractor.checkAll o.extractors with
  | error error => rfl
  | ok extractors =>
    have heach := scanEach_congr ⟨o, extractors, cwd, Path.absolute cwd base⟩ h cache
      tally tally' {}
    simp only
    generalize Scanner.scanEach _ d ⟨cache, tally⟩ {} paths = first at heach
    generalize Scanner.scanEach _ e ⟨cache, tally'⟩ {} paths = second at heach
    obtain ⟨answer, state⟩ := first
    obtain ⟨answer', state'⟩ := second
    obtain rfl : answer = answer' := heach
    cases answer <;> rfl

end Caching

end StylePrune
