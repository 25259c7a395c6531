import StylePrune.Proofs.Cache.Scanner

/-!
# Caches do not show

Files are scanned with one cache while files change, the cache is cleared and saved, and a new cache
is opened on the file it was saved to. Whatever was done before, every call gives what it gives
without a cache, and a call with extractors leaves the cache alone (`calls_transparent`). What a
file holds is taken as given by its absolute path and status, and the directories that origins are
seen from as told apart by their marks.
-/

namespace StylePrune.Caching

/-- The files, the cache and the counts between two calls. -/
structure World where
  disk : Disk
  cache : ScanCache
  tally : Tally := {}

namespace World

def state (w : World) : ScanState := ⟨some w.cache, w.tally⟩

/-- The world after a call. -/
def after (w : World) (state : ScanState) : World :=
  { w with cache := state.cache.getD w.cache, tally := state.tally }

/-- Scans a file with the cache. -/
def scanFile (w : World) (s : Setting) (o : Options) (base path : String) :
    Except ScanError (Option Scan) × ScanState :=
  StylePrune.scanFile o w.disk s.cwd base w.state path

/-- Scans files with the cache. -/
def scanFiles (w : World) (s : Setting) (o : Options) (base : String) (paths : List String) :
    Except ScanError ProjectScan × ScanState :=
  StylePrune.scanFiles o w.disk s.cwd base w.state paths

end World

/-- What can happen to a world. Files change in any way, but nobody else writes a cache file that
can be read to where the cache is saved. -/
inductive Step (s : Setting) (w : World) : World → Prop where
  | scanFile (o : Options) {base : String} (h : s.Uses base) (path : String) :
    Step s w (w.after (w.scanFile s o base path).2)
  | scanFiles (o : Options) {base : String} (h : s.Uses base) (paths : List String) :
    Step s w (w.after (w.scanFiles s o base paths).2)
  | edit (disk : Disk) (h : ∀ file, w.cache.file = some file →
      CacheFile.load disk file = CacheFile.load w.disk file ∨ CacheFile.load disk file = []) :
    Step s w { w with disk }
  | clear : Step s w { w with cache := w.cache.clear }
  | save : Step s w { w with disk := w.cache.save w.disk }
  | reopen {file : String} (h : w.cache.file = some file) :
    Step s w { w with cache := ScanCache.ofFile w.disk file }

/-- The worlds that are reached from an empty cache, in memory or on a file without entries. -/
inductive Reaches (s : Setting) : World → Prop where
  | start {disk : Disk} (file : Option String)
      (h : ∀ path, file = some path → CacheFile.load disk path = []) (hdisk : s.Describes disk)
      (tally : Tally) : Reaches s ⟨disk, { file }, tally⟩
  | step {w w' : World} (h : Reaches s w) (hstep : Step s w w') (hdisk : s.Describes w'.disk) :
    Reaches s w'

variable {s : Setting} {disk : Disk} {cache : ScanCache} {o : Options} {base : String}

/-! ## One call -/

theorem checkFrom_ne_nil {position : Nat} {definitions : List Extractor.Definition}
    {extractors : List Extractor} (h : definitions ≠ [])
    (hcheck : Extractor.checkFrom position definitions = .ok extractors) : extractors ≠ [] := by
  cases definitions with
  | nil => exact absurd rfl h
  | cons d rest =>
    rw [Extractor.checkFrom] at hcheck
    split at hcheck
    · cases hcheck
    · cases hrest : Extractor.checkFrom (position + 1) rest with
      | error e =>
        rw [hrest] at hcheck
        cases hcheck
      | ok others =>
        rw [hrest] at hcheck
        injection hcheck with hcheck
        rw [← hcheck]
        exact List.cons_ne_nil _ _

/-- A call gives what it gives without a cache, and the cache stays faithful. -/
structure Transparent {α : Type} (s : Setting) (cache : ScanCache) (call fresh : α × ScanState) :
    Prop where
  answer : call.1 = fresh.1
  faithful : ∃ cache', call.2.cache = some cache' ∧ Faithful s cache'.entries ∧
    cache'.file = cache.file

/-- The scanner of a call. -/
def Setting.scanner (s : Setting) (o : Options) (extractors : List Extractor) (base : String) :
    Scanner :=
  ⟨o, extractors, s.cwd, Path.absolute s.cwd base⟩

theorem scanFile_eq {extractors : List Extractor}
    (h : Extractor.checkAll o.extractors = .ok extractors) (state : ScanState) (path : String) :
    scanFile o disk s.cwd base state path =
      (s.scanner o extractors base).scanFile disk state path := by
  rw [scanFile, h]
  rfl

theorem scanFiles_eq {extractors : List Extractor}
    (h : Extractor.checkAll o.extractors = .ok extractors) {state after : ScanState}
    {paths : List String} {answer : Except ScanError ProjectScan}
    (hcall : (s.scanner o extractors base).scanEach disk state {} paths = (answer, after)) :
    scanFiles o disk s.cwd base state paths =
      (answer.bind fun sum => (addNamed o sum.scan).map fun scan => { sum with scan }, after) := by
  rw [Setting.scanner] at hcall
  rw [scanFiles, h]
  simp only [hcall]
  cases answer <;> rfl

/-- Without a cache no file is asked for, and with extractors neither. -/
theorem unasked_none (s : Setting) (o : Options) (extractors : List Extractor) (base : String)
    (tally : Tally) : ((s.scanner o extractors base).extractors.isEmpty &&
      (ScanState.mk none tally).cache.isSome) = false :=
  Bool.and_false _

theorem unasked_extractors {extractors : List Extractor} (h : extractors ≠ []) (s : Setting)
    (o : Options) (base : String) (state : ScanState) :
    ((s.scanner o extractors base).extractors.isEmpty && state.cache.isSome) = false := by
  rw [show (s.scanner o extractors base).extractors.isEmpty = false from
    List.isEmpty_eq_false_iff.2 h]
  rfl

theorem scanFile_transparent (hmarked : s.Marked) (hdisk : s.Describes disk)
    (hbase : s.Uses base) (h : Faithful s cache.entries) (tally tally' : Tally) (path : String) :
    Transparent s cache (scanFile o disk s.cwd base ⟨some cache, tally⟩ path)
      (scanFile o disk s.cwd base ⟨none, tally'⟩ path) := by
  cases hcheck : Extractor.checkAll o.extractors with
  | error e =>
    rw [scanFile, scanFile, hcheck]
    exact ⟨rfl, cache, rfl, h, rfl⟩
  | ok extractors =>
    obtain ⟨last, hfresh, -⟩ :=
      scanFile_unasked disk path (unasked_none s o extractors base tally')
    rw [scanFile_eq hcheck, scanFile_eq hcheck, hfresh]
    cases extractors with
    | nil =>
      obtain ⟨cache', tally'', hcall, h', hfile⟩ := scanFile_faithful
        (show (s.scanner o [] base).extractors = [] from rfl) rfl hbase hmarked hdisk h tally path
      rw [hcall]
      exact ⟨rfl, cache', rfl, h', hfile⟩
    | cons e rest =>
      obtain ⟨after, hcall, hafter⟩ := scanFile_unasked disk path
        (unasked_extractors (List.cons_ne_nil e rest) s o base ⟨some cache, tally⟩)
      rw [hcall]
      exact ⟨rfl, cache, hafter.cache, h, rfl⟩

theorem scanFiles_transparent (hmarked : s.Marked) (hdisk : s.Describes disk)
    (hbase : s.Uses base) (h : Faithful s cache.entries) (tally tally' : Tally)
    (paths : List String) :
    Transparent s cache (scanFiles o disk s.cwd base ⟨some cache, tally⟩ paths)
      (scanFiles o disk s.cwd base ⟨none, tally'⟩ paths) := by
  cases hcheck : Extractor.checkAll o.extractors with
  | error e =>
    rw [scanFiles, scanFiles, hcheck]
    exact ⟨rfl, cache, rfl, h, rfl⟩
  | ok extractors =>
    obtain ⟨last, hfresh, -⟩ :=
      scanEach_unasked disk paths {} _ (unasked_none s o extractors base tally')
    rw [scanFiles_eq hcheck hfresh]
    cases extractors with
    | nil =>
      obtain ⟨cache', tally'', hcall, h', hfile⟩ := scanEach_faithful
        (show (s.scanner o [] base).extractors = [] from rfl) rfl hbase hmarked hdisk paths {} cache
        tally h
      rw [scanFiles_eq hcheck hcall]
      exact ⟨rfl, cache', rfl, h', hfile⟩
    | cons e rest =>
      obtain ⟨after, hcall, hafter⟩ := scanEach_unasked disk paths {} _
        (unasked_extractors (List.cons_ne_nil e rest) s o base ⟨some cache, tally⟩)
      rw [scanFiles_eq hcheck hcall]
      exact ⟨rfl, cache, hafter.cache, h, rfl⟩

/-- With extractors a call leaves the cache alone. -/
theorem scanFile_untouched (h : o.extractors ≠ []) (state : ScanState) (path : String) :
    Untouched state (scanFile o disk s.cwd base state path).2 := by
  cases hcheck : Extractor.checkAll o.extractors with
  | error e =>
    rw [scanFile, hcheck]
    exact .refl state
  | ok extractors =>
    obtain ⟨after, hcall, hafter⟩ := scanFile_unasked disk path
      (unasked_extractors (checkFrom_ne_nil h hcheck) s o base state)
    rw [scanFile_eq hcheck, hcall]
    exact hafter

theorem scanFiles_untouched (h : o.extractors ≠ []) (state : ScanState) (paths : List String) :
    Untouched state (scanFiles o disk s.cwd base state paths).2 := by
  cases hcheck : Extractor.checkAll o.extractors with
  | error e =>
    rw [scanFiles, hcheck]
    exact .refl state
  | ok extractors =>
    obtain ⟨after, hcall, hafter⟩ := scanEach_unasked disk paths {} _
      (unasked_extractors (checkFrom_ne_nil h hcheck) s o base state)
    rw [scanFiles_eq hcheck hcall]
    exact hafter

/-! ## All calls -/

/-- What holds between any two calls: the entries of the cache are faithful, and so are those of the
file that it is saved to. -/
structure Sound (s : Setting) (w : World) : Prop where
  disk : s.Describes w.disk
  cache : Faithful s w.cache.entries
  saved : ∀ file, w.cache.file = some file → Faithful s (CacheFile.load w.disk file)

theorem Sound.after {w : World} (h : Sound s w) {α : Type} {call fresh : α × ScanState}
    (hcall : Transparent s w.cache call fresh) : Sound s (w.after call.2) := by
  obtain ⟨-, cache', hcache, hentries, hfile⟩ := hcall
  refine ⟨h.disk, ?_, fun file hsaved => ?_⟩
  · rw [World.after, hcache]
    exact hentries
  · rw [World.after, hcache, Option.getD_some, hfile] at hsaved
    exact h.saved file hsaved

/-- One step keeps the entries faithful. -/
theorem Sound.step (hmarked : s.Marked) {w w' : World} (h : Sound s w) (hstep : Step s w w')
    (hdisk : s.Describes w'.disk) : Sound s w' := by
  cases hstep with
  | scanFile o hbase path =>
    exact h.after (scanFile_transparent hmarked h.disk hbase h.cache w.tally {} path)
  | scanFiles o hbase paths =>
    exact h.after (scanFiles_transparent hmarked h.disk hbase h.cache w.tally {} paths)
  | edit disk hedit =>
    refine ⟨hdisk, h.cache, fun file hfile => ?_⟩
    rcases hedit file hfile with hload | hload
    · rw [hload]
      exact h.saved file hfile
    · rw [hload]
      exact .nil
  | clear => exact ⟨hdisk, .nil, h.saved⟩
  | save =>
    refine ⟨hdisk, h.cache, fun file hfile => ?_⟩
    have hsave : w.cache.save w.disk = CacheFile.save w.disk file w.cache.entries := by
      rw [ScanCache.save, show w.cache.file = some file from hfile]
    rw [show (World.mk (w.cache.save w.disk) w.cache w.tally).disk = _ from hsave]
    rcases CacheFile.load_save h.cache.distinct w.disk file with hload | hload
    · rw [hload]
      exact h.cache
    · rw [hload]
      exact h.saved file hfile
  | @reopen file hfile =>
    refine ⟨hdisk, h.saved file hfile, fun file' hfile' => ?_⟩
    obtain rfl : file = file' := Option.some.inj hfile'
    exact h.saved file hfile

/-- Whatever was done before, the entries are faithful. -/
theorem Reaches.sound (hmarked : s.Marked) {w : World} (h : Reaches s w) : Sound s w := by
  induction h with
  | start file hempty hdisk tally =>
    refine ⟨hdisk, .nil, fun path hfile => ?_⟩
    rw [hempty path hfile]
    exact .nil
  | step _ hstep hdisk ih => exact ih.step hmarked hstep hdisk

/-- Whatever was done before with a cache, a call gives what it gives without one, and a call with
extractors changes neither the entries nor the counts of hits and misses. -/
theorem calls_transparent (hmarked : s.Marked) {w : World} (hw : Reaches s w) (o : Options)
    (hbase : s.Uses base) (tally : Tally) :
    (∀ path, (w.scanFile s o base path).1 =
      (StylePrune.scanFile o w.disk s.cwd base ⟨none, tally⟩ path).1) ∧
    (∀ paths, (w.scanFiles s o base paths).1 =
      (StylePrune.scanFiles o w.disk s.cwd base ⟨none, tally⟩ paths).1) ∧
    (o.extractors ≠ [] → (∀ path, Untouched w.state (w.scanFile s o base path).2) ∧
      ∀ paths, Untouched w.state (w.scanFiles s o base paths).2) := by
  have h := hw.sound hmarked
  refine ⟨fun path => ?_, fun paths => ?_, fun ho => ⟨fun path => ?_, fun paths => ?_⟩⟩
  · exact (scanFile_transparent hmarked h.disk hbase h.cache w.tally tally path).answer
  · exact (scanFiles_transparent hmarked h.disk hbase h.cache w.tally tally paths).answer
  · exact scanFile_untouched ho w.state path
  · exact scanFiles_untouched ho w.state paths

/-! ## A project with one file -/

namespace OneFile

def page : File := ⟨Utf8.encode "<div className=\x7b'btn-' + size\x7d>", 5⟩

def files : Disk := { files := [(["p", "a.jsx"], page)], directories := [["p"]], clock := 9 }

/-- Origins are seen from two directories, and the text of the page goes with its status. -/
def setting : Setting where
  cwd := "/p"
  directories d := d = "/p" ∨ d = "/p/src"
  contents _ status :=
    if status = ⟨page.modified, page.bytes.length⟩ then
      some (String.ofList (Utf8.plainLines (Utf8.decodeLossy page.bytes)))
    else none

theorem toList_directoryMark (directory : String) : (Signature.directoryMark directory).toList =
    ((Sha256.digest (directory.toList.flatMap String.utf8EncodeChar)).flatMap
      Sha256.hexByte).take 12 := by
  rw [Signature.directoryMark, String.Slice.toString_eq, String.toList_copy_take, Sha256.hex,
    String.toList_ofList, Utf8.encode_eq]

theorem marked : setting.Marked := by
  have hne : Signature.directoryMark "/p" ≠ Signature.directoryMark "/p/src" := by
    rw [ne_eq, ← String.toList_inj, toList_directoryMark, toList_directoryMark]
    decide +kernel
  rintro a b (rfl | rfl) (rfl | rfl) h
  · rfl
  · exact absurd h hne
  · exact absurd h.symm hne
  · rfl

theorem eq_page {path : String} {f : File} (h : files.file path = .ok f) : f = page := by
  have hfiles (place : Place) : files.fileAt? place = some page ∨ files.fileAt? place = none := by
    rw [Disk.fileAt?, files, List.lookup_cons]
    split
    · exact .inl rfl
    · exact .inr rfl
  rw [Disk.file] at h
  cases hplace : files.locate path with
  | error fault =>
    rw [hplace] at h
    cases h
  | ok place =>
    rw [hplace] at h
    rcases hfiles place with hfile | hfile <;> simp only [bind, Except.bind, hfile] at h
    · exact (Except.ok.inj h).symm
    · cases h

theorem describes : setting.Describes files := by
  intro path status hstatus
  rw [Disk.status?] at hstatus
  rw [Disk.readLossy]
  cases hfile : files.file path with
  | ok f =>
    obtain rfl := eq_page hfile
    rw [hfile] at hstatus
    exact (if_pos (Option.some.inj hstatus).symm).symm
  | error fault =>
    rw [hfile] at hstatus
    cases fault with
    | isDirectory =>
      have hmodified : ¬ status = ⟨page.modified, page.bytes.length⟩ := fun h =>
        absurd (congrArg FileStatus.modified ((Option.some.inj hstatus).trans h)) (by decide)
      exact (if_neg hmodified).symm
    | _ => cases hstatus

/-- The world after the page was scanned once from either directory. -/
def world : World :=
  let first : World := ⟨files, {}, {}⟩
  let second := first.after (first.scanFile setting { dynamicPatterns := .collect } "" "a.jsx").2
  second.after (second.scanFiles setting {} "src" ["/p/a.jsx", "missing"]).2

theorem uses : setting.Uses "" ∧ setting.Uses "src" :=
  ⟨.inl (by decide), .inr (by decide)⟩

theorem reaches : Reaches setting world :=
  .step (.step (.start none (fun _ h => by cases h) describes {})
    (.scanFile { dynamicPatterns := .collect } uses.1 "a.jsx") describes)
    (.scanFiles {} uses.2 ["/p/a.jsx", "missing"]) describes

theorem calls_transparent_again : setting.Marked ∧ Reaches setting world ∧ setting.Uses "" ∧
    (world.scanFile setting { dynamicPatterns := .collect } "" "a.jsx").1 =
      (scanFile { dynamicPatterns := .collect } files "/p" "" ⟨none, {}⟩ "a.jsx").1 ∧
    Untouched world.state (world.scanFile setting
      { extractors := [.function fun _ => .ok (.data .null)] } "" "a.jsx").2 :=
  ⟨marked, reaches, uses.1,
    (calls_transparent marked reaches { dynamicPatterns := .collect } uses.1 {}).1 "a.jsx",
    ((calls_transparent marked reaches { extractors := [.function fun _ => .ok (.data .null)] }
      uses.1 {}).2.2 (List.cons_ne_nil _ _)).1 "a.jsx"⟩

end OneFile

end StylePrune.Caching
