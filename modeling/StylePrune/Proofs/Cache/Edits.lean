import StylePrune.Proofs.Cache.Answers

/-!
# Files that change while they are scanned

A call takes the status of a file, asks the cache, reads the file and stores its scan. A cache has
one user, so its calls follow one another, but other processes may change files between any two of
these steps (`Step`). A text may so be stored under the status of an older one. But then that status
is gone when the text is read, and a file that is written gets a status that it never had, so no
later call asks for it (`Sound`). What the cache answers is the scan of the file whose status the
call has taken (`answer_never_stale`).
-/

namespace StylePrune

def File.status (f : File) : FileStatus := ⟨f.modified, f.bytes.length⟩

/-! ## What stands at a place -/

namespace Disk

variable {disk : Disk} {path : String} {f : File} {status : FileStatus}

/-- The status of the file or directory at a place. -/
def statusAt? (disk : Disk) (place : Place) : Option FileStatus :=
  match disk.fileAt? place with
  | some f => some f.status
  | none => if disk.isDirectory place then some ⟨0, 4096⟩ else none

theorem statusAt?_file {place : Place} (h : disk.fileAt? place = some f) :
    disk.statusAt? place = some f.status := by
  rw [statusAt?, h]

theorem fileAt?_of_file (habsolute : Path.isAbsolute path = true) (h : disk.file path = .ok f) :
    disk.fileAt? (Path.place (Path.normalize path)) = some f := by
  rw [file] at h
  obtain ⟨place, hplace, h⟩ := Outcome.bind_eq_ok.1 h
  rw [← locate_place habsolute hplace]
  split at h
  · rename_i g hg
    rw [hg, Except.ok.inj h]
  · cases h

theorem statusAt?_of_status (habsolute : Path.isAbsolute path = true)
    (h : disk.status? path = some status) :
    disk.statusAt? (Path.place (Path.normalize path)) = some status := by
  obtain ⟨place, hplace⟩ := locate_of_status (by rw [h]; rfl)
  rw [← locate_place habsolute hplace, statusAt?, ← h, status?, file, hplace]
  simp only [bind, Except.bind]
  cases disk.fileAt? place with
  | some f => rfl
  | none => cases disk.isDirectory place <;> rfl

theorem file_of_fileAt? (habsolute : Path.isAbsolute path = true)
    (h : (disk.status? path).isSome = true)
    (hfile : disk.fileAt? (Path.place (Path.normalize path)) = some f) :
    disk.file path = .ok f := by
  obtain ⟨place, hplace⟩ := locate_of_status h
  rw [← locate_place habsolute hplace] at hfile
  rw [file, hplace]
  simp only [bind, Except.bind, hfile]
  rfl

/-- A path whose status is known leads to the place of its normal form. -/
theorem statusAt?_of_seen {cwd : String} (hcwd : Path.isAbsolute cwd = true)
    (h : disk.status? (Path.seenFrom cwd path) = some status) :
    path ≠ "" ∧ disk.statusAt? (Path.place (Path.absolute cwd path)) = some status := by
  have hpath : path ≠ "" := by
    rintro rfl
    cases h
  rw [Path.seenFrom, if_neg hpath] at h
  exact ⟨hpath, statusAt?_of_status (Path.isAbsolute_join hcwd path) h⟩

theorem fileAt?_of_seen {cwd : String} (hcwd : Path.isAbsolute cwd = true)
    (h : disk.file (Path.seenFrom cwd path) = .ok f) :
    path ≠ "" ∧ disk.fileAt? (Path.place (Path.absolute cwd path)) = some f := by
  have hpath : path ≠ "" := by
    rintro rfl
    cases h
  rw [Path.seenFrom, if_neg hpath] at h
  exact ⟨hpath, fileAt?_of_file (Path.isAbsolute_join hcwd path) h⟩

end Disk

/-! ## Scans of files -/

namespace Scanner

variable {s : Scanner} {disk : Disk} {path : String} {scan : Scan}

/-- The scan by the recognisers of what a file holds. -/
def scanOf (s : Scanner) (path : String) (f : File) : Scan :=
  Content.scan s.options.dynamicPatterns.collects (some (Path.label s.cwd s.base path))
    (Utf8.plainLines (Utf8.decodeLossy f.bytes))

/-- The signature of a file with a status. -/
def signatureOf (s : Scanner) (status : FileStatus) : String :=
  Signature.ofStatus s.options.dynamicPatterns.collects (some s.base) status

theorem freshScan_iff (hextractors : s.extractors = []) :
    s.freshScan disk path = .ok (some scan) ↔
      ∃ f, disk.file (Path.seenFrom s.cwd path) = .ok f ∧ scan = s.scanOf path f := by
  rw [freshScan, Disk.readLossy]
  cases disk.file (Path.seenFrom s.cwd path) with
  | error fault => exact iff_of_false (fun h => by cases h) (by rintro ⟨_, h, -⟩; cases h)
  | ok f =>
    have hscan : s.scanContents path
        (String.ofList (Utf8.plainLines (Utf8.decodeLossy f.bytes))) = .ok (s.scanOf path f) := by
      rw [scanContents, scanText, hextractors, String.toList_ofList]
      rfl
    change (s.scanContents path _).map some = _ ↔ _
    rw [hscan]
    simp [Except.map, eq_comm]

end Scanner

namespace Caching.Interleaved

/-! ## Steps -/

/-- How far a call has come. -/
inductive Phase where
  | statted
  | missed
  /-- The text was read from a disk and scanned. -/
  | read (source : Disk) (scan : Scan)
  | answered (answer : Except ScanError (Option Scan))

/-- A call: the disk that the status of its file was taken from, and the signature made of it. -/
structure Call where
  scanner : Scanner
  path : String
  seen : Disk
  signature : Option String
  phase : Phase := .statted

/-- What a call does next. -/
def Call.next (disk : Disk) (state : ScanState) (c : Call) : Phase × ScanState :=
  match c.phase with
  | .statted =>
    match c.signature with
    | none => (.missed, state)
    | some signature =>
      match c.scanner.lookup state c.path signature with
      | (.ok none, state) => (.missed, state)
      | (answer, state) => (.answered answer, state)
  | .missed =>
    match c.scanner.freshScan disk c.path with
    | .error e => (.answered (.error e), state)
    | .ok none => (.answered (.ok none), state)
    | .ok (some scan) => (.read disk scan, { state with tally := state.tally.scanned })
  | .read _ scan => (.answered (.ok (some scan)), c.scanner.store state c.path c.signature scan)
  | .answered answer => (.answered answer, state)

/-- What a call that is about to ask the cache is answered from it. -/
def Call.hit? (disk : Disk) (state : ScanState) (c : Call) :
    Option (Except ScanError (Option Scan)) :=
  match c.phase, (c.next disk state).1 with
  | .statted, .answered answer => some answer
  | _, _ => none

theorem Call.hit?_eq_some_iff {disk : Disk} {state : ScanState} {c : Call}
    {answer : Except ScanError (Option Scan)} : c.hit? disk state = some answer ↔
      c.phase = .statted ∧ (c.next disk state).1 = .answered answer := by
  rw [hit?]
  split
  · rename_i hphase hnext
    simp [hphase, hnext]
  · rename_i hother
    exact iff_of_false (fun h => by cases h) fun h => hother _ h.1 h.2

/-- Where an entry of the cache is from: a call for a path, which took the status from one disk and
read the text from another one. -/
structure Source where
  scanner : Scanner
  path : String
  seen : Disk
  read : Disk

/-- The sources of entries after the next step of a call. -/
def Call.noted (c : Call) (sources : List (String × Source)) : List (String × Source) :=
  match c.phase, c.signature with
  | .read source _, some _ =>
    setMember sources (Path.absolute c.scanner.cwd c.path) ⟨c.scanner, c.path, c.seen, source⟩
  | _, _ => sources

structure World where
  disk : Disk
  /-- The disk as it was at any time, and as it is now. -/
  past : List Disk
  state : ScanState
  sources : List (String × Source) := []
  call : Option Call := none

namespace World

/-- A call begins, unless another one is going on. -/
def stat (s : Scanner) (path : String) (w : World) : World :=
  let call : Call := ⟨s, path, w.disk, s.signature? w.disk w.state path, .statted⟩
  match w.call.map Call.phase with
  | none | some (.answered _) => { w with call := some call }
  | some _ => w

/-- The call goes on. -/
def go (w : World) : World :=
  match w.call with
  | none => w
  | some c =>
    { w with
      state := (c.next w.disk w.state).2
      sources := c.noted w.sources
      call := some { c with phase := (c.next w.disk w.state).1 } }

/-- Files change. -/
def edit (disk : Disk) (w : World) : World := { w with disk, past := disk :: w.past }

end World

/-- What other processes may do to files: one that is not what it was has a status that its place
never had, and no directory takes the place of a file. -/
structure Edited (w : World) (disk : Disk) : Prop where
  fresh : ∀ place f, disk.fileAt? place = some f → w.disk.fileAt? place = some f ∨
    ∀ d ∈ w.past, d.statusAt? place ≠ some f.status
  apart : ∀ place, disk.fileAt? place = none → disk.isDirectory place = true →
    ∀ d ∈ w.past, d.fileAt? place = none

/-- Calls of scanners with one working directory, which see origins from one directory, follow one
another. They may have any options and extractors. Files change at any time. -/
inductive Step (cwd base : String) (w : World) : World → Prop where
  | stat (s : Scanner) (path : String) (hcwd : s.cwd = cwd) (hbase : s.base = base) :
    Step cwd base w (w.stat s path)
  | go : Step cwd base w w.go
  | edit {disk : Disk} (h : Edited w disk) : Step cwd base w (w.edit disk)

/-- The worlds that are reached from an empty cache. -/
inductive Reaches (cwd base : String) : World → Prop where
  | start (disk : Disk) (file : Option String) (tally : Tally) :
    Reaches cwd base { disk, past := [disk], state := ⟨some { file }, tally⟩ }
  | step {w w' : World} (h : Reaches cwd base w) (hstep : Step cwd base w w') :
    Reaches cwd base w'

/-- The steps of a call, one right behind the other, are the scan of a file. -/
theorem next_next_next (s : Scanner) (disk : Disk) (state : ScanState) (path : String) :
    let c : Call := ⟨s, path, disk, s.signature? disk state path, .statted⟩
    let asked := c.next disk state
    let read := { c with phase := asked.1 }.next disk asked.2
    { c with phase := read.1 }.next disk read.2 =
      (.answered (s.scanFile disk state path).1, (s.scanFile disk state path).2) := by
  have later : ∀ (signature : Option String) (state : ScanState),
      let c : Call := ⟨s, path, disk, signature, .missed⟩
      let read := c.next disk state
      { c with phase := read.1 }.next disk read.2 =
        (.answered (s.scanAndStore disk state path signature).1,
          (s.scanAndStore disk state path signature).2) := by
    intro signature state
    simp only [Call.next, Scanner.scanAndStore]
    cases s.freshScan disk path with
    | error e => rfl
    | ok found => cases found <;> rfl
  rw [Scanner.scanFile]
  cases s.signature? disk state path with
  | none => exact later none state
  | some signature =>
    simp only [Call.next]
    rcases s.lookup state path signature with ⟨answer, asked⟩
    rcases answer with e | _ | scan
    · rfl
    · exact later (some signature) asked
    · rfl

/-! ## What holds between any two steps -/

variable {cwd base : String} {w : World} {c : Call}

/-- What stands at a place has another status by now, and a call that has yet to ask the cache has
not taken that status either. -/
structure Gone (w : World) (place : Place) (status : FileStatus) : Prop where
  now : w.disk.statusAt? place ≠ some status
  call : ∀ c, w.call = some c → c.phase = .statted → c.seen.statusAt? place ≠ some status

/-- An entry and where it is from: its text is that of a file with the status in its signature, or
that status is gone. -/
structure Traced (cwd base : String) (w : World) (key : String) (e : CacheEntry) (source : Source)
    (status : FileStatus) (f : File) : Prop where
  noted : w.sources.lookup key = some source
  scanner : source.scanner.cwd = cwd ∧ source.scanner.base = base
  path : source.path ≠ "" ∧ Path.absolute cwd source.path = key
  seen : source.seen ∈ w.past ∧ source.seen.statusAt? (Path.place key) = some status
  read : source.read ∈ w.past ∧ source.read.fileAt? (Path.place key) = some f
  entry : e = CacheEntry.ofScan (source.scanner.signatureOf status)
    (source.scanner.scanOf source.path f)
  current : f.status = status ∨ Gone w (Path.place key) status

/-- An entry stays traced if nothing is forgotten and what is gone stays gone. -/
theorem Traced.mono {w' : World} {key : String} {e : CacheEntry} {source : Source}
    {status : FileStatus} {f : File} (ht : Traced cwd base w key e source status f)
    (hnoted : w'.sources.lookup key = some source) (hpast : ∀ d ∈ w.past, d ∈ w'.past)
    (hgone : Gone w (Path.place key) status → Gone w' (Path.place key) status) :
    Traced cwd base w' key e source status f :=
  ⟨hnoted, ht.scanner, ht.path, ht.seen.imp_left (hpast _), ht.read.imp_left (hpast _), ht.entry,
    ht.current.imp_right hgone⟩

/-- What a call has seen. A text that it has read is that of a file with the status that it took, or
that status is gone. -/
structure Call.Sound (cwd base : String) (w : World) (c : Call) : Prop where
  scanner : c.scanner.cwd = cwd ∧ c.scanner.base = base
  seen : c.seen ∈ w.past
  signature : ∀ signature, c.signature = some signature → c.scanner.extractors = [] ∧
    ∃ status, c.seen.status? (Path.seenFrom cwd c.path) = some status ∧
      signature = c.scanner.signatureOf status
  read : ∀ source scan, c.phase = .read source scan → c.scanner.extractors = [] →
    source ∈ w.past ∧ ∃ f, source.file (Path.seenFrom cwd c.path) = .ok f ∧
      scan = c.scanner.scanOf c.path f ∧
      ∀ status, c.seen.status? (Path.seenFrom cwd c.path) = some status →
        f.status = status ∨
          w.disk.statusAt? (Path.place (Path.absolute cwd c.path)) ≠ some status

/-- What holds between any two steps: files with one status at one place are one file, and the
entries and the call are as said above. -/
structure Sound (cwd base : String) (w : World) : Prop where
  cached : w.state.cache.isSome = true
  now : w.disk ∈ w.past
  single : ∀ d ∈ w.past, ∀ d' ∈ w.past, ∀ place f, d.fileAt? place = some f →
    d'.statusAt? place = some f.status → d'.fileAt? place = some f
  entries : ∀ cache, w.state.cache = some cache → ∀ key e, cache.entries.lookup key = some e →
    ∃ source status f, Traced cwd base w key e source status f
  call : ∀ c, w.call = some c → c.Sound cwd base w

theorem sound_start (disk : Disk) (file : Option String) (tally : Tally) :
    Sound cwd base { disk, past := [disk], state := ⟨some { file }, tally⟩ } where
  cached := rfl
  now := .head _
  single d hd d' hd' place f hf _ := by
    rw [List.mem_singleton.1 hd] at hf
    rw [List.mem_singleton.1 hd', hf]
  entries cache hcache key e he := by
    obtain rfl := Option.some.inj hcache
    cases he
  call _ h := by cases h

/-! ## Files change -/

/-- A status that is gone from a place where a file was does not come back. -/
theorem Edited.gone {disk d : Disk} {place : Place} {status : FileStatus} {f : File}
    (h : Edited w disk) {seen : Disk} (hseen : seen ∈ w.past)
    (hstatus : seen.statusAt? place = some status) (hd : d ∈ w.past)
    (hf : d.fileAt? place = some f) (hnow : w.disk.statusAt? place ≠ some status) :
    disk.statusAt? place ≠ some status := by
  intro hback
  rw [Disk.statusAt?] at hback
  split at hback
  · rename_i g hg
    rcases h.fresh place g hg with hsame | hfresh
    · exact hnow ((Disk.statusAt?_file hsame).trans hback)
    · exact hfresh seen hseen (hstatus.trans hback.symm)
  · rename_i hnone
    split at hback
    · rename_i hdirectory
      rw [h.apart place hnone hdirectory d hd] at hf
      cases hf
    · cases hback

theorem Edited.single {disk : Disk} (h : Edited w disk) (hw : Sound cwd base w) :
    ∀ d ∈ disk :: w.past, ∀ d' ∈ disk :: w.past, ∀ place f, d.fileAt? place = some f →
      d'.statusAt? place = some f.status → d'.fileAt? place = some f := by
  intro d hd d' hd' place f hf hstatus
  rcases List.mem_cons.1 hd with rfl | hpast
  · rcases List.mem_cons.1 hd' with rfl | hpast'
    · exact hf
    · rcases h.fresh place f hf with hsame | hfresh
      · exact hw.single w.disk hw.now d' hpast' place f hsame hstatus
      · exact absurd hstatus (hfresh d' hpast')
  · rcases List.mem_cons.1 hd' with rfl | hpast'
    · rw [Disk.statusAt?] at hstatus
      split at hstatus
      · rename_i g hg
        have hstatus := Option.some.inj hstatus
        rcases h.fresh place g hg with hsame | hfresh
        · have hback := hw.single d hpast w.disk hw.now place f hf
            ((Disk.statusAt?_file hsame).trans (congrArg some hstatus))
          rw [hg, ← hsame, hback]
        · exact absurd ((Disk.statusAt?_file hf).trans (congrArg some hstatus.symm))
            (hfresh d hpast)
      · rename_i hnone
        split at hstatus
        · rename_i hdirectory
          rw [h.apart place hnone hdirectory d hpast] at hf
          cases hf
        · cases hstatus
    · exact hw.single d hpast d' hpast' place f hf hstatus

theorem Sound.edit (hcwd : Path.isAbsolute cwd = true) (hw : Sound cwd base w) {disk : Disk}
    (h : Edited w disk) : Sound cwd base (w.edit disk) where
  cached := hw.cached
  now := List.mem_cons_self
  single := h.single hw
  entries cache hcache key e he := by
    obtain ⟨source, status, f, ht⟩ := hw.entries cache hcache key e he
    exact ⟨source, status, f, ht.mono ht.noted (fun _ => List.mem_cons_of_mem disk) fun hgone =>
      ⟨h.gone ht.seen.1 ht.seen.2 ht.read.1 ht.read.2 hgone.now, hgone.call⟩⟩
  call c hc := by
    have hsound := hw.call c hc
    refine ⟨hsound.scanner, List.mem_cons_of_mem disk hsound.seen, hsound.signature,
      fun source scan hphase hextractors => ?_⟩
    obtain ⟨hsource, f, hfile, hscan, hstatus⟩ := hsound.read source scan hphase hextractors
    refine ⟨List.mem_cons_of_mem disk hsource, f, hfile, hscan, fun status hseen => ?_⟩
    refine (hstatus status hseen).imp_right fun hnow => ?_
    exact h.gone hsound.seen (Disk.statusAt?_of_seen hcwd hseen).2 hsource
      (Disk.fileAt?_of_seen hcwd hfile).2 hnow

/-! ## A call goes on -/

theorem Sound.stat (hw : Sound cwd base w) {s : Scanner}
    (hdirectories : s.cwd = cwd ∧ s.base = base) (path : String) :
    Sound cwd base (w.stat s path) := by
  have hbegun : Sound cwd base { w with
      call := some ⟨s, path, w.disk, s.signature? w.disk w.state path, .statted⟩ } := by
    refine ⟨hw.cached, hw.now, hw.single, fun cache hcache key e he => ?_, fun c hc => ?_⟩
    · obtain ⟨source, status, f, ht⟩ := hw.entries cache hcache key e he
      refine ⟨source, status, f, ht.mono ht.noted (fun _ => id) fun hgone =>
        ⟨hgone.now, fun c hc _ => ?_⟩⟩
      rw [← Option.some.inj hc]
      exact hgone.now
    · rw [← Option.some.inj hc]
      refine ⟨hdirectories, hw.now, fun signature hsignature => ?_, fun _ _ h => by cases h⟩
      simp only [Scanner.signature?, Bool.and_eq_true, Option.ite_none_right_eq_some] at hsignature
      obtain ⟨⟨hextractors, -⟩, hsignature⟩ := hsignature
      obtain ⟨status, hstatus, rfl⟩ := Option.map_eq_some_iff.1 hsignature
      exact ⟨List.isEmpty_iff.1 hextractors, status, hdirectories.1 ▸ hstatus, rfl⟩
  rw [World.stat]
  split
  · exact hbegun
  · exact hbegun
  · exact hw

theorem entries_lookup (s : Scanner) (state : ScanState) (path signature : String) :
    (s.lookup state path signature).2.cache.map ScanCache.entries =
      state.cache.map ScanCache.entries := by
  rw [Scanner.lookup]
  cases hcache : state.cache with
  | none => rw [hcache]
  | some cache =>
    simp only [ScanCache.get]
    cases cache.entry? (Path.absolute s.cwd path) signature with
    | none => rfl
    | some entry =>
      dsimp only
      cases entry.scan with
      | error e => simp only [Except.map, hcache]
      | ok scan => rfl

/-- A step that leaves the entries as they are. -/
theorem Sound.advance (hcwd : Path.isAbsolute cwd = true) (hw : Sound cwd base w)
    (hcall : w.call = some c) {phase : Phase} {state : ScanState}
    (hentries : state.cache.map ScanCache.entries = w.state.cache.map ScanCache.entries)
    (hphase : phase ≠ .statted)
    (hread : ∀ source scan, phase = .read source scan →
      source = w.disk ∧ c.scanner.freshScan w.disk c.path = .ok (some scan)) :
    Sound cwd base { w with state, call := some { c with phase } } := by
  have hsound := hw.call c hcall
  refine ⟨?_, hw.now, hw.single, fun cache hcache key e he => ?_, fun c' hc' => ?_⟩
  · simpa [hw.cached] using congrArg Option.isSome hentries
  · obtain ⟨cache', hcache', hsame⟩ : ∃ cache', w.state.cache = some cache' ∧
        cache'.entries = cache.entries := by
      rw [show state.cache = some cache from hcache, Option.map_some, eq_comm,
        Option.map_eq_some_iff] at hentries
      exact hentries
    obtain ⟨source, status, f, ht⟩ := hw.entries cache' hcache' key e (hsame ▸ he)
    refine ⟨source, status, f, ht.mono ht.noted (fun _ => id) fun hgone =>
      ⟨hgone.now, fun c' hc' hstatted => ?_⟩⟩
    rw [← Option.some.inj hc'] at hstatted
    exact absurd hstatted hphase
  · rw [← Option.some.inj hc']
    refine ⟨hsound.scanner, hsound.seen, hsound.signature, fun source scan hnext hextractors => ?_⟩
    obtain ⟨rfl, hfresh⟩ := hread source scan hnext
    obtain ⟨f, hfile, rfl⟩ := (Scanner.freshScan_iff hextractors).1 hfresh
    rw [hsound.scanner.1] at hfile
    refine ⟨hw.now, f, hfile, rfl, fun status _ => ?_⟩
    have hnow := Disk.statusAt?_file (Disk.fileAt?_of_seen hcwd hfile).2
    rw [hnow, Ne, Option.some.injEq]
    exact Decidable.em _

/-- The step that stores a scan. -/
theorem Sound.store (hcwd : Path.isAbsolute cwd = true) (hw : Sound cwd base w)
    (hcall : w.call = some c) {source : Disk} {scan : Scan} (hphase : c.phase = .read source scan)
    {signature : String} (hsignature : c.signature = some signature) :
    Sound cwd base { w with
      state := c.scanner.store w.state c.path (some signature) scan
      sources := setMember w.sources (Path.absolute c.scanner.cwd c.path)
        ⟨c.scanner, c.path, c.seen, source⟩
      call := some { c with phase := .answered (.ok (some scan)) } } := by
  have hsound := hw.call c hcall
  obtain ⟨cache, hcache⟩ := Option.isSome_iff_exists.1 hw.cached
  rw [hsound.scanner.1]
  have hstored : (c.scanner.store w.state c.path (some signature) scan).cache =
      some (cache.put (Path.absolute cwd c.path) signature scan) := by
    rw [Scanner.store, hcache, hsound.scanner.1]
    rfl
  have hanswered : ∀ {place status}, w.disk.statusAt? place ≠ some status → Gone { w with
      state := c.scanner.store w.state c.path (some signature) scan
      sources := setMember w.sources (Path.absolute cwd c.path) ⟨c.scanner, c.path, c.seen, source⟩
      call := some { c with phase := .answered (.ok (some scan)) } } place status := by
    refine fun hnow => ⟨hnow, fun c' hc' hstatted => ?_⟩
    rw [← Option.some.inj hc'] at hstatted
    cases hstatted
  refine ⟨by rw [hstored]; rfl, hw.now, hw.single, fun cache' hcache' key e he => ?_,
    fun c' hc' => ?_⟩
  · obtain rfl := Option.some.inj (hstored.symm.trans hcache')
    by_cases hkey : key = Path.absolute cwd c.path
    · obtain ⟨hextractors, status, hseen, hsigned⟩ := hsound.signature signature hsignature
      obtain ⟨hsource, f, hfile, hscan, hstatus⟩ := hsound.read source scan hphase hextractors
      obtain ⟨hpath, hplace⟩ := Disk.statusAt?_of_seen hcwd hseen
      rw [hkey, ScanCache.put, lookup_setMember] at he
      rw [hkey]
      refine ⟨⟨c.scanner, c.path, c.seen, source⟩, status, f, lookup_setMember .., hsound.scanner,
        ⟨hpath, rfl⟩, ⟨hsound.seen, hplace⟩, ⟨hsource, (Disk.fileAt?_of_seen hcwd hfile).2⟩, ?_,
        (hstatus status hseen).imp_right hanswered⟩
      rw [← Option.some.inj he, hsigned, hscan]
    · rw [ScanCache.put, lookup_setMember_of_ne hkey] at he
      obtain ⟨source', status, f, ht⟩ := hw.entries cache hcache key e he
      refine ⟨source', status, f, ht.mono ?_ (fun _ => id) fun hgone => hanswered hgone.now⟩
      rw [lookup_setMember_of_ne hkey]
      exact ht.noted
  · rw [← Option.some.inj hc']
    exact ⟨hsound.scanner, hsound.seen, hsound.signature, fun _ _ hnext => by cases hnext⟩

theorem Sound.go (hcwd : Path.isAbsolute cwd = true) (hw : Sound cwd base w) :
    Sound cwd base w.go := by
  cases hcall : w.call with
  | none =>
    rw [World.go, hcall]
    exact hw
  | some c =>
    have advance := fun {phase state} => @Sound.advance cwd base w c hcwd hw hcall phase state
    rcases c with ⟨s, path, seen, signature, phase⟩
    simp only [World.go, hcall, Call.next, Call.noted]
    cases phase with
    | statted =>
      cases signature with
      | none => exact advance rfl Phase.noConfusion fun _ _ h => by cases h
      | some signature =>
        have hentries := entries_lookup s w.state path signature
        simp only
        generalize s.lookup w.state path signature = result at hentries
        rcases result with ⟨e | _ | scan, state⟩
        · exact advance hentries Phase.noConfusion fun _ _ h => by cases h
        · exact advance hentries Phase.noConfusion fun _ _ h => by cases h
        · exact advance hentries Phase.noConfusion fun _ _ h => by cases h
    | missed =>
      simp only
      cases hfresh : s.freshScan w.disk path with
      | error e => exact advance rfl Phase.noConfusion fun _ _ h => by cases h
      | ok found =>
        cases found with
        | none => exact advance rfl Phase.noConfusion fun _ _ h => by cases h
        | some scan =>
          refine advance rfl Phase.noConfusion fun _ _ h => ?_
          obtain ⟨rfl, rfl⟩ := Phase.read.inj h
          exact ⟨rfl, hfresh⟩
    | read source scan =>
      cases signature with
      | none => exact advance rfl Phase.noConfusion fun _ _ h => by cases h
      | some signature => exact hw.store hcwd hcall rfl rfl
    | answered answer => exact advance rfl Phase.noConfusion fun _ _ h => by cases h

theorem Sound.step (hcwd : Path.isAbsolute cwd = true) {w' : World} (hw : Sound cwd base w)
    (hstep : Step cwd base w w') : Sound cwd base w' := by
  cases hstep with
  | stat s path hcwd hbase => exact hw.stat ⟨hcwd, hbase⟩ path
  | go => exact hw.go hcwd
  | edit h => exact hw.edit hcwd h

theorem Reaches.sound (hcwd : Path.isAbsolute cwd = true) (h : Reaches cwd base w) :
    Sound cwd base w := by
  induction h with
  | start disk file tally => exact sound_start disk file tally
  | step _ hstep ih => exact ih.step hcwd hstep

/-! ## What the cache answers -/

/-- An entry that bears the signature of a call is the scan of the file that the call has seen, and
its text was read while the file had that status. -/
theorem Traced.current_of_seen (hcwd : Path.isAbsolute cwd = true) (h : Sound cwd base w)
    (hcall : w.call = some c) (hphase : c.phase = .statted) {e : CacheEntry} {source : Source}
    {status status' : FileStatus} {f : File}
    (ht : Traced cwd base w (Path.absolute cwd c.path) e source status f)
    (hseen : c.seen.status? (Path.seenFrom cwd c.path) = some status')
    (hsigned : e.signature = c.scanner.signatureOf status') :
    c.seen.file (Path.seenFrom cwd c.path) = .ok f ∧ e.scan = .ok (c.scanner.scanOf c.path f) ∧
      source.seen.fileAt? (Path.place (Path.absolute cwd c.path)) = some f := by
  obtain ⟨hpath, hplace⟩ := Disk.statusAt?_of_seen hcwd hseen
  have hsound := h.call c hcall
  rw [ht.entry] at hsigned
  obtain ⟨hmode, -, rfl⟩ := Signature.ofStatus_inj hsigned
  -- The call has taken the status of the entry, so that status is not gone.
  have hstatus : f.status = status :=
    ht.current.resolve_right fun hgone => hgone.call c hcall hphase hplace
  have hfile {d : Disk} (hd : d ∈ w.past)
      (hat : d.statusAt? (Path.place (Path.absolute cwd c.path)) = some status) :
      d.fileAt? (Path.place (Path.absolute cwd c.path)) = some f :=
    h.single source.read ht.read.1 d hd _ f ht.read.2 (hat.trans (congrArg some hstatus.symm))
  refine ⟨?_, ?_, hfile ht.seen.1 ht.seen.2⟩
  · rw [Path.seenFrom, if_neg hpath] at hseen ⊢
    exact Disk.file_of_fileAt? (Path.isAbsolute_join hcwd c.path) (by rw [hseen]; rfl)
      (hfile hsound.seen hplace)
  · have hscan : source.scanner.scanOf source.path f = c.scanner.scanOf c.path f := by
      rw [Scanner.scanOf, Scanner.scanOf, Path.label, Path.label, if_neg ht.path.1, if_neg hpath,
        hmode, ht.scanner.1, ht.scanner.2, hsound.scanner.1, hsound.scanner.2, ht.path.2]
    rw [ht.entry, ← hscan]
    exact CacheEntry.scan_ofScan (Content.wellFormed_scan ..) _

/-- Whatever other processes do between the steps of calls, a call that is answered from the cache
gives the scan of the file whose status it has taken, which is what scanning that file gives. The
entry that answers has its status and its text from that same file. -/
theorem answer_never_stale (hcwd : Path.isAbsolute cwd = true) (hw : Reaches cwd base w)
    (hcall : w.call = some c) {answer : Except ScanError (Option Scan)}
    (hhit : c.hit? w.disk w.state = some answer) :
    ∃ f source, c.seen.file (Path.seenFrom cwd c.path) = .ok f ∧
      answer = .ok (some (c.scanner.scanOf c.path f)) ∧
      answer = c.scanner.freshScan c.seen c.path ∧
      w.sources.lookup (Path.absolute cwd c.path) = some source ∧
      source.seen.fileAt? (Path.place (Path.absolute cwd c.path)) = some f ∧
      source.read.fileAt? (Path.place (Path.absolute cwd c.path)) = some f := by
  have h := hw.sound hcwd
  have hsound := h.call c hcall
  obtain ⟨cache, hcache⟩ := Option.isSome_iff_exists.1 h.cached
  obtain ⟨hphase, hanswer⟩ := Call.hit?_eq_some_iff.1 hhit
  rw [Call.next, hphase] at hanswer
  cases hsignature : c.signature with
  | none =>
    rw [hsignature] at hanswer
    cases hanswer
  | some signature =>
    simp only [hsignature, Scanner.lookup, hcache, ScanCache.get, hsound.scanner.1] at hanswer
    cases hentry : cache.entry? (Path.absolute cwd c.path) signature with
    | none =>
      rw [hentry] at hanswer
      cases hanswer
    | some e =>
      obtain ⟨he, hsame⟩ := Option.filter_eq_some_iff.1 hentry
      obtain ⟨source, status, f, ht⟩ := h.entries cache hcache _ e he
      obtain ⟨hextractors, status', hseen, rfl⟩ := hsound.signature signature hsignature
      obtain ⟨hfile, hscan, hsource⟩ :=
        ht.current_of_seen hcwd h hcall hphase hseen (of_decide_eq_true hsame)
      have hfresh := (Scanner.freshScan_iff hextractors).2
        ⟨f, (by rw [hsound.scanner.1]; exact hfile), rfl⟩
      simp only [hentry, hscan, Except.map] at hanswer
      obtain rfl := Phase.answered.inj hanswer
      exact ⟨f, source, hfile, rfl, hfresh.symm, ht.noted, hsource, ht.read.2⟩

/-! ## A page that is rewritten -/

namespace Rewritten

def first : File := ⟨Utf8.encode "<a class='one'>", 1⟩
def second : File := ⟨Utf8.encode "<a class='two'>", 2⟩
def third : File := ⟨Utf8.encode "<a class='six'>", 3⟩

def place : Place := ["p", "a.html"]

def disk (f : File) : Disk := { files := [(place, f)], directories := [["p"]] }

def scanner : Scanner := ⟨{}, [], "/p", "/p"⟩

theorem fileAt?_disk (f : File) (other : Place) :
    (disk f).fileAt? other = if other = place then some f else none := by
  rw [Disk.fileAt?, disk, List.lookup_cons]
  split
  · rename_i h
    rw [if_pos (eq_of_beq h)]
  · rename_i h
    rw [if_neg (by simpa using h), List.lookup_nil]

/-- A page may take the place of others with other statuses. -/
theorem edited {w : World} {f : File}
    (h : ∀ d ∈ w.past, ∃ g, d = disk g ∧ g.status ≠ f.status) : Edited w (disk f) where
  fresh other g hg := by
    rw [fileAt?_disk] at hg
    split at hg
    · rename_i hplace
      obtain rfl := Option.some.inj hg
      refine .inr fun d hd => ?_
      obtain ⟨g, rfl, hne⟩ := h d hd
      rw [Disk.statusAt?_file (by rw [fileAt?_disk, if_pos hplace]), Ne, Option.some.injEq]
      exact hne
    · cases hg
  apart other hnone _ d hd := by
    obtain ⟨g, rfl, -⟩ := h d hd
    rw [fileAt?_disk] at hnone ⊢
    split at hnone
    · cases hnone
    · rename_i hplace
      rw [if_neg hplace]

theorem past_go (w : World) : w.go.past = w.past := by
  rw [World.go]
  split <;> rfl

theorem past_stat (path : String) (w : World) : (w.stat scanner path).past = w.past := by
  rw [World.stat]
  split <;> rfl

/-- The page is rewritten before it is read, and its scan is stored under the old signature. -/
def stored : World :=
  (((((World.mk (disk first) [disk first] ⟨some {}, {}⟩ [] none).stat scanner
    "a.html").go).edit (disk second)).go).go

example : (stored.state.cache.map fun cache => cache.entries.map fun e =>
    (e.2.signature == scanner.signatureOf first.status, e.2.classes)) =
      some [(true, ["two"])] := by decide +kernel

/-- The page is scanned and stored again, and it is rewritten before a third call asks the cache. -/
def asked : World :=
  ((((((stored.stat scanner "a.html").go).go).go).stat scanner "a.html").edit (disk third))

theorem reaches_stored : Reaches "/p" "/p" stored := by
  refine .step (.step (.step (.step (.step (.start _ none {}) (.stat _ _ rfl rfl)) .go)
    (.edit (edited ?_))) .go) .go
  intro d hd
  rw [past_go, past_stat] at hd
  exact ⟨first, List.mem_singleton.1 hd, by decide⟩

theorem reaches_asked : Reaches "/p" "/p" asked := by
  refine .step (.step (.step (.step (.step (.step reaches_stored (.stat _ _ rfl rfl)) .go) .go)
    .go) (.stat _ _ rfl rfl)) (.edit (edited ?_))
  intro d hd
  simp only [past_go, past_stat, stored, World.edit] at hd
  rcases List.mem_cons.1 hd with rfl | hd
  · exact ⟨second, rfl, by decide⟩
  · exact ⟨first, List.mem_singleton.1 hd, by decide⟩

/-- The third call is answered with the second text, whose status it has taken, and not with the
text that was stored under the first status or the one that the page holds by now. -/
theorem answer_never_stale_rewritten :
    Path.isAbsolute "/p" = true ∧ Reaches "/p" "/p" asked ∧
      ∃ c answer scan, asked.call = some c ∧ c.hit? asked.disk asked.state = some answer ∧
        answer = c.scanner.freshScan c.seen c.path ∧ answer = .ok (some scan) ∧
        scan.classes = ["two"] ∧
        ∃ source, asked.sources.lookup (Path.absolute "/p" c.path) = some source ∧
          source.seen.fileAt? (Path.place (Path.absolute "/p" c.path)) =
            source.read.fileAt? (Path.place (Path.absolute "/p" c.path)) := by
  have hgives : (asked.call.bind fun c => (c.hit? asked.disk asked.state).bind fun answer =>
      answer.toOption.join.map Scan.classes) = some ["two"] := by decide +kernel
  obtain ⟨c, hcall, hgives⟩ := Option.bind_eq_some_iff.1 hgives
  obtain ⟨answer, hhit, hgives⟩ := Option.bind_eq_some_iff.1 hgives
  obtain ⟨f, source, -, hanswer, hfresh, hsource, hseen, hread⟩ :=
    answer_never_stale (by decide) reaches_asked hcall hhit
  rw [hanswer] at hgives
  exact ⟨by decide, reaches_asked, c, answer, _, hcall, hhit, hfresh, hanswer,
    Option.some.inj hgives, source, hsource, hseen.trans hread.symm⟩

end Rewritten

end Caching.Interleaved

end StylePrune
