import StylePrune.Cache.Basic
import StylePrune.Project.Scanner
import StylePrune.Proofs.Cache.File

/-!
# A cache answers as a scan would

What a file holds is taken as given by its absolute path and its status (`Setting.Describes`). The
entries of a cache are then faithful if each is that of the scan of such a text (`Faithful`). With a
faithful cache every file gives what it gives without one, and the cache stays faithful
(`scanFile_faithful`, `scanEach_faithful`). With extractors the cache is not touched
(`scanFile_extractors`, `scanEach_extractors`).
-/

namespace StylePrune.Signature

/-!
## Signatures tell what they are made of apart

A signature joins its parts with colons, and no part holds one, so equal signatures have equal parts
(`ofStatus_inj`).
-/

/-- Texts that are cut at their first colon alike are alike on both sides. -/
theorem append_colon_inj {a b a' b' : List Char} (ha : ':' ∉ a) (ha' : ':' ∉ a')
    (h : a ++ ':' :: b = a' ++ ':' :: b') : a = a' ∧ b = b' := by
  induction a generalizing a' with
  | nil =>
    cases a' with
    | nil => exact ⟨rfl, (List.cons.inj h).2⟩
    | cons c a' => exact absurd (List.cons.inj h).1 (List.ne_of_not_mem_cons ha')
  | cons c a ih =>
    rw [List.mem_cons, not_or] at ha
    cases a' with
    | nil => exact absurd (List.cons.inj h).1.symm ha.1
    | cons c' a' =>
      rw [List.mem_cons, not_or] at ha'
      obtain ⟨hc, h⟩ := List.cons.inj h
      obtain ⟨rfl, hb⟩ := ih ha.2 ha'.2 h
      exact ⟨by rw [hc], hb⟩

theorem colon_notMem_repr (n : Nat) : ':' ∉ (toString n).toList := by
  rw [Nat.toString_eq_repr, Nat.toList_repr]
  exact fun h => absurd (Nat.isDigit_of_mem_toDigits (by decide) (by decide) h) (by decide)

theorem toString_inj {m n : Nat} (h : (toString m).toList = (toString n).toList) : m = n := by
  rw [Nat.toString_eq_repr, Nat.toString_eq_repr, Nat.toList_repr, Nat.toList_repr] at h
  rw [← Nat.ofDigitChars_toDigits (b := 10) (n := m) (by decide) (by decide), h,
    Nat.ofDigitChars_toDigits (by decide) (by decide)]

theorem colon_notMem_directoryMark (directory : String) :
    ':' ∉ (directoryMark directory).toList := by
  have hdigit : ∀ d < 16, ':' ≠ Nat.digitChar d := by decide
  rw [directoryMark, String.Slice.toString_eq, String.toList_copy_take, Sha256.hex,
    String.toList_ofList]
  intro h
  obtain ⟨b, -, hb⟩ := List.mem_flatMap.1 (List.mem_of_mem_take h)
  have hlt := b.toNat_lt
  simp only [Sha256.hexByte, List.mem_cons, List.not_mem_nil, or_false] at hb
  exact hb.elim (hdigit _ (by omega)) (hdigit _ (by omega))

theorem toList_ofStatus (collects : Bool) (directory : String) (status : FileStatus) :
    (ofStatus collects (some directory) status).toList =
      (if collects then "builtin:true:" else "builtin:false:").toList ++
        ((directoryMark directory).toList ++ ':' ::
          ((toString status.modified).toList ++ ':' :: (toString status.size).toList)) := by
  have hstring (s : String) : toString s = s := rfl
  cases collects <;> simp [ofStatus, hstring]

/-- Equal signatures are those of one mode, one mark of a directory and one status. -/
theorem ofStatus_inj {collects collects' : Bool} {directory directory' : String}
    {status status' : FileStatus}
    (h : ofStatus collects (some directory) status = ofStatus collects' (some directory') status') :
    collects = collects' ∧ directoryMark directory = directoryMark directory' ∧
      status = status' := by
  have hlist := congrArg String.toList h
  rw [toList_ofStatus, toList_ofStatus] at hlist
  have hmode : collects = collects' := by
    cases collects <;> cases collects' <;> simp at hlist ⊢
  subst hmode
  obtain ⟨hmark, hrest⟩ := append_colon_inj (colon_notMem_directoryMark _)
    (colon_notMem_directoryMark _) (List.append_cancel_left hlist)
  obtain ⟨hmodified, hsize⟩ := append_colon_inj (colon_notMem_repr _) (colon_notMem_repr _) hrest
  obtain ⟨modified, size⟩ := status
  obtain ⟨modified', size'⟩ := status'
  obtain rfl : modified = modified' := toString_inj hmodified
  obtain rfl : size = size' := toString_inj hsize
  exact ⟨rfl, String.toList_inj.1 hmark, rfl⟩

end StylePrune.Signature

namespace StylePrune.Caching

/-! ## A cache answers as a scan would -/

/-- What stays as it is while files are scanned: the working directory, the directories that origins
are seen from, and the text of a file, if it can be read, by its absolute path and its status. -/
structure Setting where
  cwd : String
  directories : String → Prop
  contents : String → FileStatus → Option String

namespace Setting

/-- Whether a directory, seen from the working directory, is one of those that origins are seen
from. -/
def Uses (s : Setting) (base : String) : Prop := s.directories (Path.absolute s.cwd base)

/-- Whether the marks in signatures tell the directories apart. -/
def Marked (s : Setting) : Prop :=
  ∀ a b, s.directories a → s.directories b →
    Signature.directoryMark a = Signature.directoryMark b → a = b

/-- Whether the files of a disk hold what their paths and status say. -/
def Describes (s : Setting) (disk : Disk) : Prop :=
  ∀ path status, disk.status? path = some status →
    (disk.readLossy path).toOption = s.contents (Path.normalize path) status

/-- The scan by the recognisers of the text of a file with an absolute path. -/
def scanOf (s : Setting) (collects : Bool) (base path content : String) : Scan :=
  Content.scan collects
    (some (normalizeSlashes (Path.between (Path.absolute s.cwd base) path))) content.toList

end Setting

/-- Entries under distinct paths, each that of the scan of a text that its path had with the status
in the signature. -/
structure Faithful (s : Setting) (entries : CacheEntries) : Prop where
  paths : (entries.map Prod.fst).Nodup
  scans : ∀ e ∈ entries, ∃ collects base status content, s.directories base ∧
    s.contents e.1 status = some content ∧
    e.2 = CacheEntry.ofScan (Signature.ofStatus collects (some base) status)
      (s.scanOf collects base e.1 content)

variable {s : Setting} {entries : CacheEntries} {scanner : Scanner} {disk : Disk}
  {cache : ScanCache} {state : ScanState} {path : String}

theorem Faithful.nil : Faithful s [] := ⟨.nil, fun _ h => (List.not_mem_nil h).elim⟩

theorem Faithful.distinct (h : Faithful s entries) : entries.Distinct where
  paths := h.paths
  names e he := by
    obtain ⟨collects, base, status, content, -, -, heq⟩ := h.scans e he
    rw [heq]
    exact (Content.wellFormed_scan ..).origins.names

theorem Faithful.set (h : Faithful s entries) {collects : Bool} {base path content : String}
    {status : FileStatus} (hbase : s.directories base)
    (hcontent : s.contents path status = some content) :
    Faithful s (setMember entries path (CacheEntry.ofScan
      (Signature.ofStatus collects (some base) status) (s.scanOf collects base path content))) where
  paths := nodup_setMember h.paths
  scans e he := by
    rcases mem_setMember he with rfl | he
    · exact ⟨collects, base, status, content, hbase, hcontent, rfl⟩
    · exact h.scans e he

/-- What a faithful cache answers for a signature is the scan of the text that the path has with the
status in it. -/
theorem Faithful.get (h : Faithful s cache.entries) (hmarked : s.Marked) {base : String}
    (hbase : s.directories base) (path : String) (collects : Bool) (status : FileStatus) :
    cache.get path (Signature.ofStatus collects (some base) status) =
        .ok (none, { cache with misses := cache.misses + 1 }) ∨
      ∃ content, s.contents path status = some content ∧
        cache.get path (Signature.ofStatus collects (some base) status) =
          .ok (some (s.scanOf collects base path content),
            { cache with hits := cache.hits + 1 }) := by
  rw [ScanCache.get]
  cases hentry : cache.entry? path (Signature.ofStatus collects (some base) status) with
  | none => exact .inl rfl
  | some entry =>
    obtain ⟨hlookup, hsignature⟩ := Option.filter_eq_some_iff.1 hentry
    obtain ⟨before, after, hentries, -⟩ := List.lookup_eq_some_iff.1 hlookup
    obtain ⟨collects', base', status', content, hbase', hcontent, hentry⟩ :=
      h.scans (path, entry) (hentries ▸ List.mem_append_right _ List.mem_cons_self)
    simp only at hcontent hentry
    subst hentry
    obtain ⟨rfl, hmark, rfl⟩ := Signature.ofStatus_inj (of_decide_eq_true hsignature)
    obtain rfl := hmarked _ _ hbase' hbase hmark
    refine .inr ⟨content, hcontent, ?_⟩
    simp only [CacheEntry.scan_ofScan (Content.wellFormed_scan ..), Except.map, Setting.scanOf]

/-! ## One file -/

/-- What a call changes if it leaves the cache alone: no entry, and no count of hits and misses. -/
structure Untouched (before after : ScanState) : Prop where
  cache : after.cache = before.cache
  hits : after.tally.hits = before.tally.hits
  misses : after.tally.misses = before.tally.misses

theorem Untouched.refl (state : ScanState) : Untouched state state := ⟨rfl, rfl, rfl⟩

theorem Untouched.trans {a b c : ScanState} (h : Untouched a b) (h' : Untouched b c) :
    Untouched a c :=
  ⟨h'.cache.trans h.cache, h'.hits.trans h.hits, h'.misses.trans h.misses⟩

/-- A file that the cache is not asked for is scanned afresh, and the cache is left alone. -/
theorem scanFile_unasked (disk : Disk) (path : String)
    (h : (scanner.extractors.isEmpty && state.cache.isSome) = false) :
    ∃ after, scanner.scanFile disk state path = (scanner.freshScan disk path, after) ∧
      Untouched state after := by
  have hsignature : scanner.signature? disk state path = none := by
    rw [Scanner.signature?, h]
    rfl
  rw [Scanner.scanFile, hsignature]
  simp only [Scanner.scanAndStore]
  cases scanner.freshScan disk path with
  | error e => exact ⟨state, rfl, .refl state⟩
  | ok found =>
    cases found with
    | none => exact ⟨state, rfl, .refl state⟩
    | some scan => exact ⟨_, rfl, ⟨rfl, rfl, rfl⟩⟩

/-- A scan of a file without extractors is that of its text, if it can be read. -/
theorem freshScan_eq (hextractors : scanner.extractors = []) (hcwd : scanner.cwd = s.cwd)
    (hdisk : s.Describes disk) {status : FileStatus}
    (hstatus : disk.status? (Path.seenFrom scanner.cwd path) = some status) :
    scanner.freshScan disk path = .ok ((s.contents (Path.absolute s.cwd path) status).map
      (s.scanOf scanner.options.dynamicPatterns.collects scanner.base
        (Path.absolute s.cwd path))) := by
  have hpath : path ≠ "" := by
    rintro rfl
    cases hstatus
  have hseen : Path.seenFrom scanner.cwd path = Path.join s.cwd path := by
    rw [Path.seenFrom, if_neg hpath, hcwd]
  have hcontents := hdisk _ _ hstatus
  rw [hseen] at hcontents
  have hlabel : Path.label scanner.cwd scanner.base path = normalizeSlashes
      (Path.between (Path.absolute s.cwd scanner.base) (Path.absolute s.cwd path)) := by
    rw [Path.label, if_neg hpath, hcwd]
  rw [Scanner.freshScan, hseen, show s.contents (Path.absolute s.cwd path) status = _ from
    hcontents.symm]
  cases disk.readLossy (Path.join s.cwd path) with
  | error fault => rfl
  | ok content =>
    simp only [Scanner.scanContents, scanText, hextractors, List.isEmpty_nil, if_true, hlabel]
    rfl

/-- With a faithful cache a file gives what it gives without one, and the cache stays faithful. -/
theorem scanFile_faithful (hextractors : scanner.extractors = []) (hcwd : scanner.cwd = s.cwd)
    (hbase : s.directories scanner.base) (hmarked : s.Marked) (hdisk : s.Describes disk)
    (h : Faithful s cache.entries) (tally : Tally) (path : String) :
    ∃ cache' tally', scanner.scanFile disk ⟨some cache, tally⟩ path =
        (scanner.freshScan disk path, ⟨some cache', tally'⟩) ∧
      Faithful s cache'.entries ∧ cache'.file = cache.file := by
  cases hstatus : disk.status? (Path.seenFrom scanner.cwd path) with
  | none =>
    have hsignature : scanner.signature? disk ⟨some cache, tally⟩ path = none := by
      rw [Scanner.signature?, Signature.ofPath?, hstatus]
      exact ite_self _
    rw [Scanner.scanFile, hsignature, Scanner.scanAndStore]
    simp only [Scanner.store]
    cases hfresh : scanner.freshScan disk path with
    | error e => exact ⟨cache, tally, rfl, h, rfl⟩
    | ok found =>
      cases found with
      | none => exact ⟨cache, tally, rfl, h, rfl⟩
      | some scan => exact ⟨cache, tally.scanned, rfl, h, rfl⟩
  | some status =>
    have hsignature : scanner.signature? disk ⟨some cache, tally⟩ path = some (Signature.ofStatus
        scanner.options.dynamicPatterns.collects (some scanner.base) status) := by
      rw [Scanner.signature?, Signature.ofPath?, hstatus, hextractors]
      rfl
    have hfresh := freshScan_eq hextractors hcwd hdisk hstatus
    rw [Scanner.scanFile, hsignature]
    simp only [Scanner.lookup, hcwd]
    rcases h.get hmarked hbase (Path.absolute s.cwd path)
      scanner.options.dynamicPatterns.collects status with hget | ⟨content, hcontent, hget⟩
    · simp only [hget, Scanner.scanAndStore, hfresh]
      cases hcontent : s.contents (Path.absolute s.cwd path) status with
      | none => exact ⟨_, _, rfl, h, rfl⟩
      | some content =>
        simp only [Option.map_some, Scanner.store, hcwd]
        exact ⟨_, _, rfl, h.set hbase hcontent, rfl⟩
    · simp only [hget, hfresh, hcontent]
      exact ⟨_, _, rfl, h, rfl⟩

/-! ## Several files -/

/-- What scanning files gives without a cache: their scans in order, up to the first error. -/
def freshEach (scanner : Scanner) (disk : Disk) (sum : ProjectScan) :
    List String → Except ScanError ProjectScan
  | [] => .ok sum
  | path :: rest =>
    match scanner.freshScan disk path with
    | .error e => .error e
    | .ok none => freshEach scanner disk sum rest
    | .ok (some scan) => freshEach scanner disk (Scanner.addScan sum scan) rest

/-- Files that the cache is not asked for are scanned afresh, and the cache is left alone. -/
theorem scanEach_unasked (disk : Disk) (paths : List String) (sum : ProjectScan)
    (state : ScanState) (h : (scanner.extractors.isEmpty && state.cache.isSome) = false) :
    ∃ after, scanner.scanEach disk state sum paths = (freshEach scanner disk sum paths, after) ∧
      Untouched state after := by
  induction paths generalizing sum state with
  | nil => exact ⟨state, rfl, .refl state⟩
  | cons path rest ih =>
    obtain ⟨after, hfirst, hafter⟩ := scanFile_unasked disk path h
    have hasked : (scanner.extractors.isEmpty && after.cache.isSome) = false := by
      rw [hafter.cache]
      exact h
    rw [Scanner.scanEach, hfirst, freshEach]
    cases scanner.freshScan disk path with
    | error e => exact ⟨after, rfl, hafter⟩
    | ok found =>
      cases found with
      | none =>
        obtain ⟨last, hrest, hlast⟩ := ih sum after hasked
        exact ⟨last, hrest, hafter.trans hlast⟩
      | some scan =>
        obtain ⟨last, hrest, hlast⟩ := ih (Scanner.addScan sum scan) after hasked
        exact ⟨last, hrest, hafter.trans hlast⟩

/-- With a faithful cache files give what they give without one, and the cache stays faithful. -/
theorem scanEach_faithful (hextractors : scanner.extractors = []) (hcwd : scanner.cwd = s.cwd)
    (hbase : s.directories scanner.base) (hmarked : s.Marked) (hdisk : s.Describes disk)
    (paths : List String) (sum : ProjectScan) (cache : ScanCache) (tally : Tally)
    (h : Faithful s cache.entries) :
    ∃ cache' tally', scanner.scanEach disk ⟨some cache, tally⟩ sum paths =
        (freshEach scanner disk sum paths, ⟨some cache', tally'⟩) ∧
      Faithful s cache'.entries ∧ cache'.file = cache.file := by
  induction paths generalizing sum cache tally with
  | nil => exact ⟨cache, tally, rfl, h, rfl⟩
  | cons path rest ih =>
    obtain ⟨cache', tally', hfirst, h', hfile⟩ :=
      scanFile_faithful hextractors hcwd hbase hmarked hdisk h tally path
    rw [Scanner.scanEach, hfirst, freshEach]
    cases hfresh : scanner.freshScan disk path with
    | error e => exact ⟨cache', tally', rfl, h', hfile⟩
    | ok found =>
      cases found with
      | none =>
        obtain ⟨cache'', tally'', hrest, h'', hfile'⟩ := ih sum cache' tally' h'
        exact ⟨cache'', tally'', hrest, h'', hfile'.trans hfile⟩
      | some scan =>
        obtain ⟨cache'', tally'', hrest, h'', hfile'⟩ :=
          ih (Scanner.addScan sum scan) cache' tally' h'
        exact ⟨cache'', tally'', hrest, h'', hfile'.trans hfile⟩

end StylePrune.Caching
