import StylePrune.Glob.Resolve
import StylePrune.Proofs.Disk.Location
import StylePrune.Proofs.Sorted

/-!
# Globs on a disk that grows

Whether an absolute pattern without steps up names a file is a matter of that file alone
(`mem_filesOf`). So globs that name none of the files that are written name the same files before
and after, and these files are as they were (`resolve_grown`).
-/

namespace StylePrune.Glob

variable {disk d e : Disk} {pattern f : String}

/-! ## The root of a walk -/

theorem normalizeSlashes_idem (s : String) :
    normalizeSlashes (normalizeSlashes s) = normalizeSlashes s := by
  rw [← String.toList_inj]
  simp only [normalizeSlashes, String.toList_map, List.map_map]
  refine List.map_congr_left fun c _ => ?_
  simp only [Function.comp_apply]
  split
  · decide
  · rfl

/-- What stands before the first token, up to its last slash. -/
theorem walkRoot_eq (habsolute : Path.isAbsolute pattern = true)
    (hslashes : normalizeSlashes pattern = pattern) (htoken : hasToken pattern = true) :
    ∃ front more, pattern.toList = front ++ '/' :: more ∧
      walkRoot pattern = (if front = [] then "/" else String.ofList front) ∧
      ∀ c ∈ front, isToken c = false := by
  have hhead : pattern.toList.head? = some '/' := by simpa [Path.isAbsolute] using habsolute
  obtain ⟨rest, hrest⟩ := List.head?_eq_some_iff.1 hhead
  have hfixed : (pattern.toList.takeWhile fun c => !isToken c) =
      '/' :: rest.takeWhile fun c => !isToken c := by
    rw [hrest, List.takeWhile_cons, if_pos (by decide)]
  obtain ⟨fixed, hfixedEq⟩ : ∃ fixed, (pattern.toList.takeWhile fun c => !isToken c) = fixed :=
    ⟨_, rfl⟩
  rw [hfixedEq] at hfixed
  have hmem : '/' ∈ fixed.reverse := by rw [hfixed]; simp
  obtain ⟨tail, front, hsplit, htail⟩ := List.eq_append_cons_of_mem hmem
  have hdirectory : (fixed.reverse.dropWhile (· ≠ '/')).reverse = front.reverse ++ ['/'] := by
    rw [hsplit, List.dropWhile_append_of_pos fun c hc => by
        simpa using fun h : c = '/' => htail (h ▸ hc),
      List.dropWhile_cons_of_neg (by simp), List.reverse_cons]
  have hfront : fixed = front.reverse ++ '/' :: tail.reverse := by
    rw [← List.reverse_inj, hsplit]
    simp
  obtain ⟨behind, hbehind⟩ := List.takeWhile_prefix (l := pattern.toList) fun c => !isToken c
  rw [hfixedEq] at hbehind
  refine ⟨front.reverse, tail.reverse ++ behind, by rw [← hbehind, hfront]; simp, ?root, ?fixed⟩
  case fixed =>
    intro c hc
    have hfree := List.all_eq_true.1 (List.all_takeWhile (l := pattern.toList)) c
      (hfixedEq ▸ hfront ▸ List.mem_append_left _ hc)
    simpa using hfree
  rw [walkRoot, hslashes]
  simp only [hfixedEq, hdirectory]
  rw [if_pos (show pattern.toList.any isToken = true from htoken)]
  cases front.reverse with
  | nil => rfl
  | cons c more =>
    rw [if_neg (List.cons_ne_nil c more)]
    split
    · rename_i hdir
      cases hdir
    · rename_i hdir
      simp at hdir
    · rw [List.dropLast_concat]

theorem walkRoot_plain (habsolute : Path.isAbsolute pattern = true)
    (hslashes : normalizeSlashes pattern = pattern) (htoken : hasToken pattern = true)
    (hup : ".." ∉ Path.names pattern) :
    Path.isAbsolute (walkRoot pattern) = true ∧ ".." ∉ Path.names (walkRoot pattern) := by
  obtain ⟨front, more, hpattern, hroot, -⟩ := walkRoot_eq habsolute hslashes htoken
  rw [hroot]
  by_cases hfront : front = []
  · rw [if_pos hfront]
    decide
  · rw [if_neg hfront]
    have hparts : pattern = String.ofList front ++ "/" ++ String.ofList more := by
      rw [← String.toList_inj, hpattern]
      simp [String.toList_append]
    constructor
    · obtain ⟨c, rest, rfl⟩ := List.exists_cons_of_ne_nil hfront
      simpa [Path.isAbsolute, hpattern] using habsolute
    · intro hmem
      rw [hparts, Path.names_append] at hup
      exact hup (List.mem_append_left _ hmem)

/-! ## The files that one pattern names -/

theorem isSome_fileAt? {place : Place} :
    (disk.fileAt? place).isSome = true ↔ ∃ g, (place, g) ∈ disk.files := by
  rw [Disk.fileAt?, List.lookup_isSome_iff]
  constructor
  · rintro ⟨⟨other, g⟩, hmem, hother⟩
    obtain rfl := eq_of_beq hother
    exact ⟨g, hmem⟩
  · rintro ⟨g, hmem⟩
    exact ⟨(place, g), hmem, beq_self_eq_true place⟩

theorem mem_walk {root raw : String} : raw ∈ disk.walk root ↔
    ∃ place rest, disk.locate root = .ok place ∧ disk.isDirectory place = true ∧
      (disk.fileAt? (place ++ rest)).isSome = true ∧
      raw = Path.join root (String.intercalate "/" rest) := by
  rw [Disk.walk]
  cases disk.locate root with
  | error fault => exact iff_of_false List.not_mem_nil fun ⟨_, _, h, _⟩ => by cases h
  | ok place =>
    simp only
    by_cases hdirectory : disk.isDirectory place = true
    · rw [if_pos hdirectory, List.mem_filterMap]
      constructor
      · rintro ⟨⟨other, g⟩, hmem, hraw⟩
        simp only at hraw
        split at hraw
        · rename_i hprefix
          obtain ⟨rest, rfl⟩ := List.isPrefixOf_iff_prefix.1 hprefix
          refine ⟨place, rest, rfl, hdirectory, isSome_fileAt?.2 ⟨g, hmem⟩, ?_⟩
          rw [← Option.some.inj hraw, List.drop_left]
        · cases hraw
      · rintro ⟨place', rest, hplace, -, hfile, rfl⟩
        obtain rfl := Except.ok.inj hplace
        obtain ⟨g, hmem⟩ := isSome_fileAt?.1 hfile
        refine ⟨(place ++ rest, g), hmem, ?_⟩
        simp only
        rw [if_pos (List.isPrefixOf_iff_prefix.2 (List.prefix_append ..)), List.drop_left]
    · rw [if_neg hdirectory]
      refine iff_of_false List.not_mem_nil ?_
      rintro ⟨place', rest, hplace, hdirectory', -⟩
      obtain rfl := Except.ok.inj hplace
      exact hdirectory hdirectory'

/-- A file that a pattern names is named on every disk that has it. -/
theorem mem_filesOf (hd : d.WellFormed) (habsolute : Path.isAbsolute pattern = true)
    (hslashes : normalizeSlashes pattern = pattern) (hup : ".." ∉ Path.names pattern)
    (hf : f ∈ filesOf d pattern) : Path.IsNormal f ∧
      (d.fileAt? (Path.place f)).isSome = true ∧ ∀ e : Disk, e.WellFormed →
        (e.fileAt? (Path.place f)).isSome = true → f ∈ filesOf e pattern := by
  rw [filesOf] at hf
  split at hf
  · rename_i htoken
    obtain ⟨hrooted, hrootUp⟩ := walkRoot_plain habsolute hslashes htoken hup
    obtain ⟨hwalk, hmatch⟩ := List.mem_filter.1 hf
    obtain ⟨raw, hraw, rfl⟩ := List.mem_map.1 hwalk
    obtain ⟨place, rest, hplace, hdirectory, hfile, rfl⟩ := mem_walk.1 hraw
    obtain ⟨g, hg⟩ := Option.isSome_iff_exists.1 hfile
    have hproper : ∀ n ∈ rest, Path.IsProper n := fun n hn =>
      hd.proper hg n (List.mem_append_right _ hn)
    have hne : place ≠ place ++ rest := fun h => by
      rw [h, hd.apart hg] at hdirectory
      cases hdirectory
    have hrest : rest ≠ [] := fun h => hne (by rw [h, List.append_nil])
    have hrootPlace : place = Path.place (walkRoot pattern) := by
      rw [Disk.locate_absolute hrooted, Disk.follow_plain hrootUp] at hplace
      exact hplace.1
    have hjoined := Path.isAbsolute_join hrooted (String.intercalate "/" rest)
    have hfound := Path.place_join_proper hrooted hrest hproper
    rw [Path.place_normalize hrooted hrootUp, ← hrootPlace] at hfound
    rw [hfound]
    refine ⟨(Path.isNormal_normalize hjoined).1, hfile, fun e he hfile' => ?_⟩
    obtain ⟨g', hg'⟩ := Option.isSome_iff_exists.1 hfile'
    rw [filesOf, if_pos htoken]
    refine List.mem_filter.2 ⟨List.mem_map.2 ⟨_, mem_walk.2 ⟨place, rest, ?_, ?_, hfile', rfl⟩,
      rfl⟩, hmatch⟩
    · exact hd.locate he hfile hfile' hrooted hrootUp hplace (List.prefix_append ..)
    · exact he.parents hg' (List.prefix_append ..) hne
  split at hf
  · rename_i htoken hisFile
    obtain rfl := List.mem_singleton.1 hf
    obtain ⟨g, hg⟩ : ∃ g, d.file pattern = .ok g := by
      rw [Disk.isFile] at hisFile
      cases hfile : d.file pattern with
      | error fault => rw [hfile] at hisFile; cases hisFile
      | ok g => exact ⟨g, rfl⟩
    obtain ⟨place, hplace, hfileAt⟩ := Disk.file_ok.1 hg
    have hfound : Path.place (Path.normalize pattern) = place := by
      rw [Path.place_normalize habsolute hup]
      rw [Disk.locate_absolute habsolute, Disk.follow_plain hup] at hplace
      exact hplace.1.symm
    rw [hfound]
    refine ⟨(Path.isNormal_normalize habsolute).1, by rw [hfileAt]; rfl, fun e he hfile' => ?_⟩
    obtain ⟨g', hg'⟩ := Option.isSome_iff_exists.1 hfile'
    have hplace' := hd.locate he (by rw [hfileAt]; rfl) hfile' habsolute hup hplace
      List.prefix_rfl
    rw [filesOf, if_neg htoken, if_pos, List.mem_singleton]
    rw [Disk.isFile, Disk.file_ok.2 ⟨place, hplace', hg'⟩]
    rfl
  · cases hf

/-! ## The files that globs name -/

/-- The absolute patterns of globs that take files in. -/
def included (directory : String) (patterns : List String) : List String :=
  ((patterns.filter (· ≠ "")).filter fun p => !isExclusion p).flatMap (absolutePatterns directory)

/-- Whether globs take a file out. -/
def excludes (directory : String) (patterns : List String) (file : String) : Bool :=
  (((patterns.filter (· ≠ "")).filter isExclusion).flatMap fun p =>
    absolutePatterns directory (p.drop 1).toString).any fun p => matchesFile p file

theorem mem_resolve {cwd base : String} {patterns : List String} :
    f ∈ resolve disk cwd base patterns ↔
      (∃ q ∈ included (Path.absolute cwd base) patterns, f ∈ filesOf disk q) ∧
        excludes (Path.absolute cwd base) patterns f = false := by
  rw [resolve, List.mem_filter, Sorted.strings, Sorted.mem_ofList Sorted.strict_stringLt,
    List.mem_flatMap, Bool.not_eq_true']
  rfl

theorem pairwise_resolve (disk : Disk) (cwd base : String) (patterns : List String) :
    (resolve disk cwd base patterns).Pairwise fun a b => Sorted.stringLt a b = true :=
  (Sorted.pairwise_ofList Sorted.strict_stringLt _).filter _

theorem isAbsolute_absolutePattern {directory : String} (h : Path.isAbsolute directory = true)
    (p : String) : Path.isAbsolute (absolutePattern directory p) = true := by
  have habsolute := (Path.isNormal_absolute h p).absolute
  rw [Path.isAbsolute, decide_eq_true_eq] at habsolute
  rw [absolutePattern, Path.isAbsolute, decide_eq_true_eq, normalizeSlashes, String.toList_map,
    List.head?_map, habsolute]
  rfl

/-- Globs without steps up that name none of the files that were written name the same files before
and after, and these are as they were. -/
theorem resolve_grown {places : List Place} {cwd base : String} {patterns : List String}
    (hd : d.WellFormed) (he : e.WellFormed) (hgrown : d.Grown places e)
    (hcwd : Path.isAbsolute cwd = true)
    (hup : ∀ q ∈ included (Path.absolute cwd base) patterns, ".." ∉ Path.names q)
    (hapart : ∀ f ∈ resolve e cwd base patterns, ∀ place ∈ places, e.locate f ≠ .ok place) :
    resolve e cwd base patterns = resolve d cwd base patterns ∧
      ∀ f ∈ resolve d cwd base patterns, Path.IsNormal f ∧
        ∃ g, d.file f = .ok g ∧ e.file f = .ok g := by
  have hplain : ∀ q ∈ included (Path.absolute cwd base) patterns,
      Path.isAbsolute q = true ∧ normalizeSlashes q = q := by
    intro q hq
    obtain ⟨p, -, hqp⟩ := List.mem_flatMap.1 hq
    obtain ⟨x, -, rfl⟩ := List.mem_map.1 hqp
    exact ⟨isAbsolute_absolutePattern (Path.isNormal_absolute hcwd _).absolute x,
      normalizeSlashes_idem _⟩
  -- Either way it is a matter of the file alone.
  have hnamed : ∀ {disk f}, disk.WellFormed → f ∈ resolve disk cwd base patterns →
      Path.IsNormal f ∧ (disk.fileAt? (Path.place f)).isSome = true ∧
        ∀ disk' : Disk, disk'.WellFormed → (disk'.fileAt? (Path.place f)).isSome = true →
          f ∈ resolve disk' cwd base patterns := by
    intro disk f hdisk hf
    obtain ⟨⟨q, hq, hfq⟩, hin⟩ := mem_resolve.1 hf
    obtain ⟨hnormal, hfile, hother⟩ :=
      mem_filesOf hdisk (hplain q hq).1 (hplain q hq).2 (hup q hq) hfq
    exact ⟨hnormal, hfile, fun disk' hdisk' hfile' =>
      mem_resolve.2 ⟨⟨q, hq, hother disk' hdisk' hfile'⟩, hin⟩⟩
  have hlocate : ∀ {disk : Disk} {f}, disk.WellFormed → Path.IsNormal f →
      (disk.fileAt? (Path.place f)).isSome = true → disk.locate f = .ok (Path.place f) := by
    intro disk f hdisk hnormal hfile
    obtain ⟨g, hg⟩ := Option.isSome_iff_exists.1 hfile
    exact (Disk.locate_normal hnormal).2 ⟨rfl, fun q hq hne => hdisk.parents hg hq hne⟩
  have hsame : ∀ f ∈ resolve e cwd base patterns,
      e.fileAt? (Path.place f) = d.fileAt? (Path.place f) := by
    intro f hf
    obtain ⟨hnormal, hfile, -⟩ := hnamed he hf
    exact hgrown.others _ fun hplace => hapart f hf _ hplace (hlocate he hnormal hfile)
  have hresolve : resolve e cwd base patterns = resolve d cwd base patterns := by
    refine Sorted.eq_of_mem_iff Sorted.strict_stringLt (pairwise_resolve ..)
      (pairwise_resolve ..) fun f => ⟨fun hf => ?_, fun hf => ?_⟩
    · obtain ⟨-, hfile, hother⟩ := hnamed he hf
      exact hother d hd (hsame f hf ▸ hfile)
    · obtain ⟨-, hfile, hother⟩ := hnamed hd hf
      exact hother e he (hgrown.kept _ hfile)
  refine ⟨hresolve, fun f hf => ?_⟩
  obtain ⟨hnormal, hfile, -⟩ := hnamed hd hf
  obtain ⟨g, hg⟩ := Option.isSome_iff_exists.1 hfile
  have hg' : e.fileAt? (Path.place f) = some g := by rw [hsame f (hresolve ▸ hf), hg]
  exact ⟨hnormal, g, Disk.file_ok.2 ⟨_, hlocate hd hnormal hfile, hg⟩,
    Disk.file_ok.2 ⟨_, hlocate he hnormal (by rw [hg']; rfl), hg'⟩⟩

end StylePrune.Glob
