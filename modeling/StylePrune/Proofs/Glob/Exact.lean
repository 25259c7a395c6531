import StylePrune.Proofs.Glob.Growth

/-!
# Globs name exactly what they match

A walk starts where the text before the first token leads. A path that the glob matches begins with
that text, so a walk from there finds every file that is matched (`mem_walk_iff`). With the files
that patterns without tokens lead to, these are all files that are found (`resolve_exact`).
-/

namespace StylePrune

namespace Glob

variable {disk : Disk} {pattern f : String} {front more : List Char} {place : Place}

/-! ## Text before the first token -/

theorem pieces_plain {c : Char} (hc : isToken c = false) (rest : List Char) :
    pieces (c :: rest) = .char c :: pieces rest := by
  have hstar : c ≠ '*' := by rintro rfl; cases hc
  have hone : c ≠ '?' := by rintro rfl; cases hc
  rw [pieces]
  · exact fun _ e => absurd e hstar
  · exact fun _ e => absurd e hstar
  · exact hstar
  · exact hone

/-- Pieces of text without tokens match that text. -/
theorem piecesMatch_front (h : ∀ c ∈ front, isToken c = false) {text : List Char}
    (hmatch : piecesMatch (pieces (front ++ more)) text = true) :
    ∃ rest, text = front ++ rest ∧ piecesMatch (pieces more) rest = true := by
  induction front generalizing text with
  | nil => exact ⟨text, rfl, hmatch⟩
  | cons c front ih =>
    obtain ⟨hc, hfront⟩ := List.forall_mem_cons.1 h
    rw [List.cons_append, pieces_plain hc] at hmatch
    cases text with
    | nil => cases hmatch
    | cons d text =>
      rw [piecesMatch, Bool.and_eq_true, decide_eq_true_eq] at hmatch
      obtain ⟨rfl, hmatch⟩ := hmatch
      obtain ⟨rest, rfl, hrest⟩ := ih hfront hmatch
      exact ⟨rest, rfl, hrest⟩

theorem normalizeSlashes_eq_self (h : '\\' ∉ f.toList) : normalizeSlashes f = f := by
  rw [← String.toList_inj, normalizeSlashes, String.toList_map]
  refine (List.map_congr_left fun c hc => ?_).trans (List.map_id _)
  exact if_neg fun (e : c = '\\') => h (e ▸ hc)

theorem mem_intercalate {c : Char} {ns : List String}
    (h : c ∈ (String.intercalate "/" ns).toList) : c = '/' ∨ ∃ n ∈ ns, c ∈ n.toList := by
  induction ns with
  | nil => exact absurd h (by rw [String.intercalate_nil]; exact List.not_mem_nil)
  | cons n rest ih =>
    cases rest with
    | nil =>
      rw [String.intercalate_singleton] at h
      exact .inr ⟨n, List.mem_cons_self, h⟩
    | cons m rest =>
      rw [String.intercalate_cons_cons, String.toList_append, String.toList_append,
        List.mem_append, List.mem_append] at h
      rcases h with (h | h) | h
      · exact .inr ⟨n, List.mem_cons_self, h⟩
      · exact .inl (List.mem_singleton.1 h)
      · exact (ih h).imp id fun ⟨x, hx, hc⟩ => ⟨x, List.mem_cons_of_mem n hx, hc⟩

/-- A file whose names hold no backslash is matched by its path as it is. -/
theorem normalizeSlashes_ofPlace {root : String} (hroot : '\\' ∉ root.toList)
    (h : ∀ n ∈ place, '\\' ∉ n.toList) :
    normalizeSlashes (root ++ String.intercalate "/" place) =
      root ++ String.intercalate "/" place := by
  refine normalizeSlashes_eq_self fun hmem => ?_
  rw [String.toList_append, List.mem_append] at hmem
  rcases hmem with hmem | hmem
  · exact hroot hmem
  · rcases mem_intercalate hmem with hslash | ⟨n, hn, hmem⟩
    · exact absurd hslash (by decide)
    · exact h n hn hmem

/-! ## Walks -/

/-- What a glob matches begins as the glob does, up to the root of its walk. -/
theorem starts_of_match (hslashes : normalizeSlashes pattern = pattern)
    (hpattern : pattern.toList = front ++ '/' :: more) (hfixed : ∀ c ∈ front, isToken c = false)
    (h : matchesFile pattern f = true) :
    ∃ rest, (normalizeSlashes f).toList = front ++ '/' :: rest := by
  have hall : ∀ c ∈ front ++ ['/'], isToken c = false := fun c hc =>
    (List.mem_append.1 hc).elim (hfixed c) fun hc => by rw [List.mem_singleton.1 hc]; rfl
  rw [matchesFile, isMatch, hslashes, hpattern, List.append_cons] at h
  obtain ⟨rest, hrest, -⟩ := piecesMatch_front hall h
  exact ⟨rest, by rw [hrest, ← List.append_cons]⟩

/-- Below the root there is a single slash. -/
theorem rootOf_join_slash {ns : List String} (hne : ns ≠ []) (h : ∀ n ∈ ns, Path.IsProper n) :
    Path.rootOf (Path.join "/" (String.intercalate "/" ns)) = "/" := by
  obtain ⟨c, rest, hlist, hc⟩ := Path.head_intercalate hne h
  refine @Path.rootOf_eq_slash _ _ rest ?_ hc
  rw [Path.join, if_neg (by rw [Path.isAbsolute_intercalate h]; exact Bool.false_ne_true),
    if_pos (by decide), String.toList_append, hlist]
  rfl

/-- Disks on which no name holds a backslash. -/
def Backslashless (disk : Disk) : Prop :=
  ∀ place, (disk.fileAt? place).isSome = true → ∀ n ∈ place, '\\' ∉ n.toList

section

variable (hd : disk.WellFormed) (hnames : Backslashless disk)
  (habsolute : Path.isAbsolute pattern = true) (hslashes : normalizeSlashes pattern = pattern)
  (htoken : hasToken pattern = true)

include hd hnames habsolute hslashes htoken

/-- What a walk finds and a glob matches is the path of a file. -/
theorem file_of_walk (hroot : Path.rootOf pattern = "/")
    (hwalk : f ∈ (disk.walk (walkRoot pattern)).map Path.normalize)
    (hmatch : matchesFile pattern f = true) :
    ∃ place, f = Path.ofPlace place ∧ (disk.fileAt? place).isSome = true := by
  obtain ⟨raw, hraw, rfl⟩ := List.mem_map.1 hwalk
  obtain ⟨start, rest, hstart, hdirectory, hfile, rfl⟩ := mem_walk.1 hraw
  obtain ⟨g, hg⟩ := Option.isSome_iff_exists.1 hfile
  have hall : ∀ n ∈ start ++ rest, Path.IsProper n := hd.proper hg
  have hproper : ∀ n ∈ rest, Path.IsProper n := fun n hn =>
    hall n (List.mem_append_right start hn)
  have hrest : rest ≠ [] := by
    rintro rfl
    rw [List.append_nil] at hg
    rw [hd.apart hg] at hdirectory
    cases hdirectory
  obtain ⟨front, more, hpattern, hwalkRoot, hfixed⟩ := walkRoot_eq habsolute hslashes htoken
  have hrooted : Path.isAbsolute (walkRoot pattern) = true := by
    rw [hwalkRoot]
    split
    · rfl
    · rename_i hfront
      obtain ⟨c, rest, rfl⟩ := List.exists_cons_of_ne_nil hfront
      simpa [Path.isAbsolute, hpattern] using habsolute
  have hjoined := Path.isAbsolute_join hrooted (String.intercalate "/" rest)
  have hplace := Path.place_join_proper hrooted hrest hproper
  rw [← Disk.locate_place hrooted hstart] at hplace
  refine ⟨start ++ rest, ?_, hfile⟩
  rcases Path.rootOf_absolute hjoined with hsingle | hdouble
  · rw [Path.normalize_eq_ofPlace hsingle hjoined, hplace]
  -- A path with two slashes at its root is not matched, unless the walk starts at the root itself.
  exfalso
  have hnormal := Path.normalize_eq_root hjoined
  rw [hdouble, hplace] at hnormal
  obtain ⟨t, hstarts⟩ := starts_of_match hslashes hpattern hfixed hmatch
  obtain ⟨c, tail, hlist, hc⟩ := @Path.head_intercalate (start ++ rest) (by simp [hrest]) hall
  rw [hnormal, normalizeSlashes_ofPlace (by decide) (hnames _ hfile), String.toList_append, hlist,
    show "//".toList = ['/', '/'] by decide] at hstarts
  have hatRoot (h : walkRoot pattern = "/") : False := by
    rw [h, rootOf_join_slash hrest hproper] at hdouble
    exact absurd hdouble (by decide)
  rcases front with _ | ⟨x, _ | ⟨y, _ | ⟨z, fixed⟩⟩⟩ <;>
    simp only [List.cons_append, List.nil_append, List.cons.injEq] at hstarts
  · exact hatRoot hwalkRoot
  · obtain ⟨rfl, -⟩ := hstarts
    exact hatRoot hwalkRoot
  · exact hc hstarts.2.2.1
  · obtain ⟨rfl, rfl, rfl, -⟩ := hstarts
    rw [Path.rootOf, hpattern] at hroot
    simp [hc] at hroot

/-- A file that a glob matches is found by the walk. -/
theorem mem_walk_of_match (hfile : (disk.fileAt? place).isSome = true)
    (hmatch : matchesFile pattern (Path.ofPlace place) = true) :
    Path.ofPlace place ∈ (disk.walk (walkRoot pattern)).map Path.normalize := by
  obtain ⟨g, hg⟩ := Option.isSome_iff_exists.1 hfile
  have hproper := hd.proper hg
  have hne : place ≠ [] := by
    rintro rfl
    have := hd.apart hg
    cases this
  obtain ⟨c, tail, hlist, hc⟩ := Path.head_intercalate hne hproper
  obtain ⟨front, more, hpattern, hwalkRoot, hfixed⟩ := walkRoot_eq habsolute hslashes htoken
  obtain ⟨t, hstarts⟩ := starts_of_match hslashes hpattern hfixed hmatch
  rw [Path.ofPlace, normalizeSlashes_ofPlace (by decide) (hnames _ hfile), ← Path.ofPlace]
    at hstarts
  -- The names before the walk and behind its root are those of the file.
  obtain ⟨before, rest, hbefore, hrest, rfl⟩ : ∃ before rest,
      Path.names (String.ofList front) = "" :: before ∧ Path.names (String.ofList t) = rest ∧
        place = before ++ rest := by
    have hparts : Path.ofPlace place = String.ofList front ++ "/" ++ String.ofList t := by
      rw [← String.toList_inj, hstarts]
      simp [String.toList_append]
    have hsplit := Path.names_ofPlace hne hproper
    rw [hparts, Path.names_append] at hsplit
    obtain ⟨first, before, hfirst⟩ :=
      List.exists_cons_of_ne_nil (Path.names_ne_nil (String.ofList front))
    rw [hfirst, List.cons_append] at hsplit
    obtain ⟨hfirstEmpty, hsplit⟩ := List.cons.inj hsplit
    exact ⟨before, _, hfirstEmpty ▸ hfirst, rfl, hsplit.symm⟩
  have hbeforeProper : ∀ n ∈ before, Path.IsProper n := fun n hn =>
    hproper n (List.mem_append_left rest hn)
  have hrestNe : rest ≠ [] := hrest ▸ Path.names_ne_nil _
  have hrestProper : ∀ n ∈ rest, Path.IsProper n := fun n hn =>
    hproper n (List.mem_append_right before hn)
  -- The walk starts at the path of the names before it.
  obtain ⟨hnormal, hrootPlace, hsingle⟩ : Path.IsNormal (walkRoot pattern) ∧
      Path.place (walkRoot pattern) = before ∧
      Path.rootOf (Path.join (walkRoot pattern) (String.intercalate "/" rest)) = "/" := by
    rw [hwalkRoot]
    split
    · rename_i hfront
      rw [hfront] at hbefore
      obtain rfl : before = [] := by simpa using (List.cons.inj hbefore).2.symm
      obtain ⟨hnormal, hplace⟩ := @Path.isNormal_ofPlace [] fun _ h => by cases h
      exact ⟨hnormal, hplace, rootOf_join_slash hrestNe hrestProper⟩
    · rename_i hfront
      obtain ⟨fixed, rfl⟩ : ∃ fixed, front = '/' :: c :: fixed := by
        rw [Path.ofPlace, String.toList_append, hlist, show "/".toList = ['/'] by decide] at hstarts
        rcases front with _ | ⟨x, _ | ⟨y, fixed⟩⟩ <;>
          simp only [List.cons_append, List.nil_append, List.cons.injEq] at hstarts
        · exact absurd rfl hfront
        · exact absurd hstarts.2.1 hc
        · exact ⟨fixed, by rw [← hstarts.1, ← hstarts.2.1]⟩
      have hplace : Path.place (String.ofList ('/' :: c :: fixed)) = before := by
        rw [Path.place, hbefore]
        exact Path.solid_of_proper hbeforeProper
      refine ⟨⟨by simp [Path.isAbsolute], ⟨[""], by rw [hbefore, hplace]; rfl, ?_⟩, ?_⟩, hplace, ?_⟩
      · exact fun n hn => List.mem_singleton.1 hn
      · rw [hplace]
        exact hbeforeProper
      · obtain ⟨behind, hjoined⟩ := Path.toList_join (String.ofList ('/' :: c :: fixed))
          (Path.isAbsolute_intercalate hrestProper)
        rw [String.toList_ofList] at hjoined
        exact Path.rootOf_eq_slash hjoined hc
  have hplace : disk.locate (walkRoot pattern) = .ok before := by
    refine (Disk.locate_normal hnormal).2 ⟨hrootPlace.symm, fun q hq hqne => ?_⟩
    refine hd.parents hg (hq.trans (List.prefix_append before rest)) fun h => hqne ?_
    exact hq.eq_of_length_le (by rw [h, List.length_append]; exact Nat.le_add_right ..)
  have hdirectory : disk.isDirectory before = true :=
    hd.parents hg (List.prefix_append before rest) (by simpa using hrestNe)
  have hjoined := Path.isAbsolute_join hnormal.absolute (String.intercalate "/" rest)
  refine List.mem_map.2 ⟨_, mem_walk.2 ⟨before, rest, hplace, hdirectory, hfile, rfl⟩, ?_⟩
  rw [Path.normalize_eq_ofPlace hsingle hjoined,
    Path.place_join_proper hnormal.absolute hrestNe hrestProper,
    ← Disk.locate_place hnormal.absolute hplace]

end

/-! ## The files that patterns name -/

/-- Whether an absolute pattern names the file of a place: one with tokens matches its path, any
other leads there. -/
def NamesFile (disk : Disk) (pattern : String) (place : Place) : Prop :=
  (hasToken pattern = true ∧ matchesFile pattern (Path.ofPlace place) = true) ∨
    (hasToken pattern = false ∧ disk.locate pattern = .ok place)

theorem mem_filesOf_iff (hd : disk.WellFormed) (hnames : Backslashless disk)
    (habsolute : Path.isAbsolute pattern = true) (hslashes : normalizeSlashes pattern = pattern)
    (hroot : Path.rootOf pattern = "/") : f ∈ filesOf disk pattern ↔ ∃ place,
      f = Path.ofPlace place ∧ (disk.fileAt? place).isSome = true ∧
        NamesFile disk pattern place := by
  rw [filesOf]
  cases htoken : hasToken pattern with
  | true =>
    rw [if_pos rfl, List.mem_filter]
    constructor
    · rintro ⟨hwalk, hmatch⟩
      obtain ⟨place, rfl, hfile⟩ :=
        file_of_walk hd hnames habsolute hslashes htoken hroot hwalk hmatch
      exact ⟨place, rfl, hfile, .inl ⟨htoken, hmatch⟩⟩
    · rintro ⟨place, rfl, hfile, ⟨-, hmatch⟩ | ⟨hplain, -⟩⟩
      · exact ⟨mem_walk_of_match hd hnames habsolute hslashes htoken hfile hmatch, hmatch⟩
      · rw [htoken] at hplain
        cases hplain
  | false =>
    rw [if_neg Bool.false_ne_true]
    have hisFile : disk.isFile pattern = true ↔ ∃ place, disk.locate pattern = .ok place ∧
        (disk.fileAt? place).isSome = true := by
      rw [Disk.isFile]
      constructor
      · intro h
        cases hfile : disk.file pattern with
        | error fault =>
          rw [hfile] at h
          cases h
        | ok g =>
          obtain ⟨place, hplace, hg⟩ := Disk.file_ok.1 hfile
          exact ⟨place, hplace, by rw [hg]; rfl⟩
      · rintro ⟨place, hplace, hg⟩
        obtain ⟨g, hg⟩ := Option.isSome_iff_exists.1 hg
        rw [Disk.file_ok.2 ⟨place, hplace, hg⟩]
        rfl
    have hnormal {place : Place} (hplace : disk.locate pattern = .ok place) :
        Path.normalize pattern = Path.ofPlace place := by
      rw [Path.normalize_eq_ofPlace hroot habsolute, ← Disk.locate_place habsolute hplace]
    constructor
    · intro hf
      split at hf
      · rename_i h
        obtain ⟨place, hplace, hfile⟩ := hisFile.1 h
        obtain rfl := List.mem_singleton.1 hf
        exact ⟨place, hnormal hplace, hfile, .inr ⟨htoken, hplace⟩⟩
      · cases hf
    · rintro ⟨place, rfl, hfile, ⟨htrue, -⟩ | ⟨-, hplace⟩⟩
      · rw [htoken] at htrue
        cases htrue
      · rw [if_pos (hisFile.2 ⟨place, hplace, hfile⟩), hnormal hplace]
        exact List.mem_singleton_self _

/-- A pattern in normal form without tokens names no file but the one whose path it is. -/
theorem locate_iff_of_normal (hd : disk.WellFormed) (habsolute : Path.isAbsolute pattern = true)
    (hroot : Path.rootOf pattern = "/") (hnormal : Path.normalize pattern = pattern)
    (hfile : (disk.fileAt? place).isSome = true) :
    disk.locate pattern = .ok place ↔ pattern = Path.ofPlace place := by
  obtain ⟨g, hg⟩ := Option.isSome_iff_exists.1 hfile
  constructor
  · intro hplace
    rw [← hnormal, Path.normalize_eq_ofPlace hroot habsolute,
      ← Disk.locate_place habsolute hplace]
  · rintro rfl
    obtain ⟨hpath, hplace⟩ := Path.isNormal_ofPlace (hd.proper hg)
    exact (Disk.locate_normal hpath).2 ⟨hplace.symm, fun q hq hne => hd.parents hg hq hne⟩

/-- Patterns name, in strictly increasing order, exactly the paths of those files that an absolute
pattern taking files in names and none taking files out matches, as long as no absolute pattern
starts with just two slashes. A pattern without tokens leads to its file, which in normal form it
does only as the path of the file. Neither the order of patterns nor how often one is given
matters. -/
theorem resolve_exact (hd : disk.WellFormed) (hnames : Backslashless disk) {cwd base : String}
    (hcwd : Path.isAbsolute cwd = true) {patterns : List String}
    (hroot : ∀ q ∈ included (Path.absolute cwd base) patterns, Path.rootOf q = "/") :
    ((resolve disk cwd base patterns).Pairwise fun a b => Sorted.stringLt a b = true) ∧
      (∀ f, f ∈ resolve disk cwd base patterns ↔ ∃ place, f = Path.ofPlace place ∧
        (disk.fileAt? place).isSome = true ∧
        (∃ q ∈ included (Path.absolute cwd base) patterns, NamesFile disk q place) ∧
        excludes (Path.absolute cwd base) patterns f = false) ∧
      (∀ q ∈ included (Path.absolute cwd base) patterns, ∀ place,
        Path.normalize q = q → (disk.fileAt? place).isSome = true →
          (disk.locate q = .ok place ↔ q = Path.ofPlace place)) ∧
      ∀ patterns' : List String, (∀ p, p ∈ patterns' ↔ p ∈ patterns) →
        resolve disk cwd base patterns' = resolve disk cwd base patterns := by
  have hplain : ∀ q ∈ included (Path.absolute cwd base) patterns,
      Path.isAbsolute q = true ∧ normalizeSlashes q = q := by
    intro q hq
    obtain ⟨p, -, hqp⟩ := List.mem_flatMap.1 hq
    obtain ⟨x, -, rfl⟩ := List.mem_map.1 hqp
    exact ⟨isAbsolute_absolutePattern (Path.isNormal_absolute hcwd _).absolute x,
      normalizeSlashes_idem _⟩
  refine ⟨pairwise_resolve .., fun f => ?members, fun q hq place hnormal hfile => ?normal,
    fun patterns' hsame => ?order⟩
  case members =>
    rw [mem_resolve]
    constructor
    · rintro ⟨⟨q, hq, hf⟩, hin⟩
      obtain ⟨place, hplace, hfile, hnamed⟩ :=
        (mem_filesOf_iff hd hnames (hplain q hq).1 (hplain q hq).2 (hroot q hq)).1 hf
      exact ⟨place, hplace, hfile, ⟨q, hq, hnamed⟩, hin⟩
    · rintro ⟨place, hplace, hfile, ⟨q, hq, hnamed⟩, hin⟩
      exact ⟨⟨q, hq, (mem_filesOf_iff hd hnames (hplain q hq).1 (hplain q hq).2
        (hroot q hq)).2 ⟨place, hplace, hfile, hnamed⟩⟩, hin⟩
  case normal => exact locate_iff_of_normal hd (hplain q hq).1 (hroot q hq) hnormal hfile
  case order =>
    refine Sorted.eq_of_mem_iff Sorted.strict_stringLt (pairwise_resolve ..)
      (pairwise_resolve ..) fun f => ?_
    have hincluded : ∀ q, q ∈ included (Path.absolute cwd base) patterns' ↔
        q ∈ included (Path.absolute cwd base) patterns := fun q => by
      simp only [included, List.mem_flatMap, List.mem_filter, hsame]
    have hexcludes : excludes (Path.absolute cwd base) patterns' f =
        excludes (Path.absolute cwd base) patterns f := by
      rw [excludes, excludes, Bool.eq_iff_iff, List.any_eq_true, List.any_eq_true]
      simp only [List.mem_flatMap, List.mem_filter, hsame]
    simp only [mem_resolve, hincluded, hexcludes]

/-! ## A directory with three files -/

namespace ThreeFiles

def tree : Disk where
  files := [(["p", "b.html"], ⟨[], 1⟩), (["p", "a", "x.html"], ⟨[], 1⟩), (["p", "c.txt"], ⟨[], 1⟩)]
  directories := [["p"], ["p", "a"]]
  clock := 9

theorem wellFormed : tree.WellFormed := .of_files (by decide)

theorem backslashless : Backslashless tree := by
  intro place hfile
  obtain ⟨g, hg⟩ := isSome_fileAt?.1 hfile
  exact (by decide : ∀ entry ∈ tree.files, ∀ n ∈ entry.1, '\\' ∉ n.toList) _ hg

theorem resolve_exact_html :
    let patterns := ["*.\x7btxt,html\x7d", "!b*", "**/x.html", "*.html"]
    tree.WellFormed ∧ Backslashless tree ∧
      (∀ q ∈ included (Path.absolute "/p" "") patterns, Path.rootOf q = "/") ∧
      resolve tree "/p" "" patterns = ["/p/a/x.html", "/p/c.txt"] ∧
      ∀ f, f ∈ resolve tree "/p" "" patterns ↔ ∃ place, f = Path.ofPlace place ∧
        (tree.fileAt? place).isSome = true ∧
        (∃ q ∈ included (Path.absolute "/p" "") patterns, NamesFile tree q place) ∧
        excludes (Path.absolute "/p" "") patterns f = false := by
  intro patterns
  have hroot : ∀ q ∈ included (Path.absolute "/p" "") patterns, Path.rootOf q = "/" := by
    decide +kernel
  exact ⟨wellFormed, backslashless, hroot, by decide +kernel,
    (resolve_exact wellFormed backslashless rfl hroot).2.1⟩

/-- Backslashes become slashes after a pattern is made absolute, so a step up may stay in it. The
pattern leads to a file then, though it is not the path of that file. -/
theorem resolve_step_up :
    included (Path.absolute "/p" "") ["a\\..\\b.html"] = ["/p/a/../b.html"] ∧
      hasToken "/p/a/../b.html" = false ∧ "/p/b.html" ≠ "/p/a/../b.html" ∧
      resolve tree "/p" "" ["a\\..\\b.html"] = ["/p/b.html"] := by
  decide +kernel

end ThreeFiles

end Glob

end StylePrune
