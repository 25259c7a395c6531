import Mathlib.Data.List.Basic
import StylePrune.Path

/-!
# Where paths lead

The names of a joined path are the names of its parts (`names_append`), so the place that a path
without steps up leads to can be read off its text (`Path.place`). A normal absolute path is plain:
it takes no steps up, and all its names are proper (`isNormal_normalize`).
-/

namespace StylePrune

/-! ## Parts between separators -/

theorem splitOn_append (s : Char) (xs ys : List Char) :
    splitOn s (xs ++ s :: ys) = splitOn s xs ++ splitOn s ys := by
  induction xs with
  | nil =>
    conv => lhs; rw [List.nil_append, splitOn, if_pos rfl]
    rfl
  | cons c xs ih =>
    rw [List.cons_append, splitOn, splitOn, ih]
    split
    · rfl
    · cases hx : splitOn s xs with
      | nil =>
        cases xs with
        | nil => cases hx
        | cons d ds =>
          exfalso
          rw [splitOn] at hx
          split at hx
          · cases hx
          · split at hx <;> cases hx
      | cons part more => rfl

theorem splitOn_of_notMem {s : Char} {xs : List Char} (h : s ∉ xs) : splitOn s xs = [xs] := by
  induction xs with
  | nil => rfl
  | cons c xs ih =>
    obtain ⟨hc, hxs⟩ := List.ne_and_not_mem_of_not_mem_cons h
    rw [splitOn, if_neg (Ne.symm hc), ih hxs]

theorem notMem_of_mem_splitOn {s : Char} {xs part : List Char} (h : part ∈ splitOn s xs) :
    s ∉ part := by
  induction xs generalizing part with
  | nil =>
    obtain rfl := List.mem_singleton.1 h
    exact List.not_mem_nil
  | cons c xs ih =>
    rw [splitOn] at h
    split at h
    · rcases List.mem_cons.1 h with rfl | h
      · exact List.not_mem_nil
      · exact ih h
    · rename_i hc
      split at h
      · rename_i first more hx
        rcases List.mem_cons.1 h with rfl | h
        · exact List.not_mem_cons_of_ne_of_not_mem (Ne.symm hc) (ih (hx ▸ List.mem_cons_self))
        · exact ih (hx ▸ List.mem_cons_of_mem _ h)
      · obtain rfl := List.mem_singleton.1 h
        exact List.not_mem_cons_of_ne_of_not_mem (Ne.symm hc) List.not_mem_nil

theorem mem_of_mem_splitOn {s c : Char} {xs part : List Char} (h : part ∈ splitOn s xs)
    (hc : c ∈ part) : c ∈ xs := by
  induction xs generalizing part with
  | nil =>
    obtain rfl := List.mem_singleton.1 h
    cases hc
  | cons d xs ih =>
    rw [splitOn] at h
    split at h
    · rcases List.mem_cons.1 h with rfl | h
      · cases hc
      · exact List.mem_cons_of_mem d (ih h hc)
    · split at h
      · rename_i first more hx
        rcases List.mem_cons.1 h with rfl | h
        · rcases List.mem_cons.1 hc with rfl | hc
          · exact List.mem_cons_self
          · exact List.mem_cons_of_mem d (ih (hx ▸ List.mem_cons_self) hc)
        · exact List.mem_cons_of_mem d (ih (hx ▸ List.mem_cons_of_mem _ h) hc)
      · obtain rfl := List.mem_singleton.1 h
        exact List.mem_singleton.1 hc ▸ List.mem_cons_self

theorem splitOn_ne_nil (s : Char) (xs : List Char) : splitOn s xs ≠ [] := by
  cases xs with
  | nil => exact List.cons_ne_nil _ _
  | cons c xs =>
    rw [splitOn]
    split
    · exact List.cons_ne_nil _ _
    · split <;> exact List.cons_ne_nil _ _

/-- A text has one part more than separators. -/
theorem length_splitOn (s : Char) (xs : List Char) : (splitOn s xs).length = 1 + xs.count s := by
  induction xs with
  | nil => rfl
  | cons c xs ih =>
    obtain ⟨part, more, hparts⟩ := List.exists_cons_of_ne_nil (splitOn_ne_nil s xs)
    rw [splitOn, List.count_cons]
    split
    · rename_i hc
      rw [List.length_cons, ih, hc, beq_self_eq_true, if_pos rfl, Nat.add_assoc]
    · rename_i hc
      rw [hparts] at ih ⊢
      rw [List.length_cons, ← List.length_cons, ih, beq_eq_false_iff_ne.2 hc, if_neg Bool.false_ne_true]
      rfl

/-- Joined again, the parts of a text are the text. -/
theorem intercalate_splitOn (s : Char) (xs : List Char) :
    List.intercalate [s] (splitOn s xs) = xs := by
  induction xs with
  | nil => rfl
  | cons c xs ih =>
    obtain ⟨part, more, hparts⟩ := List.exists_cons_of_ne_nil (splitOn_ne_nil s xs)
    rw [splitOn]
    rw [hparts] at ih ⊢
    split
    · rename_i hc
      rw [hc, List.intercalate_cons_cons, ih]
      rfl
    · cases more with
      | nil => rw [← ih]; rfl
      | cons next more =>
        rw [List.intercalate_cons_cons] at ih ⊢
        rw [← ih]
        rfl

namespace Path

theorem names_append (a b : String) : names (a ++ "/" ++ b) = names a ++ names b := by
  have hlist : (a ++ "/" ++ b).toList = a.toList ++ '/' :: b.toList := by
    simp [String.toList_append]
  rw [names, names, names, splitString, splitString, splitString, hlist, splitOn_append,
    List.map_append]

theorem names_of_notMem {name : String} (h : '/' ∉ name.toList) : names name = [name] := by
  rw [names, splitString, splitOn_of_notMem h, List.map_singleton, String.ofList_toList]

theorem notMem_of_mem_names {path name : String} (h : name ∈ names path) : '/' ∉ name.toList := by
  obtain ⟨part, hpart, rfl⟩ := List.mem_map.1 h
  rw [String.toList_ofList]
  exact notMem_of_mem_splitOn hpart

theorem names_intercalate {ns : List String} (hns : ns ≠ []) (h : ∀ n ∈ ns, '/' ∉ n.toList) :
    names (String.intercalate "/" ns) = ns := by
  induction ns with
  | nil => exact absurd rfl hns
  | cons n rest ih =>
    obtain ⟨hn, hrest⟩ := List.forall_mem_cons.1 h
    cases rest with
    | nil => rw [String.intercalate_singleton, names_of_notMem hn]
    | cons m rest =>
      rw [String.intercalate_cons_cons, names_append, names_of_notMem hn,
        ih (List.cons_ne_nil m rest) hrest, List.singleton_append]

/-! ## Places -/

/-- Names without the neutral ones. -/
def solid (ns : List String) : List String := ns.filter fun n => !isNeutral n

/-- The place that a path leads to if it takes no steps up. -/
def place (path : String) : List String := solid (names path)

/-- A name that a file or directory can have. -/
structure IsProper (name : String) : Prop where
  notNeutral : isNeutral name = false
  notUp : name ≠ ".."
  noSlash : '/' ∉ name.toList

instance (name : String) : Decidable (IsProper name) :=
  decidable_of_iff (isNeutral name = false ∧ name ≠ ".." ∧ '/' ∉ name.toList)
    ⟨fun h => ⟨h.1, h.2.1, h.2.2⟩, fun h => ⟨h.notNeutral, h.notUp, h.noSlash⟩⟩

theorem solid_append (ms ns : List String) : solid (ms ++ ns) = solid ms ++ solid ns :=
  List.filter_append ..

theorem solid_of_proper {ns : List String} (h : ∀ n ∈ ns, IsProper n) : solid ns = ns := by
  rw [solid, List.filter_eq_self]
  intro n hn
  rw [(h n hn).notNeutral]
  rfl

theorem solid_of_neutral {ns : List String} (h : ∀ n ∈ ns, isNeutral n = true) : solid ns = [] := by
  rw [solid, List.filter_eq_nil_iff]
  intro n hn
  rw [h n hn]
  decide

theorem place_append (a b : String) : place (a ++ "/" ++ b) = place a ++ place b := by
  rw [place, names_append, solid_append]
  rfl

theorem place_of_proper {ns : List String} (h : ∀ n ∈ ns, IsProper n) :
    place (String.intercalate "/" ns) = ns := by
  cases ns with
  | nil => rw [String.intercalate_nil]; decide
  | cons n rest =>
    rw [place, names_intercalate (List.cons_ne_nil n rest) fun m hm => (h m hm).noSlash,
      solid_of_proper h]

theorem ends_slash {directory : String} (h : directory.toList.getLast? = some '/') :
    ∃ d, directory = d ++ "/" := by
  obtain ⟨front, hfront⟩ := List.getLast?_eq_some_iff.1 h
  refine ⟨String.ofList front, ?_⟩
  rw [← String.toList_inj, hfront, String.toList_append, String.toList_ofList]
  rfl

theorem names_join (directory : String) {path : String} (h : isAbsolute path = false) :
    ∃ front, names (join directory path) = front ++ names path ∧
      solid front = place directory ∧ ∀ n ∈ front, n ∈ names directory := by
  rw [join, if_neg (by rw [h]; decide)]
  by_cases hempty : directory = ""
  · refine ⟨[], ?_, ?_, fun n hn => by cases hn⟩
    · rw [hempty, if_pos (by decide), String.empty_append]
      rfl
    · rw [hempty]
      decide
  by_cases hslash : directory.toList.getLast? = some '/'
  · obtain ⟨d, rfl⟩ := ends_slash hslash
    refine ⟨names d, ?_, ?_, fun n hn => ?_⟩
    · rw [if_pos (by rw [hslash]; simp), names_append]
    · rw [show d ++ "/" = d ++ "/" ++ "" from (String.append_empty).symm, place_append]
      exact (List.append_nil _).symm
    · rw [show d ++ "/" = d ++ "/" ++ "" from (String.append_empty).symm, names_append]
      exact List.mem_append_left _ hn
  · refine ⟨names directory, ?_, rfl, fun n hn => hn⟩
    rw [if_neg (by simp [hempty, hslash]), names_append]

theorem isAbsolute_join {directory : String} (h : isAbsolute directory = true) (path : String) :
    isAbsolute (join directory path) = true := by
  rw [join]
  split
  · assumption
  · have hhead : directory.toList.head? = some '/' := by simpa [isAbsolute] using h
    obtain ⟨rest, hrest⟩ := List.head?_eq_some_iff.1 hhead
    split <;> simp [isAbsolute, String.toList_append, hrest]

/-! ## Normal paths -/

/-- An absolute path in which only empty names and then proper ones stand. -/
structure IsNormal (path : String) : Prop where
  absolute : isAbsolute path = true
  names : ∃ lead, names path = lead ++ place path ∧ ∀ n ∈ lead, n = ""
  proper : ∀ n ∈ place path, IsProper n

theorem IsNormal.noUp {path : String} (h : IsNormal path) : ".." ∉ Path.names path := by
  obtain ⟨lead, hnames, hlead⟩ := h.names
  rw [hnames]
  intro hmem
  rcases List.mem_append.1 hmem with hmem | hmem
  · exact absurd (hlead _ hmem) (by decide)
  · exact (h.proper _ hmem).notUp rfl

/-- What starts a normal form. -/
theorem rootOf_absolute {path : String} (h : isAbsolute path = true) :
    rootOf path = "/" ∨ rootOf path = "//" := by
  have hhead : path.toList.head? = some '/' := by simpa [isAbsolute] using h
  obtain ⟨rest, hrest⟩ := List.head?_eq_some_iff.1 hhead
  rw [rootOf, hrest]
  split
  · exact .inl rfl
  · exact .inr rfl
  · exact .inl rfl
  · rename_i hne
    exact absurd rfl (hne rest)

/-- Proper names behind the root of an absolute path. -/
theorem isNormal_rooted {path : String} {ns : List String} (h : isAbsolute path = true)
    (hns : ∀ n ∈ ns, IsProper n) :
    IsNormal (nonEmpty (rootOf path ++ String.intercalate "/" ns)) ∧
      place (nonEmpty (rootOf path ++ String.intercalate "/" ns)) = ns := by
  obtain ⟨root, hroot, hnames, hlist⟩ : ∃ root, rootOf path = root ++ "/" ∧
      (∀ n ∈ names root, n = "") ∧ (rootOf path).toList.head? = some '/' := by
    rcases rootOf_absolute h with hroot | hroot
    · exact ⟨"", hroot, by decide, by rw [hroot]; decide⟩
    · exact ⟨"/", hroot, by decide, by rw [hroot]; decide⟩
  obtain ⟨rest, hrest⟩ := List.head?_eq_some_iff.1 hlist
  have hne : rootOf path ++ String.intercalate "/" ns ≠ "" := by
    rw [ne_eq, ← String.toList_inj, String.toList_append, hrest]
    exact List.cons_ne_nil _ _
  have hleading : solid (names root) = [] := solid_of_neutral fun n hn => by
    rw [hnames n hn]
    decide
  have hplace : place (nonEmpty (rootOf path ++ String.intercalate "/" ns)) = ns := by
    rw [nonEmpty, if_neg hne, hroot, place_append, place_of_proper hns, place, hleading,
      List.nil_append]
  refine ⟨⟨?_, ?_, by rw [hplace]; exact hns⟩, hplace⟩
  · simp [isAbsolute, nonEmpty, hne, String.toList_append, hrest]
  · rw [hplace, nonEmpty, if_neg hne, hroot, names_append]
    cases ns with
    | nil =>
      refine ⟨names root ++ [""], by rw [List.append_nil]; rfl, fun n hn => ?_⟩
      rcases List.mem_append.1 hn with hn | hn
      · exact hnames n hn
      · exact List.mem_singleton.1 hn
    | cons n more =>
      exact ⟨names root, by rw [names_intercalate (List.cons_ne_nil n more) fun m hm =>
        (hns m hm).noSlash], hnames⟩

theorem proper_keepName {kept : List String} {name : String} (hkept : ∀ n ∈ kept, IsProper n)
    (hname : '/' ∉ name.toList) : ∀ n ∈ keepName true kept name, IsProper n := by
  unfold keepName
  split
  · exact hkept
  split
  · split
    · exact fun n hn => by cases hn
    · obtain ⟨hlast, hrest⟩ := List.forall_mem_cons.1 hkept
      rw [if_neg hlast.notUp]
      exact hrest
  · rename_i hneutral hup
    exact List.forall_mem_cons.2 ⟨⟨Bool.eq_false_iff.2 hneutral, hup, hname⟩, hkept⟩

theorem proper_foldl {ns kept : List String} (hkept : ∀ n ∈ kept, IsProper n)
    (hns : ∀ n ∈ ns, '/' ∉ n.toList) : ∀ n ∈ ns.foldl (keepName true) kept, IsProper n := by
  induction ns generalizing kept with
  | nil => exact hkept
  | cons m rest ih =>
    obtain ⟨hm, hrest⟩ := List.forall_mem_cons.1 hns
    exact ih (proper_keepName hkept hm) hrest

theorem foldl_keepName {ns : List String} (h : ".." ∉ ns) (kept : List String) :
    ns.foldl (keepName true) kept = (solid ns).reverse ++ kept := by
  induction ns generalizing kept with
  | nil => rfl
  | cons m rest ih =>
    obtain ⟨hm, hrest⟩ := List.ne_and_not_mem_of_not_mem_cons h
    rw [List.foldl_cons, ih hrest, keepName.eq_def]
    by_cases hneutral : isNeutral m = true
    · rw [if_pos hneutral, solid, solid, List.filter_cons_of_neg (by simp [hneutral])]
    · rw [if_neg hneutral, if_neg (Ne.symm hm), solid, solid,
        List.filter_cons_of_pos (by simp [hneutral]), List.reverse_cons, List.append_assoc,
        List.singleton_append]

/-- The normal form of an absolute path, and the place that it leads to. -/
theorem isNormal_normalize {path : String} (h : isAbsolute path = true) :
    IsNormal (normalize path) ∧
      place (normalize path) = ((names path).foldl (keepName true) []).reverse := by
  rw [normalize, h]
  refine isNormal_rooted h fun n hn => ?_
  exact proper_foldl (fun _ h => by cases h) (fun _ hm => notMem_of_mem_names hm) n
    (List.mem_reverse.1 hn)

/-- Without steps up the place stays. -/
theorem place_normalize {path : String} (h : isAbsolute path = true) (hup : ".." ∉ names path) :
    place (normalize path) = place path := by
  rw [(isNormal_normalize h).2, foldl_keepName hup, List.append_nil, List.reverse_reverse]
  rfl

theorem isNormal_absolute {cwd : String} (h : isAbsolute cwd = true) (path : String) :
    IsNormal (absolute cwd path) :=
  (isNormal_normalize (isAbsolute_join h path)).1

/-- The place of a file that is named in a directory. -/
theorem place_absolute_proper {directory name : String} (h : isAbsolute directory = true)
    (hname : IsProper name) : ∃ front, place (absolute directory name) = front ++ [name] ∧
      (IsNormal directory → front = place directory) := by
  have hrelative : isAbsolute name = false := by
    rw [← Bool.not_eq_true, isAbsolute, decide_eq_true_eq, List.head?_eq_some_iff]
    rintro ⟨rest, hrest⟩
    exact hname.noSlash (hrest ▸ List.mem_cons_self)
  obtain ⟨front, hnames, hfront, hmem⟩ := names_join directory hrelative
  rw [names_of_notMem hname.noSlash] at hnames
  have hplace := (isNormal_normalize (isAbsolute_join h name)).2
  rw [hnames, List.foldl_append, List.foldl_cons, List.foldl_nil, keepName.eq_def,
    hname.notNeutral, if_neg Bool.false_ne_true, if_neg hname.notUp, List.reverse_cons] at hplace
  refine ⟨_, hplace, fun hnormal => ?_⟩
  rw [foldl_keepName fun hup => hnormal.noUp (hmem _ hup), List.append_nil, List.reverse_reverse,
    hfront]

/-- The directory of a normal path. -/
theorem isNormal_parent {path : String} (h : IsNormal path) :
    IsNormal (parent path) ∧ place (parent path) = (place path).dropLast :=
  isNormal_rooted h.absolute fun n hn => h.proper n (List.dropLast_subset _ hn)

end Path

end StylePrune
