import StylePrune.Proofs.Disk.Frame

/-!
# Where paths lead on a disk

A place has a path of its own (`Path.ofPlace`), which is the normal form of every path that leads
there from a single slash (`Path.normalize_eq_ofPlace`). A path leads to the place of its normal
form, or nowhere (`locate_place`): names that are not directories may stand on its way, but none of
them leads elsewhere. So paths with one normal form lead to one file, if each leads to one
(`file_eq_of_normalize`).

A path that is joined to a directory is the opening of the directory and the path (`join_relative`).
So the place of a path below a directory is its own place behind that of the directory, and the
normal form of the path keeps the opening as it is (`normalize_below`).
-/

namespace StylePrune

namespace Path

/-- The path of a place. -/
def ofPlace (place : Place) : String := "/" ++ String.intercalate "/" place

variable {path root : String} {ns : List String} {c : Char}

theorem names_ne_nil (path : String) : names path ≠ [] := fun h =>
  splitOn_ne_nil _ _ (List.map_eq_nil_iff.1 h)

theorem names_ofPlace (hne : ns ≠ []) (h : ∀ n ∈ ns, IsProper n) :
    names (ofPlace ns) = "" :: ns := by
  have hparts : ofPlace ns = "" ++ "/" ++ String.intercalate "/" ns := rfl
  rw [hparts, names_append, names_intercalate hne fun n hn => (h n hn).noSlash]
  rfl

theorem isNormal_ofPlace (h : ∀ n ∈ ns, IsProper n) :
    IsNormal (ofPlace ns) ∧ place (ofPlace ns) = ns := by
  have hne : ofPlace ns ≠ "" := by
    rw [ofPlace, ne_eq, ← String.toList_inj, String.toList_append]
    exact List.cons_ne_nil _ _
  have hrooted := isNormal_rooted (show isAbsolute "/" = true from rfl) h
  rwa [nonEmpty, show rootOf "/" ++ String.intercalate "/" ns = ofPlace ns from rfl,
    if_neg hne] at hrooted

/-- The normal form of an absolute path is its root and the names of its place. -/
theorem normalize_eq_root (h : isAbsolute path = true) :
    normalize path = rootOf path ++ String.intercalate "/" (place (normalize path)) := by
  have hne : rootOf path ++ String.intercalate "/" (place (normalize path)) ≠ "" := by
    rw [ne_eq, ← String.toList_inj, String.toList_append]
    rcases rootOf_absolute h with hroot | hroot <;> rw [hroot] <;> exact List.cons_ne_nil _ _
  rw [(isNormal_normalize h).2] at hne ⊢
  rw [normalize, h, nonEmpty, if_neg hne]

/-- The normal form of a path with a single slash at its root is the path of its place. -/
theorem normalize_eq_ofPlace (hroot : rootOf path = "/") (h : isAbsolute path = true) :
    normalize path = ofPlace (place (normalize path)) := by
  conv => lhs; rw [normalize_eq_root h, hroot]
  rfl

theorem rootOf_eq_slash {rest : List Char} (h : path.toList = '/' :: c :: rest) (hc : c ≠ '/') :
    rootOf path = "/" := by
  rw [rootOf, h]
  split
  · rfl
  · rename_i heq
    exact absurd (List.cons.inj (List.cons.inj heq).2).1 hc
  · rfl
  · rename_i hne
    exact absurd rfl (hne _)

/-- The path of proper names is relative. -/
theorem isAbsolute_intercalate (h : ∀ n ∈ ns, IsProper n) :
    isAbsolute (String.intercalate "/" ns) = false := by
  rw [Bool.eq_false_iff]
  intro habsolute
  have hhead : (String.intercalate "/" ns).toList.head? = some '/' := by
    simpa [isAbsolute] using habsolute
  obtain ⟨rest, hrest⟩ := List.head?_eq_some_iff.1 hhead
  have hparts : String.intercalate "/" ns = "" ++ "/" ++ String.ofList rest := by
    rw [← String.toList_inj, hrest]
    simp [String.toList_append]
  have hnames := congrArg names hparts
  cases ns with
  | nil => cases hrest
  | cons n more =>
    rw [names_append, names_intercalate (List.cons_ne_nil n more) fun m hm =>
      (h m hm).noSlash] at hnames
    have hn : n = "" := (List.cons.inj hnames).1
    exact absurd (h n List.mem_cons_self).notNeutral (by rw [hn]; decide)

/-- A path of proper names does not start with a slash, and is not empty. -/
theorem head_intercalate (hne : ns ≠ []) (h : ∀ n ∈ ns, IsProper n) :
    ∃ c rest, (String.intercalate "/" ns).toList = c :: rest ∧ c ≠ '/' := by
  have hrelative : isAbsolute (String.intercalate "/" ns) = false := isAbsolute_intercalate h
  cases hlist : (String.intercalate "/" ns).toList with
  | nil =>
    have hempty : String.intercalate "/" ns = "" := by rw [← String.toList_inj, hlist]; rfl
    have hplace := place_of_proper h
    rw [hempty] at hplace
    exact absurd hplace.symm hne
  | cons c rest =>
    refine ⟨c, rest, rfl, fun hc => ?_⟩
    rw [isAbsolute, hlist, hc] at hrelative
    cases hrelative

theorem foldl_keepName_solid (rooted : Bool) (ns kept : List String) :
    ns.foldl (keepName rooted) kept = (solid ns).foldl (keepName rooted) kept := by
  induction ns generalizing kept with
  | nil => rfl
  | cons n rest ih =>
    rw [List.foldl_cons, ih, solid, solid]
    by_cases hneutral : isNeutral n = true
    · rw [List.filter_cons_of_neg (by simp [hneutral]), keepName.eq_def, if_pos hneutral]
    · rw [List.filter_cons_of_pos (by simp [hneutral]), List.foldl_cons]

/-- Proper names below a root lead on from where it leads. -/
theorem place_join_proper (hroot : isAbsolute root = true) (hne : ns ≠ [])
    (h : ∀ n ∈ ns, IsProper n) :
    place (normalize (join root (String.intercalate "/" ns))) = place (normalize root) ++ ns := by
  obtain ⟨front, hnames, hfront, -⟩ := names_join root (isAbsolute_intercalate h)
  rw [names_intercalate hne fun n hn => (h n hn).noSlash] at hnames
  have hup : ".." ∉ ns := fun hm => (h _ hm).notUp rfl
  have hplace : solid front = solid (names root) := hfront
  rw [(isNormal_normalize (isAbsolute_join hroot _)).2, (isNormal_normalize hroot).2, hnames,
    List.foldl_append, foldl_keepName hup, solid_of_proper h, List.reverse_append,
    List.reverse_reverse, foldl_keepName_solid true front, hplace, ← foldl_keepName_solid]

/-- A relative path below a root starts with the root. -/
theorem toList_join (root : String) (h : isAbsolute path = false) :
    ∃ rest, (join root path).toList = root.toList ++ rest := by
  rw [join, if_neg (by rw [h]; exact Bool.false_ne_true)]
  split
  · exact ⟨path.toList, String.toList_append⟩
  · exact ⟨"/".toList ++ path.toList, by
      rw [String.toList_append, String.toList_append, List.append_assoc]⟩

end Path

namespace Disk

variable {disk : Disk} {path other : String} {here place : Place} {names : List String}
  {fault : DiskFault}

/-- Names lead where their text says, if they lead anywhere. -/
theorem follow_place (hhere : ".." ∉ here) (h : disk.follow here names = .ok place) :
    place = (names.foldl (Path.keepName true) here.reverse).reverse := by
  induction names generalizing here with
  | nil =>
    obtain rfl := Except.ok.inj h
    exact (List.reverse_reverse here).symm
  | cons name rest ih =>
    rw [follow] at h
    split at h
    · cases h
    rw [List.foldl_cons, Path.keepName.eq_def]
    split at h
    · rename_i hneutral
      rw [if_pos hneutral]
      exact ih hhere h
    rename_i hneutral
    rw [if_neg hneutral]
    split at h
    · rename_i hup
      rw [if_pos hup, ih (fun hm => hhere (List.dropLast_subset here hm)) h]
      cases hreverse : here.reverse with
      | nil =>
        rw [List.reverse_eq_nil_iff.1 hreverse]
        rfl
      | cons last before =>
        have hlast : last ≠ ".." := fun e =>
          hhere (List.mem_reverse.1 (hreverse ▸ e ▸ List.mem_cons_self))
        simp only [hlast, if_false]
        rw [← List.tail_reverse, hreverse, List.tail_cons]
    · rename_i hup
      rw [if_neg hup, ih ?_ h, List.reverse_append, List.reverse_singleton, List.singleton_append]
      rw [List.mem_append, List.mem_singleton]
      exact fun hm => hm.elim hhere fun e => hup e.symm

/-- An absolute path leads to the place of its normal form, if it leads anywhere. -/
theorem locate_place (habsolute : Path.isAbsolute path = true) (h : disk.locate path = .ok place) :
    place = Path.place (Path.normalize path) := by
  rw [locate_absolute habsolute] at h
  rw [follow_place List.not_mem_nil h, (Path.isNormal_normalize habsolute).2]
  rfl

theorem follow_error (h : disk.follow here names = .error fault) : fault ≠ .isDirectory := by
  induction names generalizing here with
  | nil => cases h
  | cons name rest ih =>
    rw [follow] at h
    split at h
    · cases h
      rw [blocked]
      split <;> exact DiskFault.noConfusion
    split at h
    · exact ih h
    split at h
    · exact ih h
    · exact ih h

theorem locate_of_status (h : (disk.status? path).isSome = true) :
    ∃ place, disk.locate path = .ok place := by
  cases hplace : disk.locate path with
  | ok place => exact ⟨place, rfl⟩
  | error fault =>
    have hfault : fault ≠ .isDirectory := by
      rw [locate] at hplace
      split at hplace
      · cases hplace
        exact DiskFault.noConfusion
      · exact follow_error hplace
    have hfile : disk.file path = .error fault := by
      rw [file, hplace]
      rfl
    rw [status?, hfile] at h
    cases fault with
    | isDirectory => exact absurd rfl hfault
    | _ => cases h

/-- Paths with one normal form lead to one file, if each leads to a file or directory. -/
theorem file_eq_of_normalize (hpath : Path.isAbsolute path = true)
    (hother : Path.isAbsolute other = true) (h : Path.normalize path = Path.normalize other)
    (hstatus : (disk.status? path).isSome = true) (hstatus' : (disk.status? other).isSome = true) :
    disk.file path = disk.file other := by
  obtain ⟨p, hp⟩ := locate_of_status hstatus
  obtain ⟨q, hq⟩ := locate_of_status hstatus'
  have hplace : p = q := by rw [locate_place hpath hp, h, ← locate_place hother hq]
  rw [file, file, hp, hq, hplace]

end Disk

namespace Path

variable {directory path root x : String} {ns : List String}

/-! ## Roots -/

/-- A relative path leaves the root before it as it is. -/
theorem rootOf_append (hroot : root = "/" ∨ root = "//") (hx : isAbsolute x = false) :
    rootOf (root ++ x) = root := by
  cases hlist : x.toList with
  | nil =>
    rw [String.toList_eq_nil_iff.1 hlist, String.append_empty]
    rcases hroot with rfl | rfl <;> decide
  | cons c rest =>
    have hc : c ≠ '/' := by
      rintro rfl
      rw [isAbsolute, hlist] at hx
      cases hx
    rcases hroot with rfl | rfl <;> simp [rootOf, String.toList_append, hlist, hc]

theorem isAbsolute_append (hx : x ≠ "") (path : String) :
    isAbsolute (x ++ path) = isAbsolute x := by
  obtain ⟨c, rest, hlist⟩ := List.exists_cons_of_ne_nil fun h => hx (String.toList_eq_nil_iff.1 h)
  rw [isAbsolute, isAbsolute, String.toList_append, hlist]
  rfl

theorem proper_place (hup : ".." ∉ names path) : ∀ n ∈ place path, IsProper n := by
  intro n hn
  obtain ⟨hmem, hneutral⟩ := List.mem_filter.1 hn
  exact ⟨by simpa using hneutral, fun h => hup (h ▸ hmem), notMem_of_mem_names hmem⟩

/-! ## Openings -/

/-- The text of a directory that stands before the names in it. -/
def opening (directory : String) : String :=
  if directory = "" || directory.toList.getLast? = some '/' then directory else directory ++ "/"

theorem join_relative (hx : isAbsolute x = false) : join directory x = opening directory ++ x := by
  rw [join, if_neg (by rw [hx]; decide), opening]
  split <;> rfl

theorem place_join (hx : isAbsolute x = false) :
    place (join directory x) = place directory ++ place x := by
  obtain ⟨front, hnames, hfront, -⟩ := names_join directory hx
  rw [place, hnames, solid_append, hfront, place.eq_1 x]

theorem noUp_join (hx : isAbsolute x = false) (hup : ".." ∉ names directory)
    (hxUp : ".." ∉ names x) : ".." ∉ names (join directory x) := by
  obtain ⟨front, hnames, -, hmem⟩ := names_join directory hx
  rw [hnames]
  exact fun h => (List.mem_append.1 h).elim (fun h => hup (hmem _ h)) hxUp

theorem isAbsolute_join_relative (hdirectory : isAbsolute directory = false)
    (hx : isAbsolute x = false) : isAbsolute (join directory x) = false := by
  rw [join_relative hx]
  by_cases hempty : directory = ""
  · rw [hempty]
    exact hx
  · have hopening : ∃ more, opening directory = directory ++ more := by
      rw [opening]
      split
      · exact ⟨"", String.append_empty.symm⟩
      · exact ⟨"/", rfl⟩
    obtain ⟨more, hmore⟩ := hopening
    rw [hmore, String.append_assoc, isAbsolute_append hempty, hdirectory]

theorem isAbsolute_below (h : isAbsolute directory = true) (x : String) :
    isAbsolute (opening directory ++ x) = true := by
  have hhead : directory.toList.head? = some '/' := by simpa [isAbsolute] using h
  obtain ⟨rest, hrest⟩ := List.head?_eq_some_iff.1 hhead
  rw [opening]
  split <;> simp [isAbsolute, String.toList_append, hrest]

theorem exists_opening (hne : directory ≠ "") : ∃ d, opening directory = d ++ "/" ∧
    place d = place directory ∧ ∀ n ∈ names d, n ∈ names directory := by
  rw [opening]
  by_cases hslash : directory.toList.getLast? = some '/'
  · obtain ⟨d, rfl⟩ := ends_slash hslash
    have hd : d ++ "/" = d ++ "/" ++ "" := String.append_empty.symm
    rw [if_pos (by rw [hslash]; simp)]
    refine ⟨d, rfl, ?_, fun n hn => ?_⟩
    · rw [hd, place_append]
      exact (List.append_nil _).symm
    · rw [hd, names_append]
      exact List.mem_append_left _ hn
  · rw [if_neg (by simp [hslash, hne])]
    exact ⟨directory, rfl, rfl, fun n hn => hn⟩

theorem place_below (hne : directory ≠ "") (x : String) :
    place (opening directory ++ x) = place directory ++ place x := by
  obtain ⟨d, hd, hplace, -⟩ := exists_opening hne
  rw [hd, place_append, hplace]

theorem noUp_below (hne : directory ≠ "") (hup : ".." ∉ names directory) (hx : ".." ∉ names x) :
    ".." ∉ names (opening directory ++ x) := by
  obtain ⟨d, hd, -, hmem⟩ := exists_opening hne
  rw [hd, names_append]
  exact fun h => (List.mem_append.1 h).elim (fun h => hup (hmem _ h)) hx

theorem getLast?_below (hne : directory ≠ "") (x : String) :
    (names (opening directory ++ x)).getLast? = (names x).getLast? := by
  obtain ⟨d, hd, -, -⟩ := exists_opening hne
  rw [hd, names_append, List.getLast?_append_of_ne_nil _ (names_ne_nil x)]

/-- What lies below a path below a directory lies below the directory. -/
theorem opening_append (hne : directory ≠ "") (x : String) :
    opening (opening directory ++ x) = opening directory ++ opening x := by
  obtain ⟨d, hd, -, -⟩ := exists_opening hne
  generalize opening directory = front at hd ⊢
  by_cases hx : x = ""
  · rw [hx, String.append_empty, show opening "" = "" from rfl, String.append_empty, hd, opening,
      if_pos (by simp [String.toList_append])]
  · have hlist : x.toList ≠ [] := fun h => hx (String.toList_eq_nil_iff.1 h)
    have hlast : (front ++ x).toList.getLast? = x.toList.getLast? := by
      rw [String.toList_append, List.getLast?_append_of_ne_nil _ hlist]
    have hempty : front ++ x ≠ "" := fun h =>
      hlist (List.append_eq_nil_iff.1 (by rw [← String.toList_append, h]; rfl)).2
    rw [opening, opening, hlast]
    simp only [hempty, hx]
    split
    · rfl
    · exact String.append_assoc

/-! ## Below a normal directory -/

section

variable (habsolute : isAbsolute directory = true) (hnormal : normalize directory = directory)

include habsolute hnormal

theorem isNormal_of_normalize : IsNormal directory := hnormal ▸ (isNormal_normalize habsolute).1

/-- A normal path is its root and the names of its place. -/
theorem eq_root_place :
    directory = rootOf directory ++ String.intercalate "/" (place directory) := by
  have := normalize_eq_root habsolute
  rwa [hnormal] at this

theorem eq_root_of_place (hplace : place directory = []) : directory = rootOf directory := by
  conv => lhs; rw [eq_root_place habsolute hnormal]
  rw [hplace, String.intercalate_nil, String.append_empty]

theorem eq_slash_of_place (hbare : directory ≠ "//") (hplace : place directory = []) :
    directory = "/" := by
  have hdirectory := eq_root_of_place habsolute hnormal hplace
  exact (rootOf_absolute habsolute).elim hdirectory.trans fun h =>
    absurd (hdirectory.trans h) hbare

/-- A normal path with names does not end in a slash. -/
theorem opening_of_place (hplace : place directory ≠ []) :
    opening directory = directory ++ "/" := by
  have hnorm := isNormal_of_normalize habsolute hnormal
  rw [opening, if_neg]
  simp only [Bool.or_eq_true, decide_eq_true_eq]
  rintro (rfl | hslash)
  · cases habsolute
  obtain ⟨d, rfl⟩ := ends_slash hslash
  obtain ⟨lead, hnames, -⟩ := hnorm.names
  have hlast := congrArg List.getLast? hnames
  rw [show d ++ "/" = d ++ "/" ++ "" from String.append_empty.symm] at hlast hplace
  rw [names_append, List.getLast?_append_of_ne_nil _ (names_ne_nil ""),
    List.getLast?_append_of_ne_nil _ hplace] at hlast
  exact (hnorm.proper "" (by
    rw [← String.append_empty (s := d ++ "/")]
    exact List.mem_of_getLast? hlast.symm)).notNeutral |> absurd <| by decide

/-- Names below a normal directory are joined to it in normal form. -/
theorem rooted_append (hns : ns ≠ []) :
    rootOf directory ++ String.intercalate "/" (place directory ++ ns) =
      opening directory ++ String.intercalate "/" ns := by
  by_cases hplace : place directory = []
  · rw [hplace, List.nil_append]
    have hopening : opening (rootOf directory) = rootOf directory := by
      rcases rootOf_absolute habsolute with h | h <;> rw [h] <;> decide
    conv => rhs; rw [eq_root_of_place habsolute hnormal hplace, hopening]
  · rw [String.intercalate_append_of_ne_nil hplace hns, opening_of_place habsolute hnormal hplace]
    conv => rhs; rw [eq_root_place habsolute hnormal]
    simp only [String.append_assoc]

theorem rootOf_below (hbare : directory ≠ "//") (hx : directory = "/" → isAbsolute x = false) :
    rootOf (opening directory ++ x) = rootOf directory := by
  by_cases hplace : place directory = []
  · have hsingle := eq_slash_of_place habsolute hnormal hbare hplace
    rw [hsingle]
    exact rootOf_append (.inl rfl) (hx hsingle)
  · obtain ⟨c, rest, hlist, hc⟩ :=
      head_intercalate hplace (isNormal_of_normalize habsolute hnormal).proper
    have hne : String.intercalate "/" (place directory) ≠ "" := fun h => by
      rw [h] at hlist
      cases hlist
    rw [opening_of_place habsolute hnormal hplace]
    conv => lhs; rw [eq_root_place habsolute hnormal, String.append_assoc, String.append_assoc]
    refine rootOf_append (rootOf_absolute habsolute) ?_
    rw [isAbsolute_append hne]
    exact isAbsolute_intercalate (isNormal_of_normalize habsolute hnormal).proper

theorem normalize_opening (hbare : directory ≠ "//") (hx : directory = "/" → isAbsolute x = false)
    (hup : ".." ∉ names x) : normalize (opening directory ++ x) =
      rootOf directory ++ String.intercalate "/" (place directory ++ place x) := by
  have hdirectory := isNormal_of_normalize habsolute hnormal
  have hne : directory ≠ "" := by
    rintro rfl
    cases habsolute
  have hbelow := isAbsolute_below habsolute x
  rw [normalize_eq_root hbelow, place_normalize hbelow (noUp_below hne hdirectory.noUp hup),
    rootOf_below habsolute hnormal hbare hx, place_below hne]

/-- The normal form of a path below a normal directory. -/
theorem normalize_below (hbare : directory ≠ "//") (hx : directory = "/" → isAbsolute x = false)
    (hup : ".." ∉ names x) (hplace : place x ≠ []) :
    normalize (opening directory ++ x) = join directory (String.intercalate "/" (place x)) := by
  rw [normalize_opening habsolute hnormal hbare hx hup, rooted_append habsolute hnormal hplace,
    join_relative (isAbsolute_intercalate (proper_place hup))]

/-- A path that goes nowhere from a normal directory is that directory. -/
theorem normalize_neutral (hbare : directory ≠ "//") (hx : directory = "/" → isAbsolute x = false)
    (hup : ".." ∉ names x) (hplace : place x = []) :
    normalize (opening directory ++ x) = directory := by
  rw [normalize_opening habsolute hnormal hbare hx hup, hplace, List.append_nil,
    ← eq_root_place habsolute hnormal]

end

end Path

end StylePrune
