import StylePrune.Proofs.Disk.Location
import StylePrune.Proofs.Glob.Exact
import StylePrune.Proofs.Outcome

/-!
# Globs seen from a directory that is moved

The absolute form of a pattern is the opening of the directory and a form that depends on the
pattern alone (`absolutePattern_eq`). A directory without tokens in its path is the same text in
front of the pattern, of the root of the walk and of the files, so that what is matched is the rest
(`mem_filesOf_below`). Then the files below the directory are picked by their paths from there
(`Picks`), and a tree that is moved gives the same ones (`resolve_moved`).
-/

namespace StylePrune

namespace Glob

variable {disk : Disk} {directory pattern p f x : String} {q : Place}

/-! ## The form of a relative pattern -/

/-- The form of a pattern as it stands behind the directory it is seen from. -/
def relativeForm (p : String) : String := normalizeSlashes (String.intercalate "/" (Path.place p))

/-- A relative pattern that takes no step up, whichever way its slashes lean. -/
structure Inner (p : String) : Prop where
  relative : Path.isAbsolute p = false
  noUp : ".." ∉ Path.names (normalizeSlashes p)

instance (p : String) : Decidable (Inner p) :=
  decidable_of_iff (Path.isAbsolute p = false ∧ ".." ∉ Path.names (normalizeSlashes p))
    ⟨fun h => ⟨h.1, h.2⟩, fun h => ⟨h.relative, h.noUp⟩⟩

theorem normalizeSlashes_append (a b : String) :
    normalizeSlashes (a ++ b) = normalizeSlashes a ++ normalizeSlashes b := by
  rw [← String.toList_inj]
  simp [normalizeSlashes, String.toList_map, String.toList_append]

theorem names_normalizeSlashes {ns : List String} (hne : ns ≠ []) :
    Path.names (normalizeSlashes (String.intercalate "/" ns)) =
      ns.flatMap fun n => Path.names (normalizeSlashes n) := by
  induction ns with
  | nil => exact absurd rfl hne
  | cons n rest ih =>
    cases rest with
    | nil => rw [String.intercalate_singleton, List.flatMap_cons, List.flatMap_nil, List.append_nil]
    | cons m rest =>
      rw [String.intercalate_cons_cons, normalizeSlashes_append, normalizeSlashes_append,
        normalizeSlashes_eq_self (show '\\' ∉ "/".toList by decide), Path.names_append,
        ih (List.cons_ne_nil m rest), List.flatMap_cons (x := n)]

theorem intercalate_names (p : String) : String.intercalate "/" (Path.names p) = p := by
  rw [← String.toList_inj, String.toList_intercalate, Path.names, splitString, List.map_map,
    show String.toList ∘ String.ofList = id from funext fun _ => String.toList_ofList, List.map_id]
  exact intercalate_splitOn '/' p.toList

theorem mem_names_normalizeSlashes {name : String} : name ∈ Path.names (normalizeSlashes p) ↔
    ∃ n ∈ Path.names p, name ∈ Path.names (normalizeSlashes n) := by
  conv => lhs; rw [← intercalate_names p, names_normalizeSlashes (Path.names_ne_nil p)]
  exact List.mem_flatMap

theorem Inner.noUp_names (h : Inner p) : ".." ∉ Path.names p := fun hup =>
  h.noUp (mem_names_normalizeSlashes.2 ⟨"..", hup, by
    rw [normalizeSlashes_eq_self (by decide)]
    decide⟩)

theorem Inner.noUp_relativeForm (h : Inner p) : ".." ∉ Path.names (relativeForm p) := by
  rw [relativeForm]
  by_cases hplace : Path.place p = []
  · rw [hplace, String.intercalate_nil, normalizeSlashes_eq_self (by decide)]
    decide
  · rw [names_normalizeSlashes hplace, List.mem_flatMap]
    rintro ⟨n, hn, hup⟩
    exact h.noUp (mem_names_normalizeSlashes.2 ⟨n, (List.mem_filter.1 hn).1, hup⟩)

/-! ## Text before the first token -/

/-- Behind text without tokens, pieces match what stands behind that text. -/
theorem piecesMatch_behind {front : List Char} (h : ∀ c ∈ front, isToken c = false)
    (more text : List Char) :
    piecesMatch (pieces (front ++ more)) (front ++ text) = piecesMatch (pieces more) text := by
  induction front with
  | nil => rfl
  | cons c front ih =>
    obtain ⟨hc, hfront⟩ := List.forall_mem_cons.1 h
    rw [List.cons_append, List.cons_append, pieces_plain hc, piecesMatch, ih hfront]
    simp

/-- The text up to the last slash before the first token. -/
def fixedFront (text : List Char) : List Char :=
  ((text.takeWhile fun c => !isToken c).reverse.dropWhile (· ≠ '/')).reverse

theorem fixedFront_append {front : List Char} (h : ∀ c ∈ front, isToken c = false)
    (hlast : front.getLast? = some '/') (more : List Char) :
    fixedFront (front ++ more) = front ++ fixedFront more := by
  obtain ⟨before, rfl⟩ := List.getLast?_eq_some_iff.1 hlast
  rw [fixedFront, fixedFront, List.takeWhile_append_of_pos (by simpa using h), List.reverse_append]
  generalize (more.takeWhile fun c => !isToken c).reverse = fixed
  rw [List.dropWhile_append]
  split
  · rename_i hempty
    rw [List.isEmpty_iff.1 hempty, List.reverse_concat, List.dropWhile_cons_of_neg (by simp)]
    simp
  · rw [List.reverse_append, List.reverse_reverse]

theorem fixedFront_ends (text : List Char) :
    fixedFront text = [] ∨ ∃ front, fixedFront text = front ++ ['/'] := by
  rw [fixedFront]
  generalize (text.takeWhile fun c => !isToken c).reverse = fixed
  cases hdirectory : fixed.dropWhile (· ≠ '/') with
  | nil => exact .inl rfl
  | cons c rest =>
    have hc := List.head_dropWhile_not (· ≠ '/') (by rw [hdirectory]; exact List.cons_ne_nil c rest)
    simp only [hdirectory, List.head_cons] at hc
    obtain rfl : c = '/' := by simpa using hc
    exact .inr ⟨rest.reverse, List.reverse_cons⟩

theorem fixedFront_prefix (text : List Char) : fixedFront text <+: text := by
  refine List.IsPrefix.trans ?_ (List.takeWhile_prefix fun c => !isToken c)
  rw [fixedFront, ← List.reverse_suffix, List.reverse_reverse]
  exact List.dropWhile_suffix _

/-- A walk starts where the text up to the last slash before the first token leads. -/
theorem walkRoot_eq_fixedFront (hslashes : normalizeSlashes pattern = pattern)
    (htoken : hasToken pattern = true) :
    walkRoot pattern =
      if fixedFront pattern.toList = [] then "."
      else if fixedFront pattern.toList = ['/'] then "/"
      else String.ofList (fixedFront pattern.toList).dropLast := by
  rw [walkRoot, hslashes]
  simp only
  rw [if_pos (show pattern.toList.any isToken = true from htoken), ← fixedFront]
  split
  · rename_i h
    rw [if_pos h]
  · rename_i h
    rw [h]
    rfl
  · rename_i hempty hslash
    rw [if_neg hempty, if_neg hslash]

/-! ## Patterns below a directory -/

/-- A normal directory whose path is plain text: no character of it is a token or a backslash. Two
slashes alone are another root. -/
structure IsLiteral (directory : String) : Prop where
  absolute : Path.isAbsolute directory = true
  normal : Path.normalize directory = directory
  plain : ∀ c ∈ directory.toList, isToken c = false ∧ c ≠ '\\'
  notBare : directory ≠ "//"

/-- A path leads from a directory to the root of a walk. -/
structure LeadsBy (directory start root : String) : Prop where
  absolute : Path.isAbsolute root = true
  noUp : ".." ∉ Path.names root
  place : Path.place root = Path.place directory ++ Path.place start
  opens : Path.opening root = Path.opening directory ++ Path.opening start

namespace IsLiteral

variable (h : IsLiteral directory)

include h

theorem ne_empty : directory ≠ "" := by
  rintro rfl
  cases h.absolute

theorem isNormal : Path.IsNormal directory := Path.isNormal_of_normalize h.absolute h.normal

theorem plain_opening : ∀ c ∈ (Path.opening directory).toList, isToken c = false ∧ c ≠ '\\' := by
  intro c hc
  rw [Path.opening] at hc
  split at hc
  · exact h.plain c hc
  · rw [String.toList_append, List.mem_append] at hc
    rcases hc with hc | hc
    · exact h.plain c hc
    · obtain rfl := List.mem_singleton.1 hc
      decide

theorem getLast?_opening : (Path.opening directory).toList.getLast? = some '/' := by
  obtain ⟨d, hd, -, -⟩ := Path.exists_opening h.ne_empty
  rw [hd, String.toList_append]
  simp

theorem normalizeSlashes_below (x : String) : normalizeSlashes (Path.opening directory ++ x) =
    Path.opening directory ++ normalizeSlashes x := by
  rw [normalizeSlashes_append, normalizeSlashes_eq_self fun hmem => (h.plain_opening _ hmem).2 rfl]

theorem hasToken_below (x : String) :
    hasToken (Path.opening directory ++ x) = hasToken x := by
  rw [hasToken, hasToken, String.toList_append, List.any_append]
  have hplain : (Path.opening directory).toList.any isToken = false := by
    rw [List.any_eq_false]
    exact fun c hc => by simp [(h.plain_opening c hc).1]
  rw [hplain, Bool.false_or]

/-- Below a literal directory, a pattern matches just what its own form matches from there. -/
theorem matchesFile_below (x f : String) :
    matchesFile (Path.opening directory ++ x) (Path.opening directory ++ f) = matchesFile x f := by
  rw [matchesFile, matchesFile, isMatch, isMatch, h.normalizeSlashes_below,
    h.normalizeSlashes_below, String.toList_append, String.toList_append]
  exact piecesMatch_behind (fun c hc => (h.plain_opening c hc).1) _ _

theorem matchesFile_join (hproper : ∀ n ∈ q, Path.IsProper n) (x : String) :
    matchesFile (Path.opening directory ++ x)
        (Path.join directory (String.intercalate "/" q)) =
      matchesFile x (String.intercalate "/" q) := by
  rw [Path.join_relative (Path.isAbsolute_intercalate hproper), h.matchesFile_below]

/-- The absolute form of a relative pattern. -/
theorem absolutePattern_eq (hp : Inner p) : absolutePattern directory p =
    if Path.place p = [] then directory else Path.opening directory ++ relativeForm p := by
  have hrelative : directory = "/" → Path.isAbsolute p = false := fun _ => hp.relative
  rw [absolutePattern, Path.absolute, Path.join_relative hp.relative]
  split
  · rename_i hplace
    rw [Path.normalize_neutral h.absolute h.normal h.notBare hrelative hp.noUp_names hplace,
      normalizeSlashes_eq_self fun hmem => (h.plain _ hmem).2 rfl]
  · rename_i hplace
    rw [Path.normalize_below h.absolute h.normal h.notBare hrelative hp.noUp_names hplace,
      Path.join_relative (Path.isAbsolute_intercalate (Path.proper_place hp.noUp_names)),
      h.normalizeSlashes_below, ← relativeForm]

theorem opening_cases : Path.opening directory = directory ++ "/" ∨ directory = "/" := by
  by_cases hplace : Path.place directory = []
  · exact .inr (Path.eq_slash_of_place h.absolute h.normal h.notBare hplace)
  · exact .inl (Path.opening_of_place h.absolute h.normal hplace)

/-! ### Where walks start -/

theorem walkRoot_below (hslashes : normalizeSlashes x = x) (htoken : hasToken x = true) :
    walkRoot (Path.opening directory ++ x) =
      if (Path.opening directory).toList ++ fixedFront x.toList = ['/'] then "/"
      else String.ofList ((Path.opening directory).toList ++ fixedFront x.toList).dropLast := by
  have hfixed : fixedFront (Path.opening directory ++ x).toList =
      (Path.opening directory).toList ++ fixedFront x.toList := by
    rw [String.toList_append]
    exact fixedFront_append (fun c hc => (h.plain_opening c hc).1) h.getLast?_opening _
  obtain ⟨before, hopening⟩ := List.getLast?_eq_some_iff.1 h.getLast?_opening
  rw [walkRoot_eq_fixedFront (by rw [h.normalizeSlashes_below, hslashes])
    (by rw [h.hasToken_below, htoken]), hfixed, if_neg (by simp [hopening])]

theorem leadsBy_empty : LeadsBy directory "" directory where
  absolute := h.absolute
  noUp := h.isNormal.noUp
  place := (List.append_nil _).symm
  opens := String.append_empty.symm

theorem leadsBy_below {start : String} (hup : ".." ∉ Path.names start) :
    LeadsBy directory start (Path.opening directory ++ start) where
  absolute := Path.isAbsolute_below h.absolute start
  noUp := Path.noUp_below h.ne_empty h.isNormal.noUp hup
  place := Path.place_below h.ne_empty start
  opens := Path.opening_append h.ne_empty start

/-- What a walk finds has the path of its place below the directory. -/
theorem normalize_walked {start root : String} (hroot : LeadsBy directory start root)
    (hup : ".." ∉ Path.names start) (hrelative : directory = "/" → Path.isAbsolute start = false)
    {rest : Place} (hrest : rest ≠ []) (hproper : ∀ n ∈ rest, Path.IsProper n) :
    Path.normalize (Path.join root (String.intercalate "/" rest)) =
      Path.join directory (String.intercalate "/" (Path.place start ++ rest)) := by
  have hrel := Path.isAbsolute_intercalate hproper
  have hplace : Path.place (Path.join start (String.intercalate "/" rest)) =
      Path.place start ++ rest := by
    rw [Path.place_join hrel, Path.place_of_proper hproper]
  have hrestUp : ".." ∉ Path.names (String.intercalate "/" rest) := by
    rw [Path.names_intercalate hrest fun n hn => (hproper n hn).noSlash]
    exact fun hmem => (hproper _ hmem).notUp rfl
  rw [Path.join_relative hrel, hroot.opens, String.append_assoc, ← Path.join_relative hrel,
    Path.normalize_below h.absolute h.normal h.notBare
      (fun hslash => Path.isAbsolute_join_relative (hrelative hslash) hrel)
      (Path.noUp_join hrel hup hrestUp) (by rw [hplace]; simp [hrest]), hplace]

/-- With a token in its first name, a pattern is searched for from the directory on. -/
theorem walkRoot_of_nil (hslashes : normalizeSlashes x = x) (htoken : hasToken x = true)
    (hnone : fixedFront x.toList = []) : walkRoot (Path.opening directory ++ x) = directory := by
  rw [h.walkRoot_below hslashes htoken, hnone, List.append_nil]
  rcases h.opening_cases with hopens | hroot
  · have hlist : (Path.opening directory).toList = directory.toList ++ ['/'] := by
      rw [hopens, String.toList_append]
      rfl
    have hne : directory.toList ≠ [] := fun hnil => h.ne_empty (String.toList_eq_nil_iff.1 hnil)
    rw [hlist, if_neg (by simp [hne]), List.dropLast_concat, String.ofList_toList]
  · rw [hroot]
    decide

/-- Else it is searched for from where the text before the names with tokens leads. -/
theorem walkRoot_of_front (hslashes : normalizeSlashes x = x) (htoken : hasToken x = true)
    {front : List Char} (hfront : fixedFront x.toList = front ++ ['/']) :
    walkRoot (Path.opening directory ++ x) = Path.opening directory ++ String.ofList front := by
  obtain ⟨before, hopening⟩ := List.getLast?_eq_some_iff.1 h.getLast?_opening
  have hlong : (Path.opening directory).toList ++ (front ++ ['/']) ≠ ['/'] := fun hslash => by
    have hlength := congrArg List.length hslash
    simp only [hopening, List.length_append, List.length_singleton] at hlength
    omega
  rw [h.walkRoot_below hslashes htoken, hfront, if_neg hlong, ← List.append_assoc,
    List.dropLast_concat, String.ofList_append, String.ofList_toList]

/-- The walk of a pattern that stands behind a literal directory starts at a path below it, which
leads where the pattern's own walk starts. -/
theorem exists_start (hslashes : normalizeSlashes x = x) (htoken : hasToken x = true)
    (hx : directory = "/" → Path.isAbsolute x = false) (hup : ".." ∉ Path.names x) :
    ∃ start, LeadsBy directory start (walkRoot (Path.opening directory ++ x)) ∧
      Path.place start = Path.place (walkRoot x) ∧ ".." ∉ Path.names start ∧
      (directory = "/" → Path.isAbsolute start = false) := by
  rcases fixedFront_ends x.toList with hnone | ⟨front, hfront⟩
  case inl =>
    refine ⟨"", ?_, ?_, by decide, fun _ => rfl⟩
    · rw [h.walkRoot_of_nil hslashes htoken hnone]
      exact h.leadsBy_empty
    · rw [walkRoot_eq_fixedFront hslashes htoken, if_pos hnone]
      decide
  case inr =>
    obtain ⟨behind, hbehind⟩ := hfront ▸ fixedFront_prefix x.toList
    have hparts : x = String.ofList front ++ "/" ++ String.ofList behind := by
      rw [← String.toList_inj, ← hbehind]
      simp [String.toList_append]
    have hstartUp : ".." ∉ Path.names (String.ofList front) := fun hmem => by
      rw [hparts, Path.names_append] at hup
      exact hup (List.mem_append_left _ hmem)
    refine ⟨String.ofList front, ?_, ?_, hstartUp, fun hroot => ?_⟩
    · rw [h.walkRoot_of_front hslashes htoken hfront]
      exact h.leadsBy_below hstartUp
    · rw [walkRoot_eq_fixedFront hslashes htoken, hfront, if_neg (by simp)]
      cases front with
      | nil => decide
      | cons c rest => rw [if_neg (by simp), List.dropLast_concat]
    · by_cases hempty : String.ofList front = ""
      · rw [hempty]
        rfl
      · rw [← Path.isAbsolute_append hempty ("/" ++ String.ofList behind), ← String.append_assoc,
          ← hparts]
        exact hx hroot

end IsLiteral

/-! ## Files below a directory -/

/-- A path leads to a file just if its place holds one, and no slash stands behind the name. -/
theorem isFile_iff_place (hd : disk.WellFormed) (habsolute : Path.isAbsolute x = true)
    (hup : ".." ∉ Path.names x) : disk.isFile x = true ↔
      (disk.fileAt? (Path.place x)).isSome = true ∧
        (Path.names x).getLast?.any (fun n => !Path.isNeutral n) = true := by
  obtain ⟨before, last, hnames⟩ : ∃ before last, Path.names x = before ++ [last] :=
    ⟨_, _, (List.dropLast_append_getLast (Path.names_ne_nil x)).symm⟩
  have hplace : Path.place x = Path.solid before ++ Path.solid [last] := by
    rw [Path.place, hnames, Path.solid_append]
  rw [hnames, List.getLast?_concat, Disk.isFile, Outcome.isOk_iff]
  simp only [Disk.file_ok, Disk.locate_absolute habsolute, Disk.follow_plain hup, List.nil_append,
    ← Path.place.eq_1]
  constructor
  · rintro ⟨g, _, ⟨rfl, hway⟩, hg⟩
    refine ⟨by rw [hg]; rfl, ?_⟩
    -- A neutral last name would make a directory of the file's place.
    by_contra hlast
    have hneutral : Path.solid [last] = [] := Path.solid_of_neutral (by simpa using hlast)
    have hdirectory := hway before (by rw [hnames]; exact List.prefix_append _ _)
      (by rw [hnames]; simp)
    rw [hneutral, List.append_nil] at hplace
    rw [← hplace, hd.apart hg] at hdirectory
    cases hdirectory
  · rintro ⟨hfile, hlast⟩
    obtain ⟨g, hg⟩ := Option.isSome_iff_exists.1 hfile
    have hsolid : Path.solid [last] = [last] := by
      rw [Path.solid, List.filter_cons_of_pos (by simpa using hlast), List.filter_nil]
    refine ⟨g, Path.place x, ⟨rfl, fun pre hpre hne => ?_⟩, hg⟩
    rw [hnames] at hpre hne
    have hbefore : pre <+: before := (List.prefix_concat_iff.1 hpre).resolve_left hne
    have hshort : Path.solid pre <+: Path.solid before := hbefore.filter _
    refine hd.parents hg ?_ fun hsame => ?_
    · rw [hplace]
      exact hshort.trans (List.prefix_append _ _)
    · have hlength := hshort.length_le
      rw [hsame, hplace, hsolid, List.length_append, List.length_singleton] at hlength
      omega

/-- What a walk finds below a root without steps up. -/
theorem mem_walk_below (hd : disk.WellFormed) (habsolute : Path.isAbsolute x = true)
    (hup : ".." ∉ Path.names x) : f ∈ disk.walk x ↔ ∃ rest, rest ≠ [] ∧
      (disk.fileAt? (Path.place x ++ rest)).isSome = true ∧
        f = Path.join x (String.intercalate "/" rest) := by
  rw [mem_walk]
  simp only [Disk.locate_absolute habsolute, Disk.follow_plain hup, List.nil_append]
  constructor
  · rintro ⟨_, rest, ⟨rfl, -⟩, hdirectory, hfile, rfl⟩
    refine ⟨rest, ?_, hfile, rfl⟩
    rintro rfl
    obtain ⟨g, hg⟩ := Option.isSome_iff_exists.1 hfile
    rw [List.append_nil] at hg
    rw [hd.apart hg] at hdirectory
    cases hdirectory
  · rintro ⟨rest, hrest, hfile, rfl⟩
    obtain ⟨g, hg⟩ := Option.isSome_iff_exists.1 hfile
    have hparent : ∀ q, q <+: Path.place x → disk.isDirectory q = true := fun q hq =>
      hd.parents hg (hq.trans (List.prefix_append _ _)) fun hsame => by
        have hlength := hq.length_le
        rw [hsame, List.length_append] at hlength
        exact hrest (List.length_eq_zero_iff.1 (by omega))
    exact ⟨_, rest, ⟨rfl, fun pre hpre _ => hparent _ (hpre.filter _)⟩,
      hparent _ List.prefix_rfl, hfile, rfl⟩

/-- Whether a relative pattern picks a place below the directory it is seen from: with tokens, its
form matches the path from there and its walk passes by; without, it is the path. -/
def Picks (p : String) (q : Place) : Prop :=
  if hasToken (relativeForm p) = true then
    (∃ rest, rest ≠ [] ∧ q = Path.place (walkRoot (relativeForm p)) ++ rest) ∧
      matchesFile (relativeForm p) (String.intercalate "/" q) = true
  else
    Path.place (relativeForm p) = q ∧
      (Path.names (relativeForm p)).getLast?.any (fun n => !Path.isNeutral n) = true

/-- A pattern that goes nowhere picks nothing. -/
theorem not_picks_neutral (hplace : Path.place p = []) : ¬ Picks p q := by
  have hempty : relativeForm p = "" := by
    rw [relativeForm, hplace, String.intercalate_nil, normalizeSlashes_eq_self (by decide)]
  rw [Picks, hempty, if_neg (by decide)]
  exact fun h => absurd h.2 (by decide)

/-- A project directory: it is there, its path is literal, and if it is the root, no pattern starts
with a slash that leans the other way. -/
structure Site (disk : Disk) (directory : String) (patterns : List String) : Prop where
  wellFormed : disk.WellFormed
  literal : IsLiteral directory
  present : disk.isDirectory (Path.place directory) = true
  below : directory = "/" → ∀ p ∈ patterns, ∀ x ∈ expandBraces p,
    Path.isAbsolute (relativeForm x) = false

section

variable (hd : disk.WellFormed)

include hd

theorem proper_below (hfile : (disk.fileAt? (Path.place directory ++ q)).isSome = true) :
    ∀ n ∈ q, Path.IsProper n := by
  obtain ⟨g, hg⟩ := Option.isSome_iff_exists.1 hfile
  exact fun n hn => hd.proper hg n (List.mem_append_right _ hn)

theorem ne_nil_below (hpresent : disk.isDirectory (Path.place directory) = true)
    (hfile : (disk.fileAt? (Path.place directory ++ q)).isSome = true) : q ≠ [] := by
  rintro rfl
  obtain ⟨g, hg⟩ := Option.isSome_iff_exists.1 hfile
  rw [List.append_nil] at hg
  rw [hd.apart hg] at hpresent
  cases hpresent

variable (h : IsLiteral directory)

include h

/-- The files that a form with tokens names behind a literal directory. -/
theorem mem_walked_below (hslashes : normalizeSlashes x = x) (htoken : hasToken x = true)
    (hx : directory = "/" → Path.isAbsolute x = false) (hup : ".." ∉ Path.names x) :
    f ∈ filesOf disk (Path.opening directory ++ x) ↔ ∃ q,
      f = Path.join directory (String.intercalate "/" q) ∧
        (disk.fileAt? (Path.place directory ++ q)).isSome = true ∧
        (∃ rest, rest ≠ [] ∧ q = Path.place (walkRoot x) ++ rest) ∧
          matchesFile x (String.intercalate "/" q) = true := by
  obtain ⟨start, hroot, hstart, hup, hrelative⟩ := h.exists_start hslashes htoken hx hup
  rw [filesOf, if_pos (by rw [h.hasToken_below, htoken]), List.mem_filter, List.mem_map]
  generalize walkRoot (Path.opening directory ++ x) = root at hroot
  simp only [mem_walk_below hd hroot.absolute hroot.noUp, hroot.place, List.append_assoc, ← hstart]
  have hbehind : ∀ {rest}, (disk.fileAt? (Path.place directory ++
      (Path.place start ++ rest))).isSome = true → ∀ n ∈ rest, Path.IsProper n :=
    fun hfile n hn => proper_below hd hfile n (List.mem_append_right _ hn)
  constructor
  · rintro ⟨⟨_, ⟨rest, hrest, hfile, rfl⟩, rfl⟩, hmatch⟩
    rw [h.normalize_walked hroot hup hrelative hrest (hbehind hfile)] at hmatch ⊢
    rw [h.matchesFile_join (proper_below hd hfile)] at hmatch
    exact ⟨_, rfl, hfile, ⟨rest, hrest, rfl⟩, hmatch⟩
  · rintro ⟨_, rfl, hfile, ⟨rest, hrest, rfl⟩, hmatch⟩
    refine ⟨⟨_, ⟨rest, hrest, hfile, rfl⟩, ?_⟩, ?_⟩
    · exact h.normalize_walked hroot hup hrelative hrest (hbehind hfile)
    · rwa [h.matchesFile_join (proper_below hd hfile)]

variable (hpresent : disk.isDirectory (Path.place directory) = true)

include hpresent

/-- The file that a form without tokens names behind a literal directory. -/
theorem mem_named_below (htoken : hasToken x = false)
    (hx : directory = "/" → Path.isAbsolute x = false) (hup : ".." ∉ Path.names x) :
    f ∈ filesOf disk (Path.opening directory ++ x) ↔ ∃ q,
      f = Path.join directory (String.intercalate "/" q) ∧
        (disk.fileAt? (Path.place directory ++ q)).isSome = true ∧
        Path.place x = q ∧ (Path.names x).getLast?.any (fun n => !Path.isNeutral n) = true := by
  have hisFile : disk.isFile (Path.opening directory ++ x) = true ↔
      (disk.fileAt? (Path.place directory ++ Path.place x)).isSome = true ∧
        (Path.names x).getLast?.any (fun n => !Path.isNeutral n) = true := by
    rw [isFile_iff_place hd (Path.isAbsolute_below h.absolute x)
      (Path.noUp_below h.ne_empty h.isNormal.noUp hup), Path.place_below h.ne_empty,
      Path.getLast?_below h.ne_empty]
  rw [filesOf, if_neg (by rw [h.hasToken_below, htoken]; decide)]
  constructor
  · intro hf
    split at hf
    · rename_i hfile
      obtain ⟨hfile, hlast⟩ := hisFile.1 hfile
      obtain rfl := List.mem_singleton.1 hf
      exact ⟨_, Path.normalize_below h.absolute h.normal h.notBare hx hup
        (ne_nil_below hd hpresent hfile), hfile, rfl, hlast⟩
    · cases hf
  · rintro ⟨_, rfl, hfile, rfl, hlast⟩
    rw [if_pos (hisFile.2 ⟨hfile, hlast⟩), List.mem_singleton]
    exact (Path.normalize_below h.absolute h.normal h.notBare hx hup
      (ne_nil_below hd hpresent hfile)).symm

/-- A relative pattern names just the files that it picks by their paths from the directory. -/
theorem mem_filesOf_below (hp : Inner p)
    (hbelow : directory = "/" → Path.isAbsolute (relativeForm p) = false) :
    f ∈ filesOf disk (absolutePattern directory p) ↔ ∃ q,
      f = Path.join directory (String.intercalate "/" q) ∧
        (disk.fileAt? (Path.place directory ++ q)).isSome = true ∧ Picks p q := by
  rw [h.absolutePattern_eq hp]
  split
  · rename_i hplace
    have hplain : hasToken directory = false := by
      rw [hasToken, List.any_eq_false]
      exact fun c hc => by simp [(h.plain c hc).1]
    have hnone : ¬ disk.isFile directory = true := fun hfile => by
      have hplaced := ((isFile_iff_place hd h.absolute h.isNormal.noUp).1 hfile).1
      rw [← List.append_nil (Path.place directory)] at hplaced
      exact ne_nil_below hd hpresent hplaced rfl
    rw [filesOf, if_neg (by rw [hplain]; decide), if_neg hnone]
    refine iff_of_false List.not_mem_nil ?_
    rintro ⟨q, -, -, hpicks⟩
    exact not_picks_neutral hplace hpicks
  · cases htoken : hasToken (relativeForm p) with
    | true =>
      simp only [Picks, htoken, if_true]
      exact mem_walked_below hd h (normalizeSlashes_idem _) htoken hbelow hp.noUp_relativeForm
    | false =>
      simp only [Picks, htoken, Bool.false_eq_true, if_false]
      exact mem_named_below hd h hpresent htoken hbelow hp.noUp_relativeForm

end

/-! ## Trees that are moved -/

theorem stringLt_append (front a b : String) :
    Sorted.stringLt (front ++ a) (front ++ b) = Sorted.stringLt a b := by
  have hlt : ∀ (cs : List Char) (as bs : List Char), cs ++ as < cs ++ bs ↔ as < bs := by
    intro cs as bs
    induction cs with
    | nil => rfl
    | cons c cs ih => simp [ih]
  rw [Sorted.stringLt, Sorted.stringLt, decide_eq_decide, String.lt_iff, String.lt_iff,
    String.toList_append, String.toList_append, hlt]

theorem below_injective {a b : Place} (ha : ∀ n ∈ a, Path.IsProper n)
    (hb : ∀ n ∈ b, Path.IsProper n)
    (heq : Path.join directory (String.intercalate "/" a) =
      Path.join directory (String.intercalate "/" b)) : a = b := by
  have hplace := congrArg Path.place heq
  rw [Path.place_join (Path.isAbsolute_intercalate ha),
    Path.place_join (Path.isAbsolute_intercalate hb), Path.place_of_proper ha,
    Path.place_of_proper hb] at hplace
  exact List.append_cancel_left hplace

theorem exists_map {α β : Type} {g : α → β} {P : α → Prop} {ys : List β}
    (h : ∀ y ∈ ys, ∃ x, y = g x ∧ P x) : ∃ xs : List α, ys = xs.map g ∧ ∀ x ∈ xs, P x := by
  induction ys with
  | nil => exact ⟨[], rfl, fun x hx => absurd hx List.not_mem_nil⟩
  | cons y ys ih =>
    obtain ⟨⟨x, rfl, hx⟩, hrest⟩ := List.forall_mem_cons.1 h
    obtain ⟨xs, rfl, hxs⟩ := ih hrest
    exact ⟨x :: xs, rfl, List.forall_mem_cons.2 ⟨hx, hxs⟩⟩

section

variable {patterns : List String} {cwd base : String}
  (hinclude : ∀ p ∈ patterns, isExclusion p = false)
  (hinner : ∀ p ∈ patterns, ∀ x ∈ expandBraces p, Inner x)

include hinclude hinner

/-- Relative patterns that take files in name just the files that one of them picks. -/
theorem mem_resolve_below (hsite : Site disk (Path.absolute cwd base) patterns) :
    f ∈ resolve disk cwd base patterns ↔ ∃ q,
      f = Path.join (Path.absolute cwd base) (String.intercalate "/" q) ∧
        (disk.fileAt? (Path.place (Path.absolute cwd base) ++ q)).isSome = true ∧
        ∃ p ∈ patterns, ∃ x ∈ expandBraces p, Picks x q := by
  have hexcludes : excludes (Path.absolute cwd base) patterns f = false := by
    rw [excludes, List.filter_eq_nil_iff.2 fun p hp => by
      rw [hinclude p (List.mem_filter.1 hp).1]
      decide]
    rfl
  have hfiles : ∀ p ∈ patterns, ∀ x ∈ expandBraces p, ∀ f,
      f ∈ filesOf disk (absolutePattern (Path.absolute cwd base) x) ↔ ∃ q,
        f = Path.join (Path.absolute cwd base) (String.intercalate "/" q) ∧
          (disk.fileAt? (Path.place (Path.absolute cwd base) ++ q)).isSome = true ∧ Picks x q :=
    fun p hp x hx f => mem_filesOf_below hsite.wellFormed hsite.literal hsite.present
      (hinner p hp x hx) fun hroot => hsite.below hroot p hp x hx
  rw [mem_resolve, hexcludes, and_iff_left rfl]
  simp only [included, List.mem_flatMap, List.mem_filter, absolutePatterns, List.mem_map]
  constructor
  · rintro ⟨_, ⟨p, ⟨⟨hp, -⟩, -⟩, x, hx, rfl⟩, hf⟩
    obtain ⟨q, hq, hfile, hpicks⟩ := (hfiles p hp x hx f).1 hf
    exact ⟨q, hq, hfile, p, hp, x, hx, hpicks⟩
  · rintro ⟨q, rfl, hfile, p, hp, x, hx, hpicks⟩
    refine ⟨_, ⟨p, ⟨⟨hp, ?_⟩, by rw [hinclude p hp]; rfl⟩, x, hx, rfl⟩,
      (hfiles p hp x hx _).2 ⟨q, rfl, hfile, hpicks⟩⟩
    -- The empty pattern is left out, and picks nothing.
    refine decide_eq_true fun hempty => ?_
    rw [hempty, show expandBraces "" = [""] by decide, List.mem_singleton] at hx
    exact not_picks_neutral (by rw [hx]; decide) hpicks

/-- The files that relative patterns name lie below the project directory, and which they are is a
matter of their paths from there: a tree that is moved to another directory gives the same paths, in
the same order. -/
theorem resolve_moved (hsite : Site disk (Path.absolute cwd base) patterns) :
    (∀ f, f ∈ resolve disk cwd base patterns ↔ ∃ q, q ≠ [] ∧
      f = Path.join (Path.absolute cwd base) (String.intercalate "/" q) ∧
        (disk.fileAt? (Path.place (Path.absolute cwd base) ++ q)).isSome = true ∧
        ∃ p ∈ patterns, ∃ x ∈ expandBraces p, Picks x q) ∧
    ∀ disk' cwd' base', Site disk' (Path.absolute cwd' base') patterns →
      (∀ q, (disk'.fileAt? (Path.place (Path.absolute cwd' base') ++ q)).isSome =
        (disk.fileAt? (Path.place (Path.absolute cwd base) ++ q)).isSome) →
      ∃ found : List Place,
        resolve disk cwd base patterns =
          found.map (fun q => Path.join (Path.absolute cwd base) (String.intercalate "/" q)) ∧
        resolve disk' cwd' base' patterns =
          found.map fun q => Path.join (Path.absolute cwd' base') (String.intercalate "/" q) := by
  refine ⟨fun f => ?_, fun disk' cwd' base' hsite' hsame => ?_⟩
  · rw [mem_resolve_below hinclude hinner hsite]
    refine exists_congr fun q => ⟨fun ⟨hf, hfile, hpicks⟩ => ⟨?_, hf, hfile, hpicks⟩, And.right⟩
    exact ne_nil_below hsite.wellFormed hsite.present hfile
  obtain ⟨found, hfound, hpicked⟩ :=
    exists_map fun f hf => (mem_resolve_below hinclude hinner hsite (f := f)).1 hf
  have hproper : ∀ q ∈ found, ∀ n ∈ q, Path.IsProper n := fun q hq =>
    proper_below hsite.wellFormed (hpicked q hq).1
  refine ⟨found, hfound, Sorted.eq_of_mem_iff Sorted.strict_stringLt (pairwise_resolve ..) ?_
    fun f => ?_⟩
  · have hsorted := hfound ▸ pairwise_resolve disk cwd base patterns
    rw [List.pairwise_map] at hsorted ⊢
    refine hsorted.imp_of_mem fun {a b} ha hb hlt => ?_
    rw [Path.join_relative (Path.isAbsolute_intercalate (hproper a ha)),
      Path.join_relative (Path.isAbsolute_intercalate (hproper b hb)), stringLt_append] at hlt ⊢
    exact hlt
  · rw [mem_resolve_below hinclude hinner hsite', List.mem_map]
    constructor
    · rintro ⟨q, rfl, hfile, hpicks⟩
      rw [hsame] at hfile
      have hmem := (mem_resolve_below hinclude hinner hsite).2 ⟨q, rfl, hfile, hpicks⟩
      rw [hfound, List.mem_map] at hmem
      obtain ⟨q', hq', heq⟩ := hmem
      obtain rfl := below_injective (hproper q' hq') (proper_below hsite.wellFormed hfile) heq
      exact ⟨q', hq', rfl⟩
    · rintro ⟨q, hq, rfl⟩
      obtain ⟨hfile, hpicks⟩ := hpicked q hq
      exact ⟨q, rfl, by rw [hsame]; exact hfile, hpicks⟩

end

/-! ## A project in two places -/

namespace TwoPlaces

/-- A disk that holds a project of two files at a place, and directories on the way there. -/
def projectAt (place : Place) : Disk where
  files := [["a.html"], ["src", "x.tsx"]].map fun q => (place ++ q, ⟨[], 1⟩)
  directories := place.inits ++ [place ++ ["src"]]

theorem plain_of_all {cs : List Char}
    (h : (cs.all fun c => decide (isToken c = false ∧ c ≠ '\\')) = true) :
    ∀ c ∈ cs, isToken c = false ∧ c ≠ '\\' := fun c hc =>
  of_decide_eq_true (List.all_eq_true.1 h c hc)

theorem isSome_projectAt (place q : Place) :
    ((projectAt place).fileAt? (place ++ q)).isSome = true ↔
      q ∈ [["a.html"], ["src", "x.tsx"]] := by
  rw [isSome_fileAt?]
  simp [projectAt, exists_or]

theorem resolve_moved_project :
    let patterns := ["a.html", "./src/**/*.\x7bjs, tsx\x7d"]
    let project := projectAt ["p"]
    let moved := projectAt ["q", "r"]
    (∀ p ∈ patterns, isExclusion p = false) ∧ (∀ p ∈ patterns, ∀ x ∈ expandBraces p, Inner x) ∧
      resolve project "/p" "" patterns = ["/p/a.html", "/p/src/x.tsx"] ∧
      ∃ found : List Place,
        resolve project "/p" "" patterns =
          found.map (fun q => Path.join (Path.absolute "/p" "") (String.intercalate "/" q)) ∧
        resolve moved "/q" "r" patterns =
          found.map fun q => Path.join (Path.absolute "/q" "r") (String.intercalate "/" q) := by
  intro patterns project moved
  have hinclude : ∀ p ∈ patterns, isExclusion p = false := by decide
  have hinner : ∀ p ∈ patterns, ∀ x ∈ expandBraces p, Inner x := by decide +kernel
  have hproject : Site project (Path.absolute "/p" "") patterns :=
    ⟨.of_files (by decide), ⟨by decide, by decide +kernel, plain_of_all (by decide +kernel),
      by decide⟩, by decide +kernel, by decide +kernel⟩
  have hmoved : Site moved (Path.absolute "/q" "r") patterns :=
    ⟨.of_files (by decide), ⟨by decide, by decide +kernel, plain_of_all (by decide +kernel),
      by decide⟩, by decide +kernel, by decide +kernel⟩
  refine ⟨hinclude, hinner, by decide +kernel,
    (resolve_moved hinclude hinner hproject).2 moved "/q" "r" hmoved fun q => ?_⟩
  rw [Bool.eq_iff_iff, show Path.place (Path.absolute "/q" "r") = ["q", "r"] by decide +kernel,
    show Path.place (Path.absolute "/p" "") = ["p"] by decide +kernel, isSome_projectAt,
    isSome_projectAt]

/-- A star in the path of the directory is a star of the pattern, which then finds a file beside the
directory. -/
theorem resolve_beside :
    let disk : Disk :=
      { files := [(["p*", "a.html"], ⟨[], 1⟩), (["px", "a.html"], ⟨[], 1⟩)]
        directories := [["p*"], ["px"]] }
    resolve disk "/p*" "" ["a.html"] = ["/p*/a.html", "/px/a.html"] ∧
      ¬ Path.place "/p*" <+: Path.place "/px/a.html" := by
  decide +kernel

end TwoPlaces

end Glob

end StylePrune
