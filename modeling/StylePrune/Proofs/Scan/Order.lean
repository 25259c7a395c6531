import StylePrune.Proofs.Scan.Merge

/-!
# Scans merged in any order

Patterns that are left out because one written alike came before may be left out early or late
(`dedupePatterns_append`), so a scan may lose them before it is merged or after
(`dedupe_foldl_merge`). Which forms are written does not change (`written_dedupePatterns`), no form
is left twice (`pairwise_dedupeFrom`), and the first of each is kept (`dedupePatterns_first`).

What merged scans hold is what one of them holds (`mem_classes_foldl`, `mem_placesOf_foldl`), so
their order shows only in the order of patterns and of warnings (`alike_of_perm`). A pattern that is
told from all others by its written form is kept in any order (`mem_dedupePatterns_iff`).
-/

namespace StylePrune

open Regex (Pattern)

/-! ## The first pattern of each written form -/

theorem mem_written_dedupeFrom (w : String) (patterns : List Pattern) (seen : List String) :
    w ∈ (dedupeFrom seen patterns).map Pattern.written ∨ w ∈ seen ↔
      w ∈ patterns.map Pattern.written ∨ w ∈ seen := by
  induction patterns generalizing seen with
  | nil => rfl
  | cons p rest ih =>
    rw [dedupeFrom]
    split
    · rename_i hp
      have hp : p.written ∈ seen := by simpa using hp
      rw [ih, List.map_cons, List.mem_cons, or_assoc]
      exact (or_iff_right_of_imp fun e : w = p.written => .inr (e ▸ hp)).symm
    · have := ih (p.written :: seen)
      simp only [List.map_cons, List.mem_cons] at this ⊢
      rw [or_left_comm, ← or_assoc] at this
      rw [this, or_left_comm, or_assoc]

/-- The patterns that are kept are written as all of them are. -/
theorem written_dedupePatterns (w : String) (patterns : List Pattern) :
    w ∈ (dedupePatterns patterns).map Pattern.written ↔ w ∈ patterns.map Pattern.written := by
  have := mem_written_dedupeFrom w patterns []
  rwa [or_iff_left List.not_mem_nil, or_iff_left List.not_mem_nil] at this

theorem notMem_seen {p : Pattern} {patterns : List Pattern} {seen : List String}
    (h : p ∈ dedupeFrom seen patterns) : p.written ∉ seen := by
  induction patterns generalizing seen with
  | nil => cases h
  | cons q rest ih =>
    rw [dedupeFrom] at h
    split at h
    · exact ih h
    · rename_i hq
      rcases List.mem_cons.1 h with rfl | h
      · simpa using hq
      · exact fun hp => ih h (List.mem_cons_of_mem _ hp)

/-- No two patterns that are kept are written alike. -/
theorem pairwise_dedupeFrom (patterns : List Pattern) (seen : List String) :
    (dedupeFrom seen patterns).Pairwise fun p q => p.written ≠ q.written := by
  induction patterns generalizing seen with
  | nil => exact .nil
  | cons p rest ih =>
    rw [dedupeFrom]
    split
    · exact ih seen
    · refine .cons (fun q hq hwritten => ?_) (ih _)
      exact notMem_seen hq (hwritten ▸ List.mem_cons_self)

theorem dedupeFrom_congr {seen seen' : List String} (h : ∀ w, w ∈ seen ↔ w ∈ seen')
    (patterns : List Pattern) : dedupeFrom seen patterns = dedupeFrom seen' patterns := by
  induction patterns generalizing seen seen' with
  | nil => rfl
  | cons p rest ih =>
    have hp : seen.contains p.written = seen'.contains p.written := by
      rw [Bool.eq_iff_iff, List.contains_iff_mem, List.contains_iff_mem, h]
    have hrest : dedupeFrom (p.written :: seen) rest = dedupeFrom (p.written :: seen') rest :=
      ih fun w => by rw [List.mem_cons, List.mem_cons, h]
    rw [dedupeFrom, dedupeFrom, hp, ih h, hrest]

theorem dedupeFrom_append (seen : List String) (a b : List Pattern) :
    dedupeFrom seen (a ++ b) =
      dedupeFrom seen a ++ dedupeFrom (a.map Pattern.written ++ seen) b := by
  induction a generalizing seen with
  | nil => rfl
  | cons p rest ih =>
    rw [List.cons_append, dedupeFrom, dedupeFrom]
    split
    · rename_i hp
      have hp : p.written ∈ seen := by simpa using hp
      rw [ih]
      refine congrArg (dedupeFrom seen rest ++ ·) (dedupeFrom_congr (fun w => ?_) b)
      simp only [List.map_cons, List.cons_append, List.mem_cons, List.mem_append]
      exact (or_iff_right_of_imp fun e : w = p.written => .inr (e ▸ hp)).symm
    · rw [ih, List.cons_append]
      refine congrArg (p :: dedupeFrom _ rest ++ ·) (dedupeFrom_congr (fun w => ?_) b)
      simp only [List.map_cons, List.cons_append, List.mem_cons, List.mem_append]
      exact or_left_comm

/-- What was left out for less is left out anyhow. -/
theorem dedupeFrom_dedupeFrom {seen seen' : List String} (h : ∀ w ∈ seen', w ∈ seen)
    (patterns : List Pattern) :
    dedupeFrom seen (dedupeFrom seen' patterns) = dedupeFrom seen patterns := by
  induction patterns generalizing seen seen' with
  | nil => rfl
  | cons p rest ih =>
    rw [dedupeFrom.eq_def seen' (p :: rest)]
    by_cases hp : p.written ∈ seen'
    · simp only [List.contains_iff_mem.2 hp, if_true]
      rw [ih h, dedupeFrom, if_pos (List.contains_iff_mem.2 (h _ hp))]
    · have hp' : seen'.contains p.written = false := by simpa using hp
      simp only [hp', Bool.false_eq_true, if_false]
      rw [dedupeFrom, dedupeFrom]
      split
      · rename_i hs
        have hs : p.written ∈ seen := by simpa using hs
        exact ih fun w hw => (List.mem_cons.1 hw).elim (fun e => e ▸ hs) (h w)
      · refine congrArg (p :: ·) (ih fun w hw => ?_)
        exact List.mem_cons.2 ((List.mem_cons.1 hw).imp_right (h w))

theorem dedupePatterns_append (a b : List Pattern) :
    dedupePatterns (dedupePatterns a ++ dedupePatterns b) = dedupePatterns (a ++ b) := by
  simp only [dedupePatterns]
  rw [dedupeFrom_append, dedupeFrom_append [] a b, dedupeFrom_dedupeFrom (fun _ => id),
    dedupeFrom_dedupeFrom fun _ h => (List.not_mem_nil h).elim]
  refine congrArg (dedupeFrom [] a ++ ·) (dedupeFrom_congr (fun w => ?_) b)
  rw [List.mem_append, List.mem_append]
  exact mem_written_dedupeFrom w a []

/-- The first pattern of a written form is kept in its place. -/
theorem dedupePatterns_first {front : List Pattern} {p : Pattern}
    (h : ∀ q ∈ front, q.written ≠ p.written) (back : List Pattern) : ∃ later,
      later.Sublist back ∧
        dedupePatterns (front ++ p :: back) = dedupePatterns front ++ p :: later := by
  refine ⟨dedupeFrom (p.written :: (front.map Pattern.written ++ [])) back,
    dedupeFrom_sublist back _, ?_⟩
  have hseen : (front.map Pattern.written ++ []).contains p.written = false := by
    simpa using h
  rw [dedupePatterns, dedupeFrom_append, dedupeFrom, hseen, if_neg Bool.false_ne_true]
  rfl

/-- What one pattern at a time is asked for is found among the patterns that are kept, if patterns
that are written alike give the same. -/
theorem findSome?_dedupeFrom {β : Type} {f : Pattern → Option β} {patterns : List Pattern}
    {seen : List String} (hsame : ∀ p ∈ patterns, ∀ q ∈ patterns, p.written = q.written → f p = f q)
    (hseen : ∀ p ∈ patterns, p.written ∈ seen → f p = none) :
    (dedupeFrom seen patterns).findSome? f = patterns.findSome? f := by
  induction patterns generalizing seen with
  | nil => rfl
  | cons p rest ih =>
    have hrest : ∀ q ∈ rest, ∀ r ∈ rest, q.written = r.written → f q = f r := fun q hq r hr =>
      hsame q (List.mem_cons_of_mem p hq) r (List.mem_cons_of_mem p hr)
    have hlater : ∀ q ∈ rest, q.written ∈ seen → f q = none := fun q hq =>
      hseen q (List.mem_cons_of_mem p hq)
    rw [dedupeFrom]
    split
    · rename_i hp
      have hnone := hseen p List.mem_cons_self (by simpa using hp)
      rw [List.findSome?_cons, hnone]
      exact ih hrest hlater
    · rw [List.findSome?_cons, List.findSome?_cons]
      cases hfound : f p with
      | some b => rfl
      | none =>
        refine ih hrest fun q hq hwritten => ?_
        rcases List.mem_cons.1 hwritten with hwritten | hwritten
        · rw [hsame q (List.mem_cons_of_mem p hq) p List.mem_cons_self hwritten, hfound]
        · exact hlater q hq hwritten

theorem dedupePatterns_idem (a : List Pattern) :
    dedupePatterns (dedupePatterns a) = dedupePatterns a :=
  dedupeFrom_dedupeFrom (fun _ => id) a

namespace Scan

/-- A scan with the first pattern of each written form. -/
def dedupe (scan : Scan) : Scan :=
  { scan with dynamicPatterns := dedupePatterns scan.dynamicPatterns }

/-- Scans merged in order, with the first pattern of each written form. -/
def mergeAll (scans : List Scan) : Scan := (scans.foldl merge {}).dedupe

theorem dedupe_merge (a b : Scan) : (a.dedupe.merge b.dedupe).dedupe = (a.merge b).dedupe := by
  simp only [dedupe, merge, dedupePatterns_append]

theorem dedupe_dedupe (a : Scan) : a.dedupe.dedupe = a.dedupe := by
  simp only [dedupe, dedupePatterns_idem]

/-- Patterns may be left out of each scan before it is merged. -/
theorem dedupe_foldl_merge (scans : List Scan) (a : Scan) :
    ((scans.map dedupe).foldl merge a.dedupe).dedupe = (scans.foldl merge a).dedupe := by
  have start : ∀ (scans : List Scan) (a b : Scan), a.dedupe = b.dedupe →
      (scans.foldl merge a).dedupe = (scans.foldl merge b).dedupe := by
    intro scans
    induction scans with
    | nil => exact fun _ _ h => h
    | cons s rest ih =>
      refine fun a b h => ih _ _ ?_
      rw [← dedupe_merge a, h, dedupe_merge]
  induction scans generalizing a with
  | nil => exact dedupe_dedupe a
  | cons s rest ih =>
    rw [List.map_cons, List.foldl_cons, List.foldl_cons, ← ih (a.merge s)]
    refine start _ _ _ ?_
    rw [dedupe_merge, dedupe_dedupe]

end Scan

/-! ## Places of merged scans -/

namespace Origins

variable {a b : Origins} {x place : String}

/-- The places where a class was found. -/
def placesOf (o : Origins) (name : String) : List String := (o.lookup name).getD []

theorem mem_names_merge (h : b.names.Nodup) :
    x ∈ (a.merge b).names ↔ x ∈ a.names ∨ x ∈ b.names := by
  rw [names_merge h, List.mem_append, List.mem_filter, decide_eq_true_eq]
  by_cases hx : x ∈ a.names <;> simp [hx]

theorem mem_placesOf_merge (h : b.names.Nodup) :
    place ∈ (a.merge b).placesOf x ↔ place ∈ a.placesOf x ∨ place ∈ b.placesOf x := by
  rw [placesOf, lookup_merge h, placesOf, placesOf]
  cases b.lookup x with
  | none => simp
  | some places => exact Sorted.mem_union Sorted.strict_stringLt ..

/-- Well-formed origins that name the same classes and hold the same places for them are alike. -/
theorem lookup_eq (ha : a.WellFormed) (hb : b.WellFormed) (hnames : x ∈ a.names ↔ x ∈ b.names)
    (hplaces : ∀ place, place ∈ a.placesOf x ↔ place ∈ b.placesOf x) : a.lookup x = b.lookup x := by
  have heq : a.placesOf x = b.placesOf x :=
    Sorted.eq_of_mem_iff Sorted.strict_stringLt (ha.lookup x) (hb.lookup x) hplaces
  rw [placesOf, placesOf] at heq
  cases hx : a.lookup x with
  | none =>
    have : x ∉ b.names := fun h => lookup_eq_none.1 hx (hnames.2 h)
    rw [lookup_eq_none.2 this]
  | some places =>
    cases hx' : b.lookup x with
    | none =>
      have : x ∉ a.names := fun h => lookup_eq_none.1 hx' (hnames.1 h)
      rw [lookup_eq_none.2 this] at hx
      cases hx
    | some places' =>
      rw [hx, hx'] at heq
      exact congrArg some heq

end Origins

namespace Scan

variable {scans scans' : List Scan} {a b : Scan} {x place : String}

/-- Scans that differ in nothing but the order of their origins, patterns and warnings, patterns
that are written alike being one. -/
structure Alike (a b : Scan) : Prop where
  classes : a.classes = b.classes
  origins : ∀ x, a.origins.lookup x = b.origins.lookup x
  patterns : ∀ w, w ∈ a.dynamicPatterns.map Pattern.written ↔
    w ∈ b.dynamicPatterns.map Pattern.written
  warnings : a.warnings.Perm b.warnings

/-! ## What merged scans hold -/

theorem mem_classes_foldl : ∀ {scans : List Scan} {a : Scan},
    x ∈ (scans.foldl merge a).classes ↔ x ∈ a.classes ∨ ∃ s ∈ scans, x ∈ s.classes
  | [], a => by simp
  | s :: rest, a => by
    rw [List.foldl_cons, mem_classes_foldl, List.exists_mem_cons_iff, ← or_assoc]
    exact or_congr_left (Sorted.mem_union Sorted.strict_stringLt ..)

theorem mem_names_foldl : ∀ {scans : List Scan} {a : Scan}, (∀ s ∈ scans, s.Ordered) →
    (x ∈ (scans.foldl merge a).origins.names ↔
      x ∈ a.origins.names ∨ ∃ s ∈ scans, x ∈ s.origins.names)
  | [], a, _ => by simp
  | s :: rest, a, h => by
    obtain ⟨hs, hrest⟩ := List.forall_mem_cons.1 h
    rw [List.foldl_cons, mem_names_foldl hrest, List.exists_mem_cons_iff, ← or_assoc]
    exact or_congr_left (Origins.mem_names_merge hs.origins.names)

theorem mem_placesOf_foldl : ∀ {scans : List Scan} {a : Scan}, (∀ s ∈ scans, s.Ordered) →
    (place ∈ (scans.foldl merge a).origins.placesOf x ↔
      place ∈ a.origins.placesOf x ∨ ∃ s ∈ scans, place ∈ s.origins.placesOf x)
  | [], a, _ => by simp
  | s :: rest, a, h => by
    obtain ⟨hs, hrest⟩ := List.forall_mem_cons.1 h
    rw [List.foldl_cons, mem_placesOf_foldl hrest, List.exists_mem_cons_iff, ← or_assoc]
    exact or_congr_left (Origins.mem_placesOf_merge hs.origins.names)

theorem patterns_foldl : ∀ (scans : List Scan) (a : Scan), (scans.foldl merge a).dynamicPatterns =
    a.dynamicPatterns ++ scans.flatMap fun s => s.dynamicPatterns
  | [], a => by simp
  | s :: rest, a => by
    rw [List.foldl_cons, patterns_foldl rest, List.flatMap_cons, ← List.append_assoc]
    rfl

theorem warnings_foldl : ∀ (scans : List Scan) (a : Scan), (scans.foldl merge a).warnings =
    a.warnings ++ scans.flatMap fun s => s.warnings
  | [], a => by simp
  | s :: rest, a => by
    rw [List.foldl_cons, warnings_foldl rest, List.flatMap_cons, ← List.append_assoc]
    rfl

theorem ordered_foldl : ∀ {scans : List Scan} {a : Scan}, a.Ordered →
    (scans.foldl merge a).Ordered
  | [], _, h => h
  | s :: _, a, h => ordered_foldl (a := a.merge s) h.merge

/-- Scans merged in any order are alike. -/
theorem alike_of_perm (h : scans.Perm scans') (hscans : ∀ s ∈ scans, s.Ordered) (ha : a.Ordered) :
    Alike (scans.foldl merge a) (scans'.foldl merge a) := by
  have hscans' : ∀ s ∈ scans', s.Ordered := fun s hs => hscans s (h.mem_iff.2 hs)
  have hfolded : (scans.foldl merge a).Ordered := ordered_foldl ha
  have hfolded' : (scans'.foldl merge a).Ordered := ordered_foldl ha
  refine ⟨?classes, fun x => ?origins, fun w => ?patterns, ?warnings⟩
  case classes =>
    refine Sorted.eq_of_mem_iff Sorted.strict_stringLt hfolded.classes hfolded'.classes fun x => ?_
    simp only [mem_classes_foldl, h.mem_iff]
  case origins =>
    refine Origins.lookup_eq hfolded.origins hfolded'.origins ?_ fun place => ?_
    · simp only [mem_names_foldl hscans, mem_names_foldl hscans', h.mem_iff]
    · simp only [mem_placesOf_foldl hscans, mem_placesOf_foldl hscans', h.mem_iff]
  case patterns =>
    rw [patterns_foldl, patterns_foldl]
    exact (((h.flatMap_right _).append_left _).map _).mem_iff
  case warnings =>
    rw [warnings_foldl, warnings_foldl]
    exact (h.flatMap_right _).append_left _

end Scan

/-! ## Patterns -/

/-- Patterns of which each is known by its written form. -/
def Told (patterns : List Pattern) : Prop :=
  ∀ p ∈ patterns, ∀ q ∈ patterns, p.written = q.written → p = q

theorem mem_dedupePatterns_iff {patterns : List Pattern} (h : Told patterns) (p : Pattern) :
    p ∈ dedupePatterns patterns ↔ p ∈ patterns := by
  refine ⟨mem_dedupePatterns, fun hp => ?_⟩
  obtain ⟨q, hq, hwritten⟩ := List.mem_map.1 ((written_dedupePatterns p.written patterns).2
    (List.mem_map_of_mem hp))
  rwa [← h q (mem_dedupePatterns hq) p hp hwritten]

/-- The patterns that are kept of two lists are the same in any order of the first. -/
theorem mem_dedupePatterns_append {a b : List Pattern} (ha : Told a)
    (h : ∀ p, p ∈ a ↔ p ∈ b) (given : List Pattern) (p : Pattern) :
    p ∈ dedupePatterns (a ++ given) ↔ p ∈ dedupePatterns (b ++ given) := by
  have hb : Told b := fun p hp q hq => ha p ((h p).2 hp) q ((h q).2 hq)
  have hseen : ∀ w, w ∈ a.map Pattern.written ++ [] ↔ w ∈ b.map Pattern.written ++ [] := fun w => by
    simp only [List.append_nil, List.mem_map, h]
  rw [dedupePatterns, dedupePatterns, dedupeFrom_append, dedupeFrom_append, List.mem_append,
    List.mem_append, dedupeFrom_congr hseen]
  exact or_congr_left (((mem_dedupePatterns_iff ha p).trans (h p)).trans
    (mem_dedupePatterns_iff hb p).symm)

end StylePrune
