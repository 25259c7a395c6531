import StylePrune.Proofs.Content.Shape

/-!
# Merging scans

What merging makes of the origins is stated by looking a class up: `lookup_add`, `lookup_merge`.
With the names in their order this says all about origins (`eq_of_lookup`), so scans whose sets are
in order (`Scan.Ordered`) merge as sets do: the empty scan adds nothing on either side, and a class
may be added before merging or after it (`merge_addClass`).
-/

namespace StylePrune

namespace Sorted

theorem unionStrings_assoc {xs : List String} (h : xs.Pairwise fun a b => stringLt a b = true)
    (ys zs : List String) :
    unionStrings (unionStrings xs ys) zs = unionStrings xs (unionStrings ys zs) := by
  refine eq_of_mem_iff strict_stringLt (pairwise_union strict_stringLt zs
    (pairwise_union strict_stringLt ys h)) (pairwise_union strict_stringLt _ h) fun x => ?_
  simp only [unionStrings, mem_union strict_stringLt, or_assoc]

theorem unionStrings_nil_left {xs : List String}
    (h : xs.Pairwise fun a b => stringLt a b = true) : unionStrings [] xs = xs :=
  ofList_eq_self strict_stringLt h

end Sorted

namespace Origins

open Sorted (unionStrings)

/-- The classes that origins name. -/
def names (o : Origins) : List String := o.map Prod.fst

/-- The origins of two scans. -/
def merge (a b : Origins) : Origins := b.foldl (fun o entry => o.add entry.1 entry.2) a

theorem names_add (o : Origins) (name : String) (places : List String) :
    (o.add name places).names = if name ∈ o.names then o.names else o.names ++ [name] := by
  induction o with
  | nil => rfl
  | cons entry rest ih =>
    obtain ⟨other, known⟩ := entry
    rw [add]
    by_cases e : other = name
    · rw [if_pos e, if_pos (by rw [← e]; exact List.mem_cons_self)]
      rfl
    · rw [if_neg e]
      have hmem : name ∈ names ((other, known) :: rest) ↔ name ∈ names rest :=
        List.mem_cons.trans (or_iff_right fun h => e h.symm)
      rw [show names ((other, known) :: add rest name places) =
        other :: names (add rest name places) from rfl, ih]
      by_cases hin : name ∈ names rest
      · rw [if_pos hin, if_pos (hmem.2 hin)]
        rfl
      · rw [if_neg hin, if_neg fun h => hin (hmem.1 h)]
        rfl

theorem lookup_add (o : Origins) (name : String) (places : List String) (x : String) :
    (o.add name places).lookup x =
      if x = name then some (unionStrings ((o.lookup name).getD []) places) else o.lookup x := by
  induction o with
  | nil =>
    rw [add, List.lookup_cons]
    by_cases e : x = name
    · rw [if_pos e, e, beq_self_eq_true]
      rfl
    · rw [if_neg e, beq_eq_false_iff_ne.2 e]
  | cons entry rest ih =>
    obtain ⟨other, known⟩ := entry
    rw [add]
    by_cases e : other = name
    · rw [if_pos e, ← e, List.lookup_cons, List.lookup_cons, List.lookup_cons]
      by_cases hx : x = other
      · rw [hx, beq_self_eq_true, if_pos rfl]
        rfl
      · rw [beq_eq_false_iff_ne.2 hx, if_neg hx]
    · rw [if_neg e, List.lookup_cons, List.lookup_cons, List.lookup_cons, ih,
        beq_eq_false_iff_ne.2 (Ne.symm e)]
      by_cases hx : x = other
      · rw [hx, beq_self_eq_true]
        exact (if_neg e).symm
      · rw [beq_eq_false_iff_ne.2 hx]

theorem lookup_eq_none {o : Origins} {x : String} : o.lookup x = none ↔ x ∉ o.names := by
  rw [List.lookup_eq_none_iff, names, List.mem_map]
  constructor
  · rintro h ⟨entry, hm, rfl⟩
    simpa using h entry hm
  · exact fun h entry hm => bne_iff_ne.2 fun e => h ⟨entry, hm, e.symm⟩

theorem merge_cons (a : Origins) (entry : String × List String) (rest : Origins) :
    a.merge (entry :: rest) = (a.add entry.1 entry.2).merge rest := rfl

theorem lookup_merge {b : Origins} (h : b.names.Nodup) (a : Origins) (x : String) :
    (a.merge b).lookup x =
      match b.lookup x with
      | none => a.lookup x
      | some places => some (unionStrings ((a.lookup x).getD []) places) := by
  induction b generalizing a with
  | nil => rfl
  | cons entry rest ih =>
    obtain ⟨hentry, hrest⟩ := List.nodup_cons.1 h
    rw [merge_cons, ih hrest, List.lookup_cons, lookup_add]
    by_cases e : x = entry.1
    · rw [e, lookup_eq_none.2 hentry, beq_self_eq_true, if_pos rfl]
    · rw [beq_eq_false_iff_ne.2 e, if_neg e]

theorem names_merge {b : Origins} (h : b.names.Nodup) (a : Origins) :
    (a.merge b).names = a.names ++ b.names.filter fun x => x ∉ a.names := by
  induction b generalizing a with
  | nil => simp [merge, names]
  | cons entry rest ih =>
    obtain ⟨hentry, hrest⟩ := List.nodup_cons.1 h
    rw [merge_cons, ih hrest, names_add]
    rw [show names (entry :: rest) = entry.1 :: names rest from rfl, List.filter_cons]
    by_cases hm : entry.1 ∈ a.names
    · simp [hm]
    · have hfilter : (names rest).filter (fun x => x ∉ a.names ++ [entry.1]) =
          (names rest).filter fun x => x ∉ a.names := by
        refine List.filter_congr fun x hx => decide_eq_decide.2 ?_
        rw [List.mem_append, not_or, List.mem_singleton]
        exact and_iff_left fun e => hentry (e ▸ hx)
      rw [if_neg hm, hfilter, if_pos (by simpa using hm), List.append_assoc, List.singleton_append]

/-- Origins are known by their names, in order, and by what they hold for each. -/
theorem eq_of_lookup {a b : Origins} (ha : a.names.Nodup) (hnames : a.names = b.names)
    (hlookup : ∀ x, a.lookup x = b.lookup x) : a = b := by
  induction a generalizing b with
  | nil =>
    exact (List.map_eq_nil_iff.1 hnames.symm).symm
  | cons entry rest ih =>
    cases b with
    | nil => cases hnames
    | cons other rest' =>
      obtain ⟨hentry, hrest⟩ := List.nodup_cons.1 ha
      obtain ⟨hname, hnames'⟩ := List.cons.inj hnames
      have hhead := hlookup entry.1
      rw [List.lookup_cons, List.lookup_cons, ← hname, beq_self_eq_true] at hhead
      have htail : rest = rest' := by
        refine ih hrest hnames' fun x => ?_
        by_cases e : x = entry.1
        · have hother : entry.1 ∉ names rest' := fun h => hentry (hnames' ▸ h)
          rw [e, lookup_eq_none.2 hentry, lookup_eq_none.2 hother]
        · have := hlookup x
          rw [List.lookup_cons, List.lookup_cons, ← hname, beq_eq_false_iff_ne.2 e] at this
          exact this
      rw [htail, Prod.ext hname (Option.some.inj hhead)]

theorem WellFormed.lookup {o : Origins} (h : o.WellFormed) (x : String) :
    ((List.lookup x o).getD []).Pairwise fun a b => Sorted.stringLt a b = true := by
  cases hx : List.lookup x o with
  | none => exact .nil
  | some places =>
    obtain ⟨before, after, rfl, -⟩ := List.lookup_eq_some_iff.1 hx
    exact h.places _ (List.mem_append_right before List.mem_cons_self)

theorem WellFormed.merge {a b : Origins} (h : a.WellFormed) : (a.merge b).WellFormed := by
  induction b generalizing a with
  | nil => exact h
  | cons entry rest ih => exact ih (h.add entry.1 entry.2)

theorem nil_merge {o : Origins} (h : o.WellFormed) : Origins.merge [] o = o := by
  have hnames : (Origins.merge [] o).names = o.names := by
    rw [names_merge h.names]
    simp [names]
  refine eq_of_lookup (hnames ▸ h.names) hnames fun x => ?_
  rw [lookup_merge h.names]
  cases hx : o.lookup x with
  | none => rfl
  | some places =>
    exact congrArg some (Sorted.unionStrings_nil_left (by simpa [hx] using h.lookup x))

theorem merge_add {a b : Origins} (ha : a.WellFormed) (hb : b.WellFormed) (name : String)
    (places : List String) : a.merge (b.add name places) = (a.merge b).add name places := by
  have hadd := hb.add name places
  refine eq_of_lookup ha.merge.names ?_ fun x => ?_
  · rw [names_merge hadd.names, names_add, names_add, names_merge hb.names]
    by_cases hname : name ∈ b.names
    · by_cases hin : name ∈ a.names <;> simp [hname, hin]
    · by_cases hin : name ∈ a.names <;> simp [hname, hin]
  · rw [lookup_merge hadd.names, lookup_add, lookup_add, lookup_merge hb.names,
      lookup_merge hb.names]
    by_cases e : x = name
    · rw [if_pos e, if_pos e, e]
      cases b.lookup name with
      | none =>
        simp only [Option.getD_none]
        rw [← Sorted.unionStrings_assoc (ha.lookup name)]
        rfl
      | some known =>
        simp only [Option.getD_some]
        rw [Sorted.unionStrings_assoc (ha.lookup name)]
    · rw [if_neg e, if_neg e]

end Origins

namespace Scan

/-- Scans whose sets are in order. -/
structure Ordered (scan : Scan) : Prop where
  classes : scan.classes.Pairwise fun a b => Sorted.stringLt a b = true
  origins : scan.origins.WellFormed

theorem WellFormed.ordered {scan : Scan} (h : scan.WellFormed) : scan.Ordered :=
  ⟨h.classes, h.origins⟩

theorem Ordered.empty : ({} : Scan).Ordered := WellFormed.empty.ordered

theorem Ordered.addClass {scan : Scan} (h : scan.Ordered) (name : String)
    (origin : Option String) : (scan.addClass name origin).Ordered where
  classes := Sorted.pairwise_insert Sorted.strict_stringLt name h.classes
  origins := match origin with
    | none => h.origins
    | some place => h.origins.add name [place]

theorem Ordered.merge {a b : Scan} (h : a.Ordered) : (a.merge b).Ordered where
  classes := Sorted.pairwise_union Sorted.strict_stringLt b.classes h.classes
  origins := h.origins.merge

theorem merge_empty (a : Scan) : a.merge {} = a := by
  simp [Scan.merge, Sorted.unionStrings, Sorted.union]

theorem empty_merge {b : Scan} (h : b.Ordered) : Scan.merge {} b = b := by
  have horigins := Origins.nil_merge h.origins
  have hclasses := Sorted.unionStrings_nil_left h.classes
  cases b
  simp only [Scan.merge, List.nil_append, Scan.mk.injEq, and_true, true_and]
  exact ⟨hclasses, horigins⟩

theorem merge_addClass {a b : Scan} (ha : a.Ordered) (hb : b.Ordered) (name : String)
    (origin : Option String) :
    a.merge (b.addClass name origin) = (a.merge b).addClass name origin := by
  have hclasses : Sorted.unionStrings a.classes (Sorted.insertString name b.classes) =
      Sorted.insertString name (Sorted.unionStrings a.classes b.classes) := by
    refine Sorted.eq_of_mem_iff Sorted.strict_stringLt
      (Sorted.pairwise_union Sorted.strict_stringLt _ ha.classes)
      (Sorted.pairwise_insert Sorted.strict_stringLt name
        (Sorted.pairwise_union Sorted.strict_stringLt _ ha.classes)) fun x => ?_
    simp only [Sorted.unionStrings, Sorted.insertString, Sorted.mem_union Sorted.strict_stringLt,
      Sorted.mem_insert Sorted.strict_stringLt]
    exact or_left_comm
  cases origin with
  | none => simp only [Scan.merge, addClass, hclasses]
  | some place =>
    have horigins := Origins.merge_add ha.origins hb.origins name [place]
    simp only [Scan.merge, addClass, hclasses, Scan.mk.injEq, and_true, true_and]
    exact horigins

end Scan

end StylePrune
