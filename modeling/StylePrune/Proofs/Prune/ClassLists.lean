import StylePrune.Proofs.Css.Spelled
import StylePrune.Proofs.Prune.Passes
import StylePrune.Proofs.Sorted

/-!
# The class lists of a result

The kept and the removed classes of a result part the classes that the style sheet names, by whether
they count as used (`Parts`). They agree with the rules that are left (`Fits`): a rule that names a
kept class is left in its place, and a rule that is left although it names a removed class has
another reason to stay.
-/

namespace StylePrune.Prune

open Regex (Pattern)
open Css (Sheet Rule)

/-- A selector of the style sheet names the class. -/
def Named (s : Sheet) (name : Text) : Prop := ∃ x ∈ s.placed, name ∈ x.2.classNames

def Increasing (names : List Text) : Prop := names.Pairwise fun a b => a.codes < b.codes

/-- Two lists that part the classes of a style sheet, in order. -/
structure Parts (counts : Text → Prop) (s : Sheet) (kept removed : List Text) : Prop where
  kept_increasing : Increasing kept
  removed_increasing : Increasing removed
  disjoint : ∀ name ∈ kept, name ∉ removed
  union : ∀ name, name ∈ kept ∨ name ∈ removed ↔ Named s name
  kept_iff : ∀ name, name ∈ kept ↔ Named s name ∧ counts name

/-- Lists of classes that agree with the rules left of a style sheet. Among them the rules that name
a kept class are as before, and those that name a removed class stay for a reason other than that
class. -/
structure Fits (counts : Text → Prop) (s pruned : Sheet) (kept removed : List Text) : Prop where
  declared : (pruned.placed.filter fun x => x.2.classNames.any kept.contains) =
    s.placed.filter fun x => x.2.classNames.any kept.contains
  reason : ∀ x ∈ pruned.placed, ∀ name ∈ removed, name ∈ x.2.classNames →
    Stays (fun other => counts other ∧ other ≠ name) x.2

/-! ## The names of a style sheet -/

theorem mem_classNamesOf {css : List Char} {s : Sheet} (hs : Css.read css = .ok s) (name : Text) :
    name ∈ classNamesOf s ↔ Named s name := by
  rw [classNamesOf, Sorted.mem_ofList Text.strict_lt, List.mem_filter, rules_eq]
  simp only [List.mem_flatMap, List.mem_map, Named, Bool.not_eq_true', List.isEmpty_eq_false_iff]
  constructor
  · rintro ⟨⟨r, ⟨x, hx, rfl⟩, hn⟩, -⟩
    exact ⟨x, hx, hn⟩
  · rintro ⟨x, hx, hn⟩
    exact ⟨⟨x.2, ⟨x, hx, rfl⟩, hn⟩, Css.classNames_read hs x hx name hn⟩

theorem increasing_classNamesOf (s : Sheet) : Increasing (classNamesOf s) :=
  (Sorted.pairwise_ofList Text.strict_lt _).imp Text.lt_iff.1

/-! ## Lists that the use of a class decides -/

section

variable {counts : Text → Prop} {uses : Text → Bool} {s : Sheet} {names : List Text}

theorem parts_filter (hu : ∀ name, uses name = true ↔ counts name) (hi : Increasing names)
    (hm : ∀ name, name ∈ names ↔ Named s name) :
    Parts counts s (names.filter uses) (names.filter fun n => !uses n) where
  kept_increasing := hi.filter _
  removed_increasing := hi.filter _
  disjoint name hk hr := by
    have hk := (List.mem_filter.1 hk).2
    have hr := (List.mem_filter.1 hr).2
    rw [hk] at hr
    cases hr
  union name := by
    rw [List.mem_filter, List.mem_filter, ← and_or_left, hm]
    cases uses name <;> simp
  kept_iff name := by rw [List.mem_filter, hm, hu]

theorem fits_sheet {u : Usage} {kept removed : List Text}
    (hk : ∀ r, keeps u r = true ↔ Stays counts r) (hp : Parts counts s kept removed) :
    Fits counts s (sheet u s) kept removed where
  declared := placed_filter (fun x hx => by
    obtain ⟨name, hn, hm⟩ := List.any_eq_true.1 hx
    have hc := ((hp.kept_iff name).1 (List.contains_iff_mem.1 hm)).2
    exact (hk x.2).2 (Stays.of_named hn hc)) s
  reason x hx name hr hn := by
    rw [placed_sheet, List.mem_filter] at hx
    refine ((hk x.2).1 hx.2).other fun hc => ?_
    have hnamed : Named s name := (hp.union name).1 (.inr hr)
    exact hp.disjoint name ((hp.kept_iff name).2 ⟨hnamed, hc⟩) hr

end

/-- The class lists of a result part the classes that the style sheet names and agree with the rules
that are left; both are empty for a text that is no style sheet. -/
theorem classLists_agree {scan : Scan} {options : PruneOptions} {safelist : List Pattern}
    (hp : readPatterns options.safelistPatterns = .ok safelist) :
    ∃ u, usageOf scan options = .ok u ∧ ∀ css : String,
      (∀ s result, Css.read css.toList = .ok s → pruneCss css scan options = .ok result →
        collectClassNames css = .ok (classNamesOf s) ∧
        (∀ name, name ∈ classNamesOf s ↔ Named s name) ∧
        Parts (Counts scan options safelist) s result.keptClasses result.removedClasses ∧
        Fits (Counts scan options safelist) s (sheet u s) result.keptClasses
          result.removedClasses) ∧
      (∀ e, Css.read css.toList = .error (.broken e) →
        ∃ result, pruneCss css scan options = .ok result) ∧
      ∀ e result, Css.read css.toList = .error e → pruneCss css scan options = .ok result →
        result.keptClasses = [] ∧ result.removedClasses = [] := by
  obtain ⟨u, hu⟩ : ∃ u, usageOf scan options = .ok u := ⟨_, usageOf_eq hp⟩
  refine ⟨u, hu, fun css => ⟨fun s result hs hr => ?_, fun e he => ?_,
    fun e result he hr => ?_⟩⟩
  · have hm := mem_classNamesOf hs
    rw [pruneCss_eq hu hs] at hr
    obtain ⟨-, hremoved, hkept, -⟩ := pruneSheet_ok hr
    have hparts : Parts (Counts scan options safelist) s _ _ :=
      parts_filter (uses_iff hp hu) (increasing_classNamesOf s) hm
    rw [collectClassNames, hs, hremoved, hkept]
    exact ⟨rfl, hm, hparts, fits_sheet (keeps_iff_counts hp hu) hparts⟩
  · exact ⟨_, by rw [pruneCss, hu, he]⟩
  · rw [pruneCss, hu, he] at hr
    cases e with
    | broken e =>
      obtain rfl := Except.ok.inj hr
      exact ⟨rfl, rfl⟩
    | integerTooLong digits => cases hr

/-- A removed class stays in the selector list of a kept one, and a text with an open block has no
classes. -/
theorem classLists_agree_shared :
    readPatterns [] = .ok [] ∧
      (∃ s result, Css.read "a.c,.b{}.c{}".toList = .ok s ∧
        pruneCss "a.c,.b{}.c{}" { classes := ["b"] } {} = .ok result ∧
        result.keptClasses = [Text.ofString "b"] ∧ result.removedClasses = [Text.ofString "c"] ∧
        Fits (Counts { classes := ["b"] } {} []) s (sheet ⟨["b"], []⟩ s) result.keptClasses
          result.removedClasses) ∧
      ∃ e result, Css.read ".b\x7b".toList = .error (.broken e) ∧
        pruneCss ".b\x7b" { classes := ["b"] } {} = .ok result ∧ result.keptClasses = [] := by
  obtain ⟨u, hu, h⟩ := @classLists_agree { classes := ["b"] } {} [] rfl
  obtain rfl := Except.ok.inj hu
  refine ⟨rfl, ?_, ?_⟩
  · have lists : (pruneCss "a.c,.b{}.c{}" { classes := ["b"] } {}).toOption.map
        (fun result => (result.keptClasses, result.removedClasses)) =
          some ([Text.ofString "b"], [Text.ofString "c"]) := by decide +kernel
    have ok : (Css.read "a.c,.b{}.c{}".toList).isOk = true := by decide +kernel
    cases hs : Css.read "a.c,.b{}.c{}".toList with
    | error e => rw [hs] at ok; cases ok
    | ok s =>
      cases hr : pruneCss "a.c,.b{}.c{}" { classes := ["b"] } {} with
      | error e => rw [hr] at lists; cases lists
      | ok result =>
        rw [hr] at lists
        obtain ⟨hkept, hremoved⟩ := Prod.mk.inj (Option.some.inj lists)
        exact ⟨s, result, rfl, rfl, hkept, hremoved, ((h _).1 s result hs hr).2.2.2⟩
  · have he : Css.read ".b\x7b".toList = .error (.broken (.unbalanced (.unclosed '\x7d' 1))) := by
      with_unfolding_all rfl
    obtain ⟨result, hr⟩ := (h _).2.1 _ he
    exact ⟨_, result, he, hr, ((h _).2.2 _ result he hr).1⟩

end StylePrune.Prune
