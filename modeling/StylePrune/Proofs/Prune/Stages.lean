import Mathlib.Data.List.Basic
import StylePrune.Proofs.Css.Spaceless
import StylePrune.Proofs.Prune.Passes

/-!
# More use, and pruning in stages

A rule that has a reason to stay keeps it when more classes count as used (`keeps_mono`), so of two
prunings of a style sheet the one with more use keeps more rules and classes and removes fewer. To
prune with it first and with the other one then gives the tree of the other one alone, up to white
space (`spaceless_stages`): a block that is empty after the first stage would be empty after the
second one too.
-/

namespace StylePrune.Prune

open Regex (Pattern)
open Css (Sheet Node Rule Shallow Spaceblind sifted)

/-! ## The tree of a pruning, up to white space -/

theorem shallow_isUnused (u : Usage) : Shallow (isUnused u) where
  same _ n := by cases n <;> rfl

theorem spaceblind_isUnused (u : Usage) : Spaceblind (isUnused u) where
  blank := (judges_rules u).blank
  below := (shallow_isUnused u).same _

theorem spaceblind_isEmptied : Spaceblind isEmptied where
  blank := judges_emptied.blank
  below n := by
    cases n with
    | ruleBlock k pre nodes =>
      simp only [Node.sifted, isEmptied, Node.isEmptyBlock, Css.all_isBlank_spaceless]
      rfl
    | _ => rfl

/-- An emptied block stays one with fewer nodes in it. -/
theorem isEmptied_sifted (p : Node → Bool) (n : Node) (h : isEmptied n = true) :
    isEmptied (n.sifted p) = true := by
  cases n with
  | ruleBlock k pre nodes =>
    simp only [isEmptied, Node.isEmptyBlock, Bool.and_eq_true] at h
    simp only [Node.sifted, isEmptied, Node.isEmptyBlock, Bool.and_eq_true]
    exact ⟨h.1, Css.all_isBlank_sifted p h.2⟩
  | _ => exact h

theorem spaceless_sheet (u : Usage) (s : Sheet) :
    (sheet u s).spaceless = sifted isEmptied (sifted (isUnused u) s.spaceless) := by
  rw [sheet, removeEmptied, removeRules, Sheet.spaceless,
    Css.spaceless_removeWhere spaceblind_isEmptied,
    Css.spaceless_removeWhere (spaceblind_isUnused u)]
  rfl

/-- What holds less often fails more often. -/
theorem not_of_imp {a b : Bool} (h : a = true → b = true) (hb : (!b) = true) : (!a) = true := by
  rw [Bool.not_eq_true'] at hb ⊢
  exact Bool.eq_false_iff.2 fun ha => Bool.eq_false_iff.1 hb (h ha)

/-- Pruning with more use first changes nothing, up to white space. -/
theorem spaceless_stages {u v : Usage} (h : ∀ r, keeps u r = true → keeps v r = true) (s : Sheet) :
    (sheet u (sheet v s)).spaceless = (sheet u s).spaceless := by
  have hwider : ∀ n, isUnused v n = true → isUnused u n = true := by
    intro n hn
    cases n with
    | rule r => exact not_of_imp (h r) hn
    | _ => exact hn
  calc (sheet u (sheet v s)).spaceless
    _ = sifted isEmptied (sifted (isUnused u)
          (sifted isEmptied (sifted (isUnused v) s.spaceless))) := by
      rw [spaceless_sheet, spaceless_sheet]
    _ = sifted isEmptied (sifted (isUnused u) (sifted (isUnused v) s.spaceless)) :=
      Css.sifted_early (shallow_isUnused u) isEmptied_sifted _
    _ = sifted isEmptied (sifted (isUnused u) s.spaceless) := by
      rw [Css.sifted_of_imp (shallow_isUnused v) (shallow_isUnused u) hwider]
    _ = (sheet u s).spaceless := (spaceless_sheet u s).symm

/-! ## More use -/

theorem Stays.mono {counts counts' : Text → Prop} (h : ∀ name, counts name → counts' name)
    {r : Rule} (hr : Stays counts r) : Stays counts' r := by
  refine hr.imp_right fun ⟨selector, hs, hnames⟩ => ⟨selector, hs, hnames.imp_right ?_⟩
  rintro ⟨name, hn, hc⟩
  exact ⟨name, hn, h name hc⟩

theorem keeps_mono {u v : Usage} (h : ∀ name, u.uses name = true → v.uses name = true) (r : Rule)
    (hr : keeps u r = true) : keeps v r = true :=
  (keeps_iff v r).2 (Stays.mono h ((keeps_iff u r).1 hr))

/-- More use never removes more, and pruning in stages is pruning once. If every class that counts
as used for a first scan and options does so for second ones too, the rules left of a style sheet by
the first are in the same order and places among those left by the second, the second remove no
more rules, remove only classes that the first remove and keep all that the first keep, and the
tree that the second and then the first leave is the one that the first leave, up to white space. -/
theorem more_usage_keeps {css : String} {scan₁ scan₂ : Scan} {options₁ options₂ : PruneOptions}
    {safelist₁ safelist₂ : List Pattern} {s : Sheet}
    (hp₁ : readPatterns options₁.safelistPatterns = .ok safelist₁)
    (hp₂ : readPatterns options₂.safelistPatterns = .ok safelist₂)
    (hs : Css.read css.toList = .ok s)
    (h : ∀ name, Counts scan₁ options₁ safelist₁ name → Counts scan₂ options₂ safelist₂ name) :
    ∃ u₁ u₂, usageOf scan₁ options₁ = .ok u₁ ∧ usageOf scan₂ options₂ = .ok u₂ ∧
      (passed u₁ s).placed.Sublist (passed u₂ s).placed ∧
      (rulePass u₂ s).removed ≤ (rulePass u₁ s).removed ∧
      (passed u₁ (passed u₂ s)).spaceless = (passed u₁ s).spaceless ∧
      ∀ result₁ result₂, pruneCss css scan₁ options₁ = .ok result₁ →
        pruneCss css scan₂ options₂ = .ok result₂ →
          result₂.stats.removedRules ≤ result₁.stats.removedRules ∧
          result₂.removedClasses.Sublist result₁.removedClasses ∧
          result₁.keptClasses.Sublist result₂.keptClasses := by
  obtain ⟨u₁, hu₁⟩ : ∃ u, usageOf scan₁ options₁ = .ok u := ⟨_, usageOf_eq hp₁⟩
  obtain ⟨u₂, hu₂⟩ : ∃ u, usageOf scan₂ options₂ = .ok u := ⟨_, usageOf_eq hp₂⟩
  have huses : ∀ name, u₁.uses name = true → u₂.uses name = true := fun name hn =>
    (uses_iff hp₂ hu₂ name).2 (h name ((uses_iff hp₁ hu₁ name).1 hn))
  have hkeeps : ∀ r, keeps u₁ r = true → keeps u₂ r = true := keeps_mono huses
  have hplaced : (passed u₁ s).placed.Sublist (passed u₂ s).placed := by
    rw [passed_eq, passed_eq, placed_sheet, placed_sheet]
    exact List.monotone_filter_right _ fun x hx => hkeeps x.2 hx
  have hremoved : (rulePass u₂ s).removed ≤ (rulePass u₁ s).removed := by
    rw [rulePass_removed, rulePass_removed]
    refine (List.monotone_filter_right _ fun x hx => ?_).length_le
    exact not_of_imp (hkeeps x.2) hx
  refine ⟨u₁, u₂, hu₁, hu₂, hplaced, hremoved, ?_, fun result₁ result₂ h₁ h₂ => ?_⟩
  · rw [passed_eq, passed_eq, passed_eq]
    exact spaceless_stages hkeeps s
  · rw [pruneCss_eq hu₁ hs] at h₁
    rw [pruneCss_eq hu₂ hs] at h₂
    obtain ⟨-, hremoved₁, hkept₁, -⟩ := pruneSheet_ok h₁
    obtain ⟨-, hremoved₂, hkept₂, -⟩ := pruneSheet_ok h₂
    refine ⟨?_, ?_, ?_⟩
    · rw [(stats_rulePass h₁).2.1, (stats_rulePass h₂).2.1]
      exact hremoved
    · rw [hremoved₁, hremoved₂]
      exact List.monotone_filter_right _ fun name => not_of_imp (huses name)
    · rw [hkept₁, hkept₂]
      exact List.monotone_filter_right _ huses

/-- A block that the first use empties and the second does not. -/
theorem more_usage_keeps_block :
    ∃ s, readPatterns [] = .ok [] ∧ Css.read "@media x{.a{}.b{}} .c{}".toList = .ok s ∧
      (∀ name, Counts { classes := ["c"] } {} [] name →
        Counts { classes := ["b", "c"] } {} [] name) ∧
      (passed ⟨["c"], []⟩ s).placed.Sublist (passed ⟨["b", "c"], []⟩ s).placed ∧
      (passed ⟨["c"], []⟩ s).placed.length = 1 ∧ (passed ⟨["b", "c"], []⟩ s).placed.length = 2 ∧
      (passed ⟨["c"], []⟩ (passed ⟨["b", "c"], []⟩ s)).spaceless =
        (passed ⟨["c"], []⟩ s).spaceless := by
  have read : (match Css.read "@media x{.a{}.b{}} .c{}".toList with
      | .ok s => (s.placed.filter fun x => keeps ⟨["c"], []⟩ x.2).length == 1 &&
        (s.placed.filter fun x => keeps ⟨["b", "c"], []⟩ x.2).length == 2
      | .error _ => false) = true := by decide +kernel
  have more : ∀ name, Counts { classes := ["c"] } {} [] name →
      Counts { classes := ["b", "c"] } {} [] name := by
    rintro name (⟨c, hc, hname⟩ | h)
    · exact .inl ⟨c, .tail _ hc, hname⟩
    · exact .inr h
  cases hs : Css.read "@media x{.a{}.b{}} .c{}".toList with
  | error e => rw [hs] at read; cases read
  | ok s =>
    rw [hs, Bool.and_eq_true, beq_iff_eq, beq_iff_eq] at read
    obtain ⟨u₁, u₂, hu₁, hu₂, hplaced, -, hstages, -⟩ :=
      @more_usage_keeps "@media x{.a{}.b{}} .c{}" _ _ {} {} [] [] s rfl rfl hs more
    obtain rfl := Except.ok.inj hu₁
    obtain rfl := Except.ok.inj hu₂
    refine ⟨s, rfl, rfl, more, hplaced, ?_, ?_, hstages⟩
    · rw [passed_eq, placed_sheet]
      exact read.1
    · rw [passed_eq, placed_sheet]
      exact read.2

end StylePrune.Prune
