import StylePrune.Proofs.Css.Spaceless
import StylePrune.Prune

/-!
# Used classes and rules that stay

What it means for a class to count as used, in terms of a scan and of options (`Counts`), and for a
rule to have a reason to stay (`Stays`). `uses_iff` and `keeps_iff`: the tests that pruning makes
decide these. `pruneSheet_ok` and `css_written` say what a result of pruning holds.

Whether a class is used does not depend on the order of the patterns (`uses_congr`), so pruning gives
the same with the same patterns in another order (`pruneCss_of_same`). The one thing that shows the
order is a match whose groups are out of order: it is refused if no other pattern matches before it.
-/

namespace StylePrune

open Regex (Pattern)
open Css (Rule)

/-- A class counts as used: the scan found it, the safelist holds it, or a pattern matches it.
`safelist` are the patterns that the options give. -/
def Counts (scan : Scan) (options : PruneOptions) (safelist : List Pattern) (name : Text) : Prop :=
  (∃ c ∈ scan.classes, Text.ofString c = name) ∨
  (∃ entry ∈ options.safelist, ∃ c ∈ tokenizeClassList entry.toList, Text.ofString c = name) ∨
  ∃ p ∈ scan.dynamicPatterns ++ safelist, (p.find? name.codes).isSome = true

/-- A rule has a reason to stay: it declares custom properties of the root, or one of its selectors
names no class or one that counts. -/
def Stays (counts : Text → Prop) (r : Rule) : Prop :=
  Prune.declaresRootProperties r = true ∨
  ∃ selector ∈ r.selectors,
    Css.classNames selector = [] ∨ ∃ name ∈ Css.classNames selector, counts name

/-- A rule with a reason to stay that names a class which does not count has another reason. -/
theorem Stays.other {counts : Text → Prop} {r : Rule} {name : Text} (h : Stays counts r)
    (hn : ¬ counts name) : Stays (fun other => counts other ∧ other ≠ name) r := by
  refine h.imp_right fun ⟨selector, hs, h⟩ => ⟨selector, hs, h.imp_right ?_⟩
  rintro ⟨other, ho, hc⟩
  exact ⟨other, ho, hc, fun e => hn (e ▸ hc)⟩

/-- A rule that names a class that counts has a reason to stay. -/
theorem Stays.of_named {counts : Text → Prop} {r : Rule} {name : Text}
    (hn : name ∈ r.classNames) (hc : counts name) : Stays counts r := by
  obtain ⟨selector, hs, hn⟩ := List.mem_flatMap.1 hn
  exact .inr ⟨selector, hs, .inr ⟨name, hn, hc⟩⟩

theorem usageOf_eq {scan : Scan} {options : PruneOptions} {safelist : List Pattern}
    (hp : readPatterns options.safelistPatterns = .ok safelist) :
    usageOf scan options =
      .ok ⟨scan.classes ++ options.safelist.flatMap fun entry => tokenizeClassList entry.toList,
        scan.dynamicPatterns ++ safelist⟩ := by
  rw [usageOf, hp]; rfl

theorem matchesAny_iff (codes : List Nat) (patterns : List Pattern) :
    matchesAny codes patterns = true ↔ ∃ p ∈ patterns, (p.find? codes).isSome = true := by
  rw [matchesAny, firstMatch?, List.findSome?_isSome_iff]

theorem uses_iff {scan : Scan} {options : PruneOptions} {safelist : List Pattern} {u : Usage}
    (hp : readPatterns options.safelistPatterns = .ok safelist)
    (hu : usageOf scan options = .ok u) (name : Text) :
    u.uses name = true ↔ Counts scan options safelist name := by
  obtain rfl := Except.ok.inj ((usageOf_eq hp).symm.trans hu)
  rw [Usage.uses, Bool.or_eq_true, List.any_append, Bool.or_eq_true, matchesAny_iff, Counts,
    or_assoc]
  simp only [List.any_eq_true, decide_eq_true_eq, List.mem_flatMap]
  refine or_congr_right (or_congr_left ⟨?_, ?_⟩)
  · rintro ⟨c, ⟨entry, he, hc⟩, h⟩
    exact ⟨entry, he, c, hc, h⟩
  · rintro ⟨entry, he, c, hc, h⟩
    exact ⟨c, ⟨entry, he, hc⟩, h⟩

theorem keeps_iff (u : Usage) (r : Rule) :
    Prune.keeps u r = true ↔ Stays (fun name => u.uses name = true) r := by
  simp only [Prune.keeps, Prune.selectorUsed, Stays, Bool.or_eq_true, List.any_eq_true,
    List.isEmpty_iff]

theorem keeps_iff_counts {scan : Scan} {options : PruneOptions} {safelist : List Pattern}
    {u : Usage} (hp : readPatterns options.safelistPatterns = .ok safelist)
    (hu : usageOf scan options = .ok u) (r : Rule) :
    Prune.keeps u r = true ↔ Stays (Counts scan options safelist) r := by
  rw [keeps_iff, funext fun name => propext (uses_iff hp hu name)]

/-- What a style sheet that was read gives, if it gives a result. -/
theorem pruneSheet_ok {u : Usage} {minify : Bool} {size : Nat} {s : Css.Sheet}
    {result : PruneResult} (h : pruneSheet u minify size s = .ok result) :
    let removed := ((Prune.rules s).filter fun r => !Prune.keeps u r).length
    result.stats = ⟨(Prune.rules s).length, removed, (Prune.rules s).length - removed, size,
      result.css.utf8ByteSize⟩ ∧
      result.removedClasses = (classNamesOf s).filter (fun n => !u.uses n) ∧
      result.keptClasses = (classNamesOf s).filter u.uses ∧ result.parsed = true := by
  rw [pruneSheet] at h
  split at h
  · cases h
  · cases h
  · obtain rfl := Except.ok.inj h
    exact ⟨rfl, rfl, rfl, rfl⟩

/-- The output is what is written of the tree that is left. -/
theorem css_written {u : Usage} {minify : Bool} {size : Nat} {s : Css.Sheet} {result : PruneResult}
    (h : pruneSheet u minify size s = .ok result) :
    Text.ofString result.css = Css.written minify (Prune.sheet u s) := by
  rw [pruneSheet] at h
  split at h
  · cases h
  · cases h
  · rename_i css hcss
    obtain rfl := Except.ok.inj h
    exact (Text.eq_ofString_of_toString? hcss).symm

/-- A style sheet that was read is pruned unless a pattern fails on one of its classes or the output
holds a surrogate. -/
theorem pruneSheet_isOk {u : Usage} {minify : Bool} {size : Nat} {s : Css.Sheet} :
    (pruneSheet u minify size s).isOk = true ↔
      (∀ name ∈ classNamesOf s, u.fault? name = none) ∧
        (Css.written minify (Prune.sheet u s)).isPlain = true := by
  have hnames := @List.findSome?_eq_none_iff _ _ u.fault? (classNamesOf s)
  rw [← hnames, ← Text.isOk_toString?, Css.written, pruneSheet]
  simp only
  cases (classNamesOf s).findSome? u.fault? with
  | some e => exact ⟨fun h => (by cases h), fun h => (by cases h.1)⟩
  | none =>
    cases Text.toString? (Css.generateAll minify
      (if minify then Css.Sheet.stripComments (Prune.sheet u s) else Prune.sheet u s)) with
    | error fault => exact ⟨fun h => (by cases h), fun h => (by cases h.2)⟩
    | ok css => exact ⟨fun _ => ⟨rfl, rfl⟩, fun _ => rfl⟩

theorem pruneCss_eq {css : String} {scan : Scan} {options : PruneOptions} {u : Usage}
    {s : Css.Sheet} (hu : usageOf scan options = .ok u) (hs : Css.read css.toList = .ok s) :
    pruneCss css scan options = pruneSheet u options.minify css.utf8ByteSize s := by
  rw [pruneCss, hu, hs]

/-! ## Patterns in any order -/

namespace Usage

variable {u v : Usage}

/-- Usages that name the same classes and hold the same patterns. -/
structure Same (u v : Usage) : Prop where
  names : u.names = v.names
  patterns : ∀ p, p ∈ u.patterns ↔ p ∈ v.patterns

theorem Same.uses (h : u.Same v) : u.uses = v.uses := by
  funext name
  have hmatches : matchesAny name.codes u.patterns = matchesAny name.codes v.patterns := by
    rw [Bool.eq_iff_iff, matchesAny_iff, matchesAny_iff]
    simp only [h.patterns]
  rw [Usage.uses, Usage.uses, h.names, hmatches]

theorem Same.keeps (h : u.Same v) : Prune.keeps u = Prune.keeps v := by
  funext r
  have hselector : Prune.selectorUsed u = Prune.selectorUsed v := by
    funext selector
    rw [Prune.selectorUsed, Prune.selectorUsed, h.uses]
  rw [Prune.keeps, Prune.keeps, hselector]

theorem Same.sheet (h : u.Same v) (s : Css.Sheet) : Prune.sheet u s = Prune.sheet v s := by
  have hunused : Prune.isUnused u = Prune.isUnused v := by
    funext n
    cases n with
    | rule r => exact congrArg (!·) (congrFun h.keeps r)
    | _ => rfl
  rw [Prune.sheet, Prune.sheet, Prune.removeRules, Prune.removeRules, hunused]

/-- There is one reason only why it cannot be said whether a class is used. -/
theorem eq_of_fault? {name : Text} {e : Regex.PatternError} (h : u.fault? name = some e) :
    e = .disorderedGroups := by
  rw [fault?] at h
  split at h
  · cases h
  split at h
  · cases h
  · rename_i hmatch
    obtain rfl := Option.some.inj h
    rw [checkedMatch] at hmatch
    split at hmatch
    · cases hmatch
    · split at hmatch
      · cases hmatch
      · exact (Except.error.inj hmatch).symm

end Usage

/-- A style sheet is pruned alike with the same classes and patterns, unless a match has its groups
out of order. -/
theorem pruneSheet_of_same {u v : Usage} (h : u.Same v) (minify : Bool) (size : Nat)
    (s : Css.Sheet) :
    pruneSheet u minify size s = pruneSheet v minify size s ∨
      pruneSheet u minify size s = .error (.pattern .disorderedGroups) ∨
      pruneSheet v minify size s = .error (.pattern .disorderedGroups) := by
  have hfault {u : Usage} {e : Regex.PatternError}
      (he : (classNamesOf s).findSome? u.fault? = some e) :
      pruneSheet u minify size s = .error (.pattern .disorderedGroups) := by
    obtain ⟨name, -, hname⟩ := List.exists_of_findSome?_eq_some he
    rw [pruneSheet, he, Usage.eq_of_fault? hname]
  cases hu : (classNamesOf s).findSome? u.fault? with
  | some e => exact .inr (.inl (hfault hu))
  | none =>
    cases hv : (classNamesOf s).findSome? v.fault? with
    | some e => exact .inr (.inr (hfault hv))
    | none =>
      refine .inl ?_
      rw [pruneSheet, pruneSheet, hu, hv, h.sheet, h.uses, h.keeps]

/-- A text is pruned alike with scans that have the same classes and patterns, unless a match has
its groups out of order. -/
theorem pruneCss_of_same {a b : Scan} (hclasses : a.classes = b.classes)
    (hpatterns : ∀ p, p ∈ a.dynamicPatterns ↔ p ∈ b.dynamicPatterns) (css : String)
    (options : PruneOptions) :
    pruneCss css a options = pruneCss css b options ∨
      pruneCss css a options = .error (.pattern .disorderedGroups) ∨
      pruneCss css b options = .error (.pattern .disorderedGroups) := by
  rw [pruneCss, pruneCss, usageOf, usageOf]
  cases readPatterns options.safelistPatterns with
  | error e => exact .inl rfl
  | ok safelist =>
    simp only [Except.map]
    cases Css.read css.toList with
    | error e => exact .inl (by cases e <;> rfl)
    | ok s =>
      refine pruneSheet_of_same ⟨?_, fun p => ?_⟩ options.minify css.utf8ByteSize s
      · rw [hclasses]
      · rw [List.mem_append, List.mem_append, hpatterns]

end StylePrune
