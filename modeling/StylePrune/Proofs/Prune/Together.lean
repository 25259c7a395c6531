import Mathlib.Algebra.GroupWithZero.Nat
import StylePrune.Proofs.Css.Joined
import StylePrune.Proofs.Css.Spaceless
import StylePrune.Proofs.Prune.ClassLists
import StylePrune.Proofs.Prune.Stages

/-!
# Style sheets pruned as one

Style sheets that end whole can be pruned one by one or put together in one text, each on lines of
its own (`PrunedAlone.exists_joined`). Together they give what they give alone (`Together`): the
counts are sums, what is left is left of the one and then of the other, and the class lists are
unions. What is removed depends neither on the places of tokens (`sheet_unplaced`) nor on white
space, so it is enough that the trees agree up to both.
-/

namespace StylePrune

open Css (Sheet Node Rule Enclosing)

namespace Prune

/-! ## Places play no part -/

theorem declaresRootProperties_unplaced (r : Rule) :
    declaresRootProperties r.unplaced = declaresRootProperties r := by
  rw [declaresRootProperties, declaresRootProperties, Rule.selectorText_unplaced,
    Css.declaresCustomProperty, Css.declaresCustomProperty]
  exact congrArg _ (Css.CustomProperties.find_unplaced r.content .declaration)

theorem selectorUsed_unplaced (u : Usage) (selector : List Css.Token) :
    selectorUsed u (Css.unplacedTokens selector) = selectorUsed u selector := by
  have : Css.classNames (Css.unplacedTokens selector) = Css.classNames selector :=
    Css.classNamesAfter_unplaced selector false
  rw [selectorUsed, selectorUsed, this]

theorem keeps_unplaced (u : Usage) (r : Rule) : keeps u r.unplaced = keeps u r := by
  rw [keeps, keeps, declaresRootProperties_unplaced, Rule.selectors_unplaced, List.any_map]
  exact congrArg _ (congrArg r.selectors.any (funext (selectorUsed_unplaced u)))

theorem isUnused_unplaced (u : Usage) (n : Node) : isUnused u n.unplaced = isUnused u n := by
  cases n with
  | rule r => exact congrArg (! ·) (keeps_unplaced u r)
  | _ => rfl

theorem isEmptied_unplaced (n : Node) : isEmptied n.unplaced = isEmptied n := by
  rw [isEmptied, isEmptied, isPreserved, isPreserved, Node.name_unplaced,
    Node.isEmptyBlock_unplaced]

theorem sheet_unplaced (u : Usage) (s : Sheet) : sheet u s.unplaced = (sheet u s).unplaced := by
  rw [sheet, removeRules, removeEmptied, Sheet.unplaced,
    Css.removeWhere_unplaced (isUnused_unplaced u), Css.removeWhere_unplaced isEmptied_unplaced]
  rfl

/-! ## Trees up to places and white space -/

theorem spaceless_unplaced_sheet (u : Usage) (s : Sheet) :
    (sheet u s).unplaced.spaceless =
      Css.sifted isEmptied (Css.sifted (isUnused u) s.unplaced.spaceless) := by
  rw [← sheet_unplaced, spaceless_sheet]

theorem named_iff (s : Sheet) (name : Text) :
    Named s name ↔ ∃ x ∈ Css.placedFrom [] s.unplaced.spaceless, name ∈ x.2.classNames := by
  simp only [← Css.placed_eq, List.mem_map, Named]
  constructor
  · rintro ⟨x, hx, hn⟩
    exact ⟨_, ⟨x, hx, rfl⟩, by rwa [Css.unplacedRule, Rule.classNames_unplaced]⟩
  · rintro ⟨_, ⟨x, hx, rfl⟩, hn⟩
    exact ⟨x, hx, by rwa [Css.unplacedRule, Rule.classNames_unplaced] at hn⟩

theorem named_append {s t u : Sheet}
    (h : u.unplaced.spaceless = s.unplaced.spaceless ++ t.unplaced.spaceless) (name : Text) :
    Named u name ↔ Named s name ∨ Named t name := by
  simp only [named_iff, h, Css.placedFrom_append, List.mem_append, or_and_right, exists_or]

theorem spaceless_sheet_append (u : Usage) {s t v : Sheet}
    (h : v.unplaced.spaceless = s.unplaced.spaceless ++ t.unplaced.spaceless) :
    (sheet u v).unplaced.spaceless =
      (sheet u s).unplaced.spaceless ++ (sheet u t).unplaced.spaceless := by
  simp only [spaceless_unplaced_sheet, h, Css.sifted_append]

end Prune

/-! ## Alone and together -/

/-- A style sheet that is read and pruned by itself. -/
structure PrunedAlone (scan : Scan) (options : PruneOptions) where
  css : String
  sheet : Sheet
  result : PruneResult
  read : Css.read css.toList = .ok sheet
  pruned : pruneCss css scan options = .ok result

namespace PrunedAlone

variable {scan : Scan} {options : PruneOptions} {u : Usage}

theorem pruneSheet_eq (p : PrunedAlone scan options) (hu : usageOf scan options = .ok u) :
    pruneSheet u options.minify p.css.utf8ByteSize p.sheet = .ok p.result := by
  rw [← pruneCss_eq hu p.read, p.pruned]

theorem exists_of_isOk (hu : usageOf scan options = .ok u) {css : String} {s : Sheet}
    (hs : Css.read css.toList = .ok s)
    (h : (pruneSheet u options.minify css.utf8ByteSize s).isOk = true) :
    ∃ p : PrunedAlone scan options, p.css = css ∧ p.sheet = s := by
  cases hr : pruneSheet u options.minify css.utf8ByteSize s with
  | error e => rw [hr] at h; cases h
  | ok result => exact ⟨⟨css, s, result, hs, by rw [pruneCss_eq hu hs, hr]⟩, rfl, rfl⟩

/-- Two style sheets that are pruned alone are pruned as one. -/
theorem exists_append (hu : usageOf scan options = .ok u) (a b : PrunedAlone scan options)
    (hend : Css.EndsWhole a.css.toList) (hline : '\r' ∉ a.css.toList) :
    ∃ c : PrunedAlone scan options, c.css = a.css ++ "\n" ++ b.css ∧
      c.sheet.unplaced.spaceless = a.sheet.unplaced.spaceless ++ b.sheet.unplaced.spaceless := by
  obtain ⟨s, hs, htree⟩ := Css.read_append a.read b.read hend hline
  have hcss : (a.css ++ "\n" ++ b.css).toList = a.css.toList ++ '\n' :: b.css.toList := by
    simp [String.toList_append]
  rw [← hcss] at hs
  suffices h : (pruneSheet u options.minify (a.css ++ "\n" ++ b.css).utf8ByteSize s).isOk = true by
    obtain ⟨c, hcss, rfl⟩ := exists_of_isOk hu hs h
    exact ⟨c, hcss, htree⟩
  have hparts : ∀ p : PrunedAlone scan options,
      (∀ name ∈ classNamesOf p.sheet, u.fault? name = none) ∧
        (Css.written options.minify (Prune.sheet u p.sheet)).isPlain = true := fun p =>
    pruneSheet_isOk.1 (by rw [p.pruneSheet_eq hu]; rfl)
  refine pruneSheet_isOk.2 ⟨fun name hname => ?_, ?_⟩
  · have hnamed := (Prune.mem_classNamesOf hs name).1 hname
    rcases (Prune.named_append htree name).1 hnamed with ha | hb
    · exact (hparts a).1 name ((Prune.mem_classNamesOf a.read name).2 ha)
    · exact (hparts b).1 name ((Prune.mem_classNamesOf b.read name).2 hb)
  · rw [← Css.written_unplaced, Css.isPlain_written (Prune.spaceless_sheet_append u htree),
      Css.written_unplaced, Css.written_unplaced, (hparts a).2, (hparts b).2]
    rfl

/-- Style sheets that are pruned alone are pruned as one, if all but the last end whole. -/
theorem exists_joined (hu : usageOf scan options = .ok u) :
    ∀ parts : List (PrunedAlone scan options),
      (∀ p ∈ parts.dropLast, Css.EndsWhole p.css.toList ∧ '\r' ∉ p.css.toList) →
      ∃ c : PrunedAlone scan options, c.css = String.intercalate "\n" (parts.map (·.css)) ∧
        c.sheet.unplaced.spaceless = parts.flatMap (·.sheet.unplaced.spaceless)
  | [], _ => by
    have hread : Css.read "".toList = .ok [] := Css.read_nil
    have hplain : (Css.written options.minify (Prune.sheet u [])).isPlain = true := by
      cases options.minify <;> rfl
    obtain ⟨c, hcss, hsheet⟩ := exists_of_isOk hu hread
      (pruneSheet_isOk.2 ⟨fun name h => (by cases h), hplain⟩)
    exact ⟨c, hcss, by rw [hsheet]; rfl⟩
  | [p], _ => ⟨p, String.intercalate_singleton.symm, (List.flatMap_singleton _ _).symm⟩
  | p :: q :: rest, h => by
    obtain ⟨hp, hrest⟩ := List.forall_mem_cons.1 (List.dropLast_cons_cons ▸ h)
    obtain ⟨c, hcss, htree⟩ := exists_joined hu (q :: rest) hrest
    obtain ⟨d, hdcss, hdtree⟩ := exists_append hu p c hp.1 hp.2
    refine ⟨d, ?_, ?_⟩
    · rw [hdcss, hcss]
      exact String.intercalate_cons_cons.symm
    · rw [hdtree, htree]
      rfl

end PrunedAlone

/-- A result for a style sheet in parts that is made of the results for the parts. -/
structure Together {scan : Scan} {options : PruneOptions} (u : Usage) (s : Sheet)
    (result : PruneResult) (parts : List (PrunedAlone scan options)) : Prop where
  total : result.stats.totalRules = (parts.map (·.result.stats.totalRules)).sum
  removed : result.stats.removedRules = (parts.map (·.result.stats.removedRules)).sum
  css : Text.ofString result.css = Css.written options.minify (Prune.passed u s)
  rules : (Prune.passed u s).placed.map Css.unplacedRule =
    parts.flatMap fun p => (Prune.passed u p.sheet).placed.map Css.unplacedRule
  tree : (Prune.passed u s).unplaced.spaceless =
    parts.flatMap fun p => (Prune.passed u p.sheet).unplaced.spaceless
  kept_classes : result.keptClasses =
    Sorted.ofList Text.lt (parts.flatMap (·.result.keptClasses))
  removed_classes : result.removedClasses =
    Sorted.ofList Text.lt (parts.flatMap (·.result.removedClasses))

namespace Together

variable {scan : Scan} {options : PruneOptions} {u : Usage} {c : PrunedAlone scan options}
  {parts : List (PrunedAlone scan options)}

theorem placed_map (h : c.sheet.unplaced.spaceless = parts.flatMap (·.sheet.unplaced.spaceless)) :
    c.sheet.placed.map Css.unplacedRule =
      parts.flatMap fun p => p.sheet.placed.map Css.unplacedRule := by
  simp only [Css.placed_eq, h]
  exact Css.flatMap_of_append (Css.placedFrom_append · · []) rfl _ parts

theorem filter_unplacedRule (f : Rule → Bool) (hf : ∀ r : Rule, f r.unplaced = f r)
    (xs : List (List Enclosing × Rule)) :
    (xs.map Css.unplacedRule).filter (fun x => f x.2) =
      (xs.filter fun x => f x.2).map Css.unplacedRule := by
  rw [List.filter_map]
  exact congrArg _ (List.filter_congr fun x _ => hf x.2)

variable (h : c.sheet.unplaced.spaceless = parts.flatMap (·.sheet.unplaced.spaceless))
include h

/-- The rules that a test picks are those that it picks of the parts. -/
theorem placed_filter_map (f : Rule → Bool) (hf : ∀ r : Rule, f r.unplaced = f r) :
    (c.sheet.placed.filter fun x => f x.2).map Css.unplacedRule =
      parts.flatMap fun p => (p.sheet.placed.filter fun x => f x.2).map Css.unplacedRule := by
  simp only [← filter_unplacedRule f hf, placed_map h, List.filter_flatMap]

theorem length_placed_filter (f : Rule → Bool) (hf : ∀ r : Rule, f r.unplaced = f r) :
    (c.sheet.placed.filter fun x => f x.2).length =
      (parts.map fun p => (p.sheet.placed.filter fun x => f x.2).length).sum := by
  have := congrArg List.length (placed_filter_map h f hf)
  simpa only [List.length_map, List.length_flatMap] using this

theorem named_iff_exists (name : Text) :
    Prune.Named c.sheet name ↔ ∃ p ∈ parts, Prune.Named p.sheet name := by
  simp only [Prune.named_iff, ← Css.placed_eq, placed_map h, List.mem_flatMap]
  constructor
  · rintro ⟨x, ⟨p, hp, hx⟩, hn⟩
    exact ⟨p, hp, x, hx, hn⟩
  · rintro ⟨p, hp, x, hx, hn⟩
    exact ⟨x, ⟨p, hp, hx⟩, hn⟩

/-- The classes that a test picks are those that it picks of the parts. -/
theorem classNamesOf_filter (f : Text → Bool) :
    (classNamesOf c.sheet).filter f =
      Sorted.ofList Text.lt (parts.flatMap fun p => (classNamesOf p.sheet).filter f) := by
  refine Sorted.eq_of_mem_iff Text.strict_lt
    ((Sorted.pairwise_ofList Text.strict_lt _).filter _) (Sorted.pairwise_ofList Text.strict_lt _)
    fun name => ?_
  simp only [Sorted.mem_ofList Text.strict_lt, List.mem_flatMap, List.mem_filter,
    Prune.mem_classNamesOf c.read, Prune.mem_classNamesOf (PrunedAlone.read _),
    named_iff_exists h]
  constructor
  · rintro ⟨⟨p, hp, hn⟩, hf⟩
    exact ⟨p, hp, hn, hf⟩
  · rintro ⟨p, hp, hn, hf⟩
    exact ⟨⟨p, hp, hn⟩, hf⟩

/-- A tree that is those of the parts one after the other, but for places and white space, is
pruned as they are. -/
theorem of_tree (hu : usageOf scan options = .ok u) : Together u c.sheet c.result parts where
  total := by
    have hlength := congrArg List.length (placed_map h)
    simp only [List.length_map, List.length_flatMap] at hlength
    simp only [(Prune.stats_rulePass (PrunedAlone.pruneSheet_eq _ hu)).1, Prune.rulePass_total]
    exact hlength
  removed := by
    simp only [(Prune.stats_rulePass (PrunedAlone.pruneSheet_eq _ hu)).2.1,
      Prune.rulePass_removed]
    exact length_placed_filter h (fun r => !Prune.keeps u r) fun r =>
      congrArg (! ·) (Prune.keeps_unplaced u r)
  css := by
    rw [Prune.passed_eq, css_written (PrunedAlone.pruneSheet_eq _ hu)]
  rules := by
    simp only [Prune.passed_eq, Prune.placed_sheet]
    exact placed_filter_map h _ (Prune.keeps_unplaced u)
  tree := by
    simp only [Prune.passed_eq, Prune.spaceless_unplaced_sheet, h]
    rw [Css.flatMap_of_append (Css.sifted_append _) rfl,
      Css.flatMap_of_append (Css.sifted_append _) rfl]
  kept_classes := by
    simp only [(pruneSheet_ok (PrunedAlone.pruneSheet_eq _ hu)).2.2.1]
    exact classNamesOf_filter h _
  removed_classes := by
    simp only [(pruneSheet_ok (PrunedAlone.pruneSheet_eq _ hu)).2.1]
    exact classNamesOf_filter h _

end Together

end StylePrune
