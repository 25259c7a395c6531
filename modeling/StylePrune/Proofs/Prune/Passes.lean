import StylePrune.Proofs.Css.Occurs
import StylePrune.Proofs.Css.Removal
import StylePrune.Proofs.Prune.Usage

/-!
# The two passes over a tree

Pruning meets every rule of a tree in document order and takes out those without a reason to stay
(`RulePass`), then meets every at-rule, children first, and takes out the blocks that are empty by
then (`emptiedPass`). Both lists of visits are made before the first removal. The trees that the
passes leave are those that pruning computes (`without_rulePass`, `without_emptiedPass`), and the
rules left are the rules with a reason to stay, in their places (`placed_sheet`).
-/

namespace StylePrune.Prune

open Regex (Pattern)
open Css (Sheet Node Rule Token Enclosing Judges Sifts)

/-! ## The rules of a tree -/

mutual

theorem walk_rules : ∀ (n : Node) (path : Css.Path) (above : List Enclosing),
    ((n.walk Node.isRule false path).filterMap fun (_, n) =>
      match n with
      | .rule r => some r
      | _ => none) = (n.placed above).map (·.2)
  | .ruleBlock k pre nodes, path, above => by
    rw [Node.walk, Node.placed, ← walkFrom_rules nodes path 0]
    rfl
  | .rule _, _, _ | .whitespace _, _, _ | .comment _, _, _ | .statement .., _, _
  | .rawBlock .., _, _ => rfl

theorem walkFrom_rules : ∀ (nodes : List Node) (path : Css.Path) (i : Nat) (above : List Enclosing),
    ((Css.walkFrom Node.isRule false path i nodes).filterMap fun (_, n) =>
      match n with
      | .rule r => some r
      | _ => none) = (Css.placedFrom above nodes).map (·.2)
  | [], _, _, _ => rfl
  | n :: rest, path, i, above => by
    rw [Css.walkFrom, Css.placedFrom, List.filterMap_append, List.map_append,
      walk_rules n _ above, walkFrom_rules rest path (i + 1) above]

end

/-- The rules of a tree are those in its places. -/
theorem rules_eq (s : Sheet) : rules s = s.placed.map (·.2) := walkFrom_rules s [] 0 []

/-! ## The pass over the rules -/

/-- What the pass over the rules has done so far: the nodes taken out, the rules met and the rules
removed. -/
structure RulePass where
  gone : List Css.Path
  total : Nat
  removed : Nat

def RulePass.visit (u : Usage) (s : Sheet) (pass : RulePass) (v : Css.Path × Node) : RulePass :=
  match v.2 with
  | .rule r =>
    if keeps u r then ⟨pass.gone, pass.total + 1, pass.removed⟩
    else ⟨Css.removeAt s pass.gone v.1, pass.total + 1, pass.removed + 1⟩
  | _ => pass

def rulePass (u : Usage) (s : Sheet) : RulePass :=
  (s.walk Node.isRule false).foldl (RulePass.visit u s) ⟨[], 0, 0⟩

theorem judges_rules (u : Usage) : Judges Node.isRule (isUnused u) where
  blank n h := by
    cases n with
    | whitespace text => rfl
    | _ => simp [Node.isWhitespace] at h
  kept n h := by
    cases n with
    | rule r => rfl
    | _ => simp [isUnused] at h
  block _ _ _ _ := rfl

theorem visit_gone (u : Usage) (s : Sheet) (pass : RulePass) (v : Css.Path × Node) :
    (pass.visit u s v).gone = Css.visit (isUnused u) s pass.gone v := by
  obtain ⟨path, n⟩ := v
  cases n with
  | rule r =>
    simp only [RulePass.visit, Css.visit, Node.without, isUnused]
    by_cases h : keeps u r = true <;> simp [h]
  | _ => rfl

theorem rulePass_gone (u : Usage) (s : Sheet) (vs : List (Css.Path × Node)) (pass : RulePass) :
    (vs.foldl (RulePass.visit u s) pass).gone = vs.foldl (Css.visit (isUnused u) s) pass.gone := by
  induction vs generalizing pass with
  | nil => rfl
  | cons v vs ih => rw [List.foldl_cons, List.foldl_cons, ih, visit_gone]

/-- The pass over the rules leaves the tree that pruning computes. -/
theorem without_rulePass (u : Usage) (s : Sheet) :
    s.without (rulePass u s).gone = removeRules u s := by
  rw [rulePass, rulePass_gone, Sheet.walk, Css.walkFrom_order (fun _ _ _ => rfl)]
  exact Css.without_walk (judges_rules u) s

/-- The counts of a pass over some visits. -/
theorem rulePass_counts (u : Usage) (s : Sheet) (vs : List (Css.Path × Node)) (pass : RulePass) :
    let met := vs.filterMap fun (_, n) =>
      match n with
      | .rule r => some r
      | _ => none
    (vs.foldl (RulePass.visit u s) pass).total = pass.total + met.length ∧
      (vs.foldl (RulePass.visit u s) pass).removed =
        pass.removed + (met.filter fun r => !keeps u r).length := by
  induction vs generalizing pass with
  | nil => exact ⟨rfl, rfl⟩
  | cons v vs ih =>
    obtain ⟨path, n⟩ := v
    obtain ⟨ht, hr⟩ := ih (pass.visit u s (path, n))
    simp only [List.foldl_cons, ht, hr]
    cases n with
    | rule r =>
      simp only [RulePass.visit, List.filterMap_cons, List.length_cons, List.filter_cons]
      cases keeps u r <;> simp <;> omega
    | _ => exact ⟨rfl, rfl⟩

theorem rulePass_total (u : Usage) (s : Sheet) : (rulePass u s).total = s.placed.length := by
  rw [rulePass, (rulePass_counts u s _ _).1, Nat.zero_add]
  exact (congrArg List.length (rules_eq s)).trans (List.length_map _)

theorem rulePass_removed (u : Usage) (s : Sheet) :
    (rulePass u s).removed = (s.placed.filter fun x => !keeps u x.2).length := by
  rw [rulePass, (rulePass_counts u s _ _).2, Nat.zero_add]
  have h := congrArg (fun rs => (rs.filter fun r => !keeps u r).length) (rules_eq s)
  exact h.trans (by rw [List.filter_map, List.length_map]; rfl)

/-! ## The pass over the at-rules -/

/-- What the pass over the at-rules takes out. -/
def emptiedPass (s : Sheet) : List Css.Path :=
  (s.walk Node.isAtRule true).foldl (Css.visit isEmptied s) []

theorem judges_emptied : Judges Node.isAtRule isEmptied where
  blank n h := by
    cases n with
    | whitespace text => simp [isEmptied, Node.isEmptyBlock]
    | _ => simp [Node.isWhitespace] at h
  kept n h := by
    cases n with
    | rawBlock | ruleBlock => rfl
    | _ => simp [isEmptied, Node.isEmptyBlock] at h
  block _ _ _ _ := rfl

/-- The pass over the at-rules leaves the tree that pruning computes. -/
theorem without_emptiedPass (s : Sheet) : s.without (emptiedPass s) = removeEmptied s :=
  Css.without_walk judges_emptied s

/-! ## The rules that are left -/

theorem sifts_rules (u : Usage) : Sifts (isUnused u) (keeps u) where
  rule _ := rfl
  block _ _ _ _ h := by simp [isUnused] at h

theorem sifts_emptied : Sifts isEmptied fun _ => true where
  rule _ := by simp [isEmptied, Node.isEmptyBlock]
  block _ _ _ above h := by
    simp only [isEmptied, Node.isEmptyBlock, Bool.and_eq_true] at h
    exact Css.placedFrom_blank above _ h.2

/-- The rules of a pruned tree are the rules with a reason to stay, in their places. -/
theorem placed_sheet (u : Usage) (s : Sheet) :
    (sheet u s).placed = s.placed.filter fun x => keeps u x.2 := by
  rw [sheet, removeEmptied, removeRules, Sheet.placed,
    Css.placedFrom_removeWhere sifts_emptied, Css.placedFrom_removeWhere (sifts_rules u),
    List.filter_filter]
  simp only [Bool.true_and]
  rfl

/-- A part of the rules that all have a reason to stay is left as it is. -/
theorem placed_filter {u : Usage} {part : List Enclosing × Rule → Bool}
    (h : ∀ x, part x = true → keeps u x.2 = true) (s : Sheet) :
    (sheet u s).placed.filter part = s.placed.filter part := by
  rw [placed_sheet, List.filter_filter]
  refine List.filter_congr fun x _ => ?_
  cases hx : part x with
  | false => rfl
  | true => rw [h x hx, Bool.and_self]

theorem length_filter_not (f : List Enclosing × Rule → Bool) (xs : List (List Enclosing × Rule)) :
    xs.length - (xs.filter fun x => !f x).length = (xs.filter f).length := by
  have := List.length_eq_countP_add_countP f (l := xs)
  simp only [List.countP_eq_length_filter, Bool.not_eq_true, Bool.decide_eq_false] at this
  omega

/-- The tree that the two passes leave. -/
def passed (u : Usage) (s : Sheet) : Sheet :=
  let first := s.without (rulePass u s).gone
  first.without (emptiedPass first)

theorem passed_eq (u : Usage) (s : Sheet) : passed u s = sheet u s := by
  rw [passed, without_rulePass, without_emptiedPass]; rfl

theorem rulePass_kept (u : Usage) (s : Sheet) :
    (rulePass u s).total - (rulePass u s).removed = (passed u s).placed.length := by
  rw [rulePass_total, rulePass_removed, passed_eq, placed_sheet, length_filter_not]

/-- The counts of a result are those of the pass over the rules. -/
theorem stats_rulePass {u : Usage} {minify : Bool} {size : Nat} {s : Sheet} {result : PruneResult}
    (h : pruneSheet u minify size s = .ok result) :
    result.stats.totalRules = (rulePass u s).total ∧
      result.stats.removedRules = (rulePass u s).removed ∧
      result.stats.keptRules = (rulePass u s).total - (rulePass u s).removed := by
  have htotal : (rules s).length = (rulePass u s).total := by
    rw [rules_eq, List.length_map, rulePass_total]
  have hremoved : ((rules s).filter fun r => !keeps u r).length = (rulePass u s).removed := by
    rw [rules_eq, List.filter_map, List.length_map, rulePass_removed]; rfl
  rw [(pruneSheet_ok h).1, ← htotal, ← hremoved]
  exact ⟨rfl, rfl, rfl⟩

/-- Pruning is exact: after the two passes the rules of the tree, in document order and within the
same at-rules, are those with a reason to stay, each once and unchanged, and the counts are those of
the rules met, removed and left. -/
theorem passes_exact {css : String} {scan : Scan} {options : PruneOptions} {safelist : List Pattern}
    {s : Sheet} (hp : readPatterns options.safelistPatterns = .ok safelist)
    (hs : Css.read css.toList = .ok s) :
    ∃ u, usageOf scan options = .ok u ∧
      (∀ r, keeps u r = true ↔ Stays (Counts scan options safelist) r) ∧
      (passed u s).placed = s.placed.filter (fun x => keeps u x.2) ∧
      (rulePass u s).total = s.placed.length ∧
      (rulePass u s).removed = (s.placed.filter fun x => !keeps u x.2).length ∧
      (rulePass u s).total - (rulePass u s).removed = (passed u s).placed.length ∧
      passed u s = sheet u s ∧
      ∀ result, pruneCss css scan options = .ok result →
        result.stats.totalRules = (rulePass u s).total ∧
        result.stats.removedRules = (rulePass u s).removed ∧
        result.stats.keptRules = (passed u s).placed.length := by
  have hu : usageOf scan options = .ok _ := usageOf_eq hp
  refine ⟨_, hu, keeps_iff_counts hp hu, passed_eq _ s ▸ placed_sheet _ s, rulePass_total _ s,
    rulePass_removed _ s, rulePass_kept _ s, passed_eq _ s, fun result hr => ?_⟩
  rw [pruneCss_eq hu hs] at hr
  rw [← rulePass_kept]
  exact stats_rulePass hr

/-- A used class within a block, beside two that are not used. -/
theorem passes_exact_media :
    ∃ s u, readPatterns [] = .ok [] ∧ Css.read "@media x{.a{}.b{}}.c{}".toList = .ok s ∧
      usageOf { classes := ["b"] } {} = .ok u ∧ s.placed.length = 3 ∧
      (passed u s).placed = s.placed.filter (fun x => keeps u x.2) ∧
      (passed u s).placed.length = 1 := by
  have read : (match Css.read "@media x{.a{}.b{}}.c{}".toList with
      | .ok s =>
        s.placed.length == 3 && (s.placed.filter fun x => keeps ⟨["b"], []⟩ x.2).length == 1
      | .error _ => false) = true := by decide +kernel
  cases hs : Css.read "@media x{.a{}.b{}}.c{}".toList with
  | error e => rw [hs] at read; cases read
  | ok s =>
    rw [hs, Bool.and_eq_true, beq_iff_eq, beq_iff_eq] at read
    obtain ⟨u, hu, -, hplaced, -⟩ := @passes_exact _ { classes := ["b"] } {} [] s rfl hs
    obtain rfl := Except.ok.inj hu
    exact ⟨s, _, rfl, rfl, hu, read.1, hplaced, by rw [hplaced]; exact read.2⟩

end StylePrune.Prune
