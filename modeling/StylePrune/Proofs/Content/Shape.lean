import StylePrune.Content.Heuristics
import StylePrune.Proofs.Regex.Literals
import StylePrune.Proofs.Sorted

/-!
# The shape of scans

A scan by the recognisers has its classes and the places of each class in order, names every class
once, and holds only patterns of all texts that start with a class token (`wellFormed_scan`).
-/

namespace StylePrune

open Regex (Pattern)
open Content (IsStart)

namespace Origins

/-- Origins that name every class once, with its places in order. -/
structure WellFormed (origins : Origins) : Prop where
  names : (origins.map Prod.fst).Nodup
  places : ∀ o ∈ origins, o.2.Pairwise fun a b => Sorted.stringLt a b = true

theorem mem_names_add {name : String} {places : List String} {x : String} : ∀ {origins : Origins},
    x ∈ (add origins name places).map Prod.fst ↔ x = name ∨ x ∈ origins.map Prod.fst
  | [] => by simp [add]
  | (other, known) :: rest => by
    rw [add]
    split
    · rename_i e
      rw [List.map_cons, List.map_cons, List.mem_cons, ← e, ← or_assoc, or_self]
    · rw [List.map_cons, List.map_cons, List.mem_cons, List.mem_cons, mem_names_add,
        or_left_comm]

theorem WellFormed.add {origins : Origins} (h : origins.WellFormed) (name : String)
    (places : List String) : (origins.add name places).WellFormed := by
  induction origins with
  | nil =>
    refine ⟨by simp [Origins.add], fun o ho => ?_⟩
    rw [List.mem_singleton.1 ho]
    exact Sorted.pairwise_ofList Sorted.strict_stringLt places
  | cons o rest ih =>
    obtain ⟨other, known⟩ := o
    obtain ⟨hother, hnames⟩ := List.nodup_cons.1 h.names
    obtain ⟨hknown, hplaces⟩ := List.forall_mem_cons.1 h.places
    rw [Origins.add]
    split
    · refine ⟨h.names, List.forall_mem_cons.2 ⟨?_, hplaces⟩⟩
      exact Sorted.pairwise_union Sorted.strict_stringLt places hknown
    · rename_i hne
      have hrest := ih ⟨hnames, hplaces⟩
      refine ⟨List.nodup_cons.2 ⟨fun hm => ?_, hrest.names⟩,
        List.forall_mem_cons.2 ⟨hknown, hrest.places⟩⟩
      exact (mem_names_add.1 hm).elim hne hother

end Origins

namespace Scan

/-- Scans that can be kept as text: sets are in order, and every pattern is that of all texts that
start with a text on one line. -/
structure WellFormed (scan : Scan) : Prop where
  classes : scan.classes.Pairwise fun a b => Sorted.stringLt a b = true
  patterns : ∀ p ∈ scan.dynamicPatterns, IsStart p
  origins : scan.origins.WellFormed

theorem WellFormed.empty : ({} : Scan).WellFormed :=
  ⟨.nil, fun _ h => (List.not_mem_nil h).elim, ⟨.nil, fun _ h => (List.not_mem_nil h).elim⟩⟩

theorem WellFormed.addClass {scan : Scan} (h : scan.WellFormed) (name : String)
    (origin : Option String) : (scan.addClass name origin).WellFormed where
  classes := Sorted.pairwise_insert Sorted.strict_stringLt name h.classes
  patterns := h.patterns
  origins := match origin with
    | none => h.origins
    | some place => h.origins.add name [place]

end Scan

theorem dedupeFrom_sublist (patterns : List Pattern) (seen : List String) :
    (dedupeFrom seen patterns).Sublist patterns := by
  induction patterns generalizing seen with
  | nil => exact .slnil
  | cons p rest ih =>
    rw [dedupeFrom]
    split
    · exact (ih seen).cons p
    · exact (ih _).cons_cons p

theorem mem_dedupePatterns {p : Pattern} {patterns : List Pattern}
    (h : p ∈ dedupePatterns patterns) : p ∈ patterns :=
  (dedupeFrom_sublist patterns []).mem h

namespace Content

theorem newline_notMem_token {value : List Char} {token : String}
    (h : token ∈ tokenizeClassList value) : '\n' ∉ token.toList := by
  obtain ⟨part, hpart, rfl⟩ := List.mem_map.1 h
  have htoken := (List.mem_filter.1 hpart).2
  rw [String.toList_ofList]
  cases part with
  | nil => exact List.not_mem_nil
  | cons c rest =>
    rw [ClassList.isToken, Bool.and_eq_true, Bool.and_eq_true] at htoken
    intro hm
    rcases List.mem_cons.1 hm with rfl | hm
    · exact absurd htoken.1.1 (by decide)
    · exact absurd (List.all_eq_true.1 htoken.1.2 '\n' hm) (by decide)

theorem isStart_of_mem_derive {expression : List Char} {p : Pattern}
    (h : p ∈ deriveDynamicPatterns expression) : IsStart p := by
  rw [deriveDynamicPatterns] at h
  split at h
  · obtain ⟨token, htoken, rfl⟩ := List.mem_map.1 h
    obtain ⟨value, -, hvalue⟩ := List.mem_flatMap.1 (List.mem_filter.1 htoken).1
    exact ⟨token, newline_notMem_token hvalue, rfl⟩
  · cases h

theorem isStart_of_mem_yieldExpression {constants : Constants} {collectDynamic : Bool}
    {expression : List Char} {index : Nat} {p : Pattern}
    (h : p ∈ (yieldExpression constants collectDynamic expression index).patterns) : IsStart p := by
  rw [yieldExpression] at h
  cases collectDynamic with
  | true => exact isStart_of_mem_derive h
  | false => cases h

/-- All patterns that recognisers yield are those of texts that start with a class token. -/
theorem isStart_of_mem_yields {collectDynamic : Bool} {content : List Char} {y : Yield}
    (hy : y ∈ yields collectDynamic content) {p : Pattern} (hp : p ∈ y.patterns) : IsStart p := by
  simp only [yields, List.mem_append, listYields, nameYields, expressionYields, bracedYields,
    callYields, List.mem_flatMap, List.mem_map, List.mem_filterMap, Option.map_eq_some_iff] at hy
  rcases hy with (((⟨_, _, _, _, rfl⟩ | ⟨_, _, _, _, rfl⟩) | ⟨_, _, _, _, rfl⟩) |
    ⟨_, _, _, _, _, _, rfl⟩) | ⟨_, _, _, _, _, _, rfl⟩
  · cases hp
  · cases hp
  · exact isStart_of_mem_yieldExpression hp
  · exact isStart_of_mem_yieldExpression hp
  · exact isStart_of_mem_yieldExpression hp

theorem wellFormed_addYield {source : Source} {scan : Scan} {y : Yield} (h : scan.WellFormed)
    (hy : ∀ p ∈ y.patterns, IsStart p) : (addYield source scan y).WellFormed := by
  have added : ∀ (tokens : List (String × Nat)) (scan : Scan), scan.WellFormed →
      (tokens.foldl (fun scan t => scan.addClass t.1 (source.origin t.2)) scan).WellFormed := by
    intro tokens
    induction tokens with
    | nil => exact fun _ h => h
    | cons t tokens ih => exact fun scan h => ih _ (h.addClass t.1 (source.origin t.2))
  have hadded := added y.tokens scan h
  refine ⟨hadded.classes, fun p hp => ?_, hadded.origins⟩
  exact (List.mem_append.1 hp).elim (hadded.patterns p) (hy p)

theorem wellFormed_scan (collectDynamic : Bool) (label : Option String) (content : List Char) :
    (scan collectDynamic label content).WellFormed := by
  have folded : ∀ (source : Source) (ys : List Yield) (s : Scan), s.WellFormed →
      (∀ y ∈ ys, ∀ p ∈ y.patterns, IsStart p) → (ys.foldl (addYield source) s).WellFormed := by
    intro source ys
    induction ys with
    | nil => exact fun _ h _ => h
    | cons y ys ih =>
      intro s h hys
      obtain ⟨hy, hys⟩ := List.forall_mem_cons.1 hys
      exact ih _ (wellFormed_addYield h hy) hys
  have h := folded ⟨label.filter (· ≠ ""), LineTable.ofChars content⟩
    (yields collectDynamic content) {} .empty fun y hy p hp => isStart_of_mem_yields hy hp
  exact ⟨h.classes, fun p hp => h.patterns p (mem_dedupePatterns hp), h.origins⟩

end Content

end StylePrune
