import StylePrune.Css.Walk

/-!
# Taking nodes out one visit after the other

A pass lists the nodes to visit once, before anything changes, and then takes nodes out of their
sibling lists one at a time, each with the white space that directly follows it by then. Every visit
judges its node as it stands at that time. `without_walk`: after a pass with children before their
block, the tree is the one that `removeWhere` computes in one recursion.

The induction is on the siblings (`visitNodes_ok`), with the paths taken out so far as the state.
Before the `i`-th sibling is visited, nothing from there on is gone but, possibly, that sibling
itself: white space that the node before it took along. What was taken out within earlier siblings
does not matter to later ones (`Node.without_congr`, `withoutFrom_congr`).
-/

namespace StylePrune.Css

/-! ## Siblings of a path -/

/-- The nodes directly below `parent` are `all`. -/
def Holds (sheet : Sheet) (parent : Path) (all : List Node) : Prop :=
  ∀ i, siblingsAt sheet (parent ++ [i]) = all

theorem holds_top (sheet : Sheet) : Holds sheet [] sheet := fun _ => rfl

theorem siblingsAt_step : ∀ (parent : Path) (nodes : List Node) (i j : Nat),
    siblingsAt nodes (parent ++ [i, j]) =
      match (siblingsAt nodes (parent ++ [i]))[i]? with
      | some n => n.children
      | none => []
  | [], _, _, _ => rfl
  | [k], nodes, i, j => by
    simp only [List.cons_append, List.nil_append, siblingsAt]
    cases nodes[k]? with
    | none => rfl
    | some n => rfl
  | k :: l :: rest, nodes, i, j => by
    simp only [List.cons_append, siblingsAt]
    cases nodes[k]? with
    | none => rfl
    | some n => exact siblingsAt_step (l :: rest) n.children i j

theorem Holds.below {sheet : Sheet} {parent : Path} {all : List Node} (h : Holds sheet parent all)
    {i : Nat} {n : Node} (hn : all[i]? = some n) : Holds sheet (parent ++ [i]) n.children := by
  intro j
  have := siblingsAt_step parent sheet i j
  rw [h i, hn] at this
  rw [List.append_assoc]
  exact this

/-- Whether the first of some siblings is white space. -/
def startsBlank (nodes : List Node) : Bool := (nodes.head?.map Node.isWhitespace).getD false

theorem head?_later {i n : Nat} {f : Nat → Bool} (hi : i + 1 < n) (hf : f (i + 1) = true) :
    ((List.range n).filter fun j => i < j && f j).head? = some (i + 1) := by
  obtain ⟨m, rfl⟩ : ∃ m, n = (i + 1) + (m + 1) := ⟨n - i - 2, by omega⟩
  have early : (List.range (i + 1)).filter (fun j => i < j && f j) = [] :=
    List.filter_eq_nil_iff.2 fun j hj => by have := List.mem_range.1 hj; simp; omega
  rw [List.range_add, List.filter_append, early, List.nil_append, List.range_succ_eq_map]
  simp [hf]

/-- Taking out a node while it and the next sibling are there. -/
theorem removeAt_eq {sheet : Sheet} {gone : List Path} {parent : Path} {all : List Node} {i : Nat}
    (h : Holds sheet parent all) (h0 : parent ++ [i] ∉ gone) (h1 : parent ++ [i + 1] ∉ gone) :
    removeAt sheet gone (parent ++ [i]) =
      if startsBlank (all.drop (i + 1)) then (parent ++ [i + 1]) :: (parent ++ [i]) :: gone
      else (parent ++ [i]) :: gone := by
  have hc : gone.contains (parent ++ [i]) = false := by simpa using h0
  simp only [removeAt, hc, Bool.false_eq_true, if_false, List.dropLast_concat,
    List.getLast?_concat, h i, startsBlank, List.head?_drop]
  by_cases hi : i + 1 < all.length
  · rw [head?_later (f := fun j => !gone.contains (parent ++ [j])) hi (by simpa using h1)]
  · rw [List.filter_eq_nil_iff.2 fun j hj => by have := List.mem_range.1 hj; simp; omega,
      List.getElem?_eq_none (by omega)]
    rfl

/-! ## Paths from a sibling on -/

/-- `q` names the `i`-th node below `parent`, a later one, or a node within one of these. -/
def From (parent : Path) (i : Nat) (q : Path) : Prop := ∃ j rest, i ≤ j ∧ q = parent ++ j :: rest

theorem From.self (parent : Path) (i : Nat) : From parent i (parent ++ [i]) :=
  ⟨i, [], Nat.le_refl i, rfl⟩

theorem From.mono {parent q : Path} {i j : Nat} (hij : i ≤ j) : From parent j q → From parent i q
  | ⟨k, rest, hk, e⟩ => ⟨k, rest, Nat.le_trans hij hk, e⟩

theorem From.of_succ {parent q : Path} {i : Nat} : From parent (i + 1) q → From parent i q :=
  From.mono (Nat.le_succ i)

theorem From.below {parent q : Path} {i : Nat} : From (parent ++ [i]) 0 q → From parent i q
  | ⟨k, rest, _, e⟩ => ⟨i, k :: rest, Nat.le_refl i, by rw [e, List.append_assoc]; rfl⟩

theorem not_from_self {parent : Path} {i : Nat} : ¬ From parent (i + 1) (parent ++ [i]) := by
  rintro ⟨j, rest, hj, e⟩
  have := List.append_cancel_left e
  simp only [List.cons.injEq] at this
  omega

theorem not_from_within {parent q : Path} {i : Nat} (h : From (parent ++ [i]) 0 q) :
    ¬ From parent (i + 1) q := by
  obtain ⟨k, rest, -, rfl⟩ := h
  rintro ⟨j, rest', hj, e⟩
  rw [List.append_assoc] at e
  have := List.append_cancel_left e
  simp only [List.cons_append, List.cons.injEq] at this
  omega

theorem not_from_zero {q : Path} : ¬ From q 0 q := by
  rintro ⟨j, rest, -, e⟩
  have := congrArg List.length e
  simp at this

mutual

/-- What is left of a node depends only on the paths below its own. -/
theorem Node.without_congr {gone gone' : List Path} : ∀ (n : Node) (path : Path),
    (∀ q, From path 0 q → (q ∈ gone ↔ q ∈ gone')) → n.without gone path = n.without gone' path
  | .ruleBlock _ _ nodes, path, h => by
    rw [Node.without, Node.without, withoutFrom_congr nodes path 0 h]
  | .whitespace _, _, _ | .comment _, _, _ | .rule _, _, _ | .statement .., _, _
  | .rawBlock .., _, _ => rfl

theorem withoutFrom_congr {gone gone' : List Path} : ∀ (nodes : List Node) (parent : Path)
    (i : Nat),
    (∀ q, From parent i q → (q ∈ gone ↔ q ∈ gone')) →
      withoutFrom gone parent i nodes = withoutFrom gone' parent i nodes
  | [], _, _, _ => rfl
  | n :: rest, parent, i, h => by
    have hc : gone.contains (parent ++ [i]) = gone'.contains (parent ++ [i]) := by
      rw [Bool.eq_iff_iff, List.contains_iff_mem, List.contains_iff_mem]
      exact h _ (From.self parent i)
    simp only [withoutFrom]
    rw [hc, withoutFrom_congr rest parent (i + 1) fun q hq => h q hq.of_succ,
      Node.without_congr n (parent ++ [i]) fun q hq => h q hq.below]

end

/-! ## A pass -/

/-- One visit: the node is judged as it stands by then, and taken out if `p` holds of it. -/
def visit (p : Node → Bool) (sheet : Sheet) (gone : List Path) (v : Path × Node) : List Path :=
  if p (v.2.without gone v.1) then removeAt sheet gone v.1 else gone

/-- What a pass needs of the nodes that it visits (`keep`) and of those that it takes out (`p`). -/
structure Judges (keep p : Node → Bool) : Prop where
  blank : ∀ n, n.isWhitespace = true → p n = false
  kept : ∀ n, p n = true → keep n = true
  /-- Whether a block is visited does not depend on what it holds. -/
  block : ∀ k pre nodes nodes', keep (.ruleBlock k pre nodes) = keep (.ruleBlock k pre nodes')

/-- What the visits of the `i`-th node below `parent` and of all below it do, with `rest` behind it:
`gone` before, `gone'` after. -/
structure NodeSwept (p : Node → Bool) (parent : Path) (i : Nat) (n : Node) (rest : List Node)
    (gone gone' : List Path) : Prop where
  grows : ∀ q ∈ gone, q ∈ gone'
  added : ∀ q ∈ gone', q ∈ gone ∨ From (parent ++ [i]) 0 q ∨ p (n.removeWhere p) = true ∧
    (q = parent ++ [i] ∨ startsBlank rest = true ∧ q = parent ++ [i + 1])
  taken : p (n.removeWhere p) = true →
    parent ++ [i] ∈ gone' ∧ (startsBlank rest = true → parent ++ [i + 1] ∈ gone')
  stays : p (n.removeWhere p) = false → n.without gone' (parent ++ [i]) = n.removeWhere p

/-- What the visits of the siblings from the `i`-th on do. -/
structure Swept (p : Node → Bool) (parent : Path) (i : Nat) (after : Bool) (nodes : List Node)
    (gone gone' : List Path) : Prop where
  grows : ∀ q ∈ gone, q ∈ gone'
  added : ∀ q ∈ gone', q ∈ gone ∨ From parent i q
  left : withoutFrom gone' parent i nodes = removeWhere p after nodes

/-- The state before the `i`-th sibling is visited: `after` says whether the node before it was
taken out. -/
def Ready (parent : Path) (i : Nat) (after : Bool) (nodes : List Node) (gone : List Path) : Prop :=
  ∀ q, From parent i q → (q ∈ gone ↔ q = parent ++ [i] ∧ (after && startsBlank nodes) = true)

theorem walk_postOrder (keep : Node → Bool) (path : Path) : ∀ n : Node,
    n.walk keep true path =
      walkFrom keep true path 0 n.children ++ if keep n then [(path, n)] else []
  | .ruleBlock .. => rfl
  | .whitespace _ | .comment _ | .rule _ | .statement .. | .rawBlock .. => rfl

/-- Walks of nodes that have none below them need no order. -/
theorem walkFrom_order {keep : Node → Bool}
    (h : ∀ k pre nodes, keep (.ruleBlock k pre nodes) = false) (postOrder : Bool) :
    ∀ (nodes : List Node) (parent : Path) (i : Nat),
      walkFrom keep postOrder parent i nodes = walkFrom keep true parent i nodes
  | [], _, _ => rfl
  | .ruleBlock k pre nodes :: rest, parent, i => by
    rw [walkFrom, walkFrom, walkFrom_order h postOrder rest, Node.walk, Node.walk,
      walkFrom_order h postOrder nodes, h]
    simp only [Bool.false_eq_true, if_false, List.append_nil, List.nil_append, ite_self]
  | .whitespace _ :: rest, parent, i | .comment _ :: rest, parent, i | .rule _ :: rest, parent, i
  | .statement .. :: rest, parent, i | .rawBlock .. :: rest, parent, i => by
    rw [walkFrom, walkFrom, walkFrom_order h postOrder rest]; rfl

section

variable {keep p : Node → Bool} (hj : Judges keep p) {sheet : Sheet} {parent : Path}
  {all rest : List Node} {i : Nat} {n : Node} {after : Bool} {gone gone' gone'' : List Path}

include hj

/-- The visit of a node itself, after those below it. -/
theorem visitSelf_ok (hs : Holds sheet parent all) (hd : all.drop i = n :: rest)
    (hgone : ∀ q ∈ gone, ¬ From parent i q) (hgrows : ∀ q ∈ gone, q ∈ gone')
    (hadded : ∀ q ∈ gone', q ∈ gone ∨ From (parent ++ [i]) 0 q)
    (hleft : n.without gone' (parent ++ [i]) = n.removeWhere p)
    (hkeep : keep (n.removeWhere p) = keep n) :
    NodeSwept p parent i n rest gone
      ((if keep n then [(parent ++ [i], n)] else []).foldl (visit p sheet) gone') := by
  have hnot : ∀ q, From parent i q → ¬ From (parent ++ [i]) 0 q → q ∉ gone' := fun q hq hb hm =>
    (hadded q hm).elim (fun h => hgone q h hq) hb
  cases hp : p (n.removeWhere p) with
  | false =>
    have same :
        (if keep n then [(parent ++ [i], n)] else []).foldl (visit p sheet) gone' = gone' := by
      split
      · simp only [List.foldl_cons, List.foldl_nil, visit, hleft, hp, Bool.false_eq_true, if_false]
      · rfl
    rw [same]
    exact ⟨hgrows, fun q hq => (hadded q hq).imp_right .inl, fun h => by simp [hp] at h,
      fun _ => hleft⟩
  | true =>
    have hk : keep n = true := hkeep ▸ hj.kept _ hp
    have hrest : all.drop (i + 1) = rest := by rw [← List.drop_drop, hd]; rfl
    have e := removeAt_eq hs (hnot _ (From.self parent i) not_from_zero)
      (hnot _ (From.self parent (i + 1)).of_succ fun h =>
        not_from_within h (From.self parent (i + 1)))
    rw [hrest] at e
    simp only [hk, if_true, List.foldl_cons, List.foldl_nil, visit, hleft, hp, e]
    cases hb : startsBlank rest with
    | true =>
      simp only [if_true]
      refine ⟨fun q hq => by simp [hgrows q hq], fun q hq => ?_, fun _ => by simp,
        fun h => by simp [hp] at h⟩
      simp only [List.mem_cons] at hq
      rcases hq with rfl | rfl | hq
      · exact .inr (.inr ⟨hp, .inr ⟨hb, rfl⟩⟩)
      · exact .inr (.inr ⟨hp, .inl rfl⟩)
      · exact (hadded q hq).imp_right .inl
    | false =>
      simp only [Bool.false_eq_true, if_false]
      refine ⟨fun q hq => by simp [hgrows q hq], fun q hq => ?_, fun _ => by simp [hb],
        fun h => by simp [hp] at h⟩
      simp only [List.mem_cons] at hq
      rcases hq with rfl | hq
      · exact .inr (.inr ⟨hp, .inl rfl⟩)
      · exact (hadded q hq).imp_right .inl

/-- The visit of white space does nothing. -/
theorem visit_whitespace (hw : n.isWhitespace = true) (path : Path) :
    (n.walk keep true path).foldl (visit p sheet) gone = gone := by
  cases n with
  | whitespace text =>
    simp only [Node.walk]
    split
    · simp only [List.foldl_cons, List.foldl_nil, visit, Node.without, hj.blank _ hw,
        Bool.false_eq_true, if_false]
    · rfl
  | _ => simp [Node.isWhitespace] at hw

omit hj in
/-- White space that the node before it took along, and the siblings behind it. -/
theorem Swept.skip (hb : (after && n.isWhitespace) = true) (hin : parent ++ [i] ∈ gone)
    (h : Swept p parent (i + 1) false rest gone gone') :
    Swept p parent i after (n :: rest) gone gone' := by
  refine ⟨h.grows, fun q hq => (h.added q hq).imp_right From.of_succ, ?_⟩
  rw [withoutFrom, removeWhere, hb, List.contains_iff_mem.2 (h.grows _ hin)]
  exact h.left

omit hj in
theorem NodeSwept.ready (hn : NodeSwept p parent i n rest gone gone')
    (hgone : ∀ q ∈ gone, ¬ From parent (i + 1) q) :
    Ready parent (i + 1) (p (n.removeWhere p)) rest gone' := by
  intro q hq
  constructor
  · intro hm
    rcases hn.added q hm with h | h | ⟨hp, rfl | ⟨hb, rfl⟩⟩
    · exact absurd hq (hgone q h)
    · exact absurd hq (not_from_within h)
    · exact absurd hq not_from_self
    · exact ⟨rfl, Bool.and_eq_true_iff.2 ⟨hp, hb⟩⟩
  · rintro ⟨rfl, h⟩
    obtain ⟨hp, hb⟩ := Bool.and_eq_true_iff.1 h
    exact (hn.taken hp).2 hb

omit hj in
/-- A node that is there when its turn comes, and the siblings behind it. -/
theorem Swept.cons (hb : (after && n.isWhitespace) = false) (hgone : ∀ q ∈ gone, ¬ From parent i q)
    (hn : NodeSwept p parent i n rest gone gone')
    (h : Swept p parent (i + 1) (p (n.removeWhere p)) rest gone' gone'') :
    Swept p parent i after (n :: rest) gone gone'' := by
  refine ⟨fun q hq => h.grows q (hn.grows q hq), fun q hq => ?_, ?_⟩
  · rcases h.added q hq with hq | hq
    · rcases hn.added q hq with hq | hq | ⟨-, rfl | ⟨-, rfl⟩⟩
      · exact .inl hq
      · exact .inr hq.below
      · exact .inr (From.self parent i)
      · exact .inr (From.self parent (i + 1)).of_succ
    · exact .inr hq.of_succ
  rw [withoutFrom, removeWhere, hb]
  have hleft := h.left
  cases hp : p (n.removeWhere p) with
  | true =>
    rw [hp] at hleft
    rw [List.contains_iff_mem.2 (h.grows _ (hn.taken hp).1)]
    simpa only [hp, if_true, Bool.false_eq_true, if_false] using hleft
  | false =>
    have hout : parent ++ [i] ∉ gone'' := fun hm => by
      rcases h.added _ hm with hm | hm
      · rcases hn.added _ hm with hm | hm | ⟨hp', -⟩
        · exact hgone _ hm (From.self parent i)
        · exact not_from_zero hm
        · rw [hp] at hp'; cases hp'
      · exact not_from_self hm
    have hsame : n.without gone'' (parent ++ [i]) = n.removeWhere p := by
      rw [← hn.stays hp]
      refine Node.without_congr n _ fun q hq => ⟨fun hm => ?_, h.grows q⟩
      exact (h.added q hm).resolve_right (not_from_within hq)
    rw [hp] at hleft
    rw [show gone''.contains (parent ++ [i]) = false by simpa using hout]
    simp only [Bool.false_eq_true, if_false, hsame, hleft, hp]

end

mutual

theorem visitNode_ok {keep p : Node → Bool} (hj : Judges keep p) {sheet : Sheet} :
    ∀ (n : Node) {parent : Path} {all rest : List Node} {i : Nat} {gone : List Path},
      Holds sheet parent all → all.drop i = n :: rest → (∀ q ∈ gone, ¬ From parent i q) →
      NodeSwept p parent i n rest gone
        ((n.walk keep true (parent ++ [i])).foldl (visit p sheet) gone)
  | .ruleBlock k pre nodes, parent, all, rest, i, gone, hs, hd, hgone => by
    have hn : all[i]? = some (.ruleBlock k pre nodes) := by rw [← List.head?_drop, hd]; rfl
    have h : Swept p (parent ++ [i]) 0 false nodes gone _ :=
      visitNodes_ok hj nodes (hs.below hn) rfl
        fun q hq => ⟨fun hm => absurd hq.below (hgone q hm), fun h => by simp at h⟩
    rw [walk_postOrder, List.foldl_append]
    refine visitSelf_ok hj hs hd hgone h.grows h.added ?_ (hj.block ..)
    rw [Node.without, Node.removeWhere]
    exact congrArg _ h.left
  | .whitespace _, _, _, _, _, _, hs, hd, hgone | .comment _, _, _, _, _, _, hs, hd, hgone
  | .rule _, _, _, _, _, _, hs, hd, hgone | .statement .., _, _, _, _, _, hs, hd, hgone
  | .rawBlock .., _, _, _, _, _, hs, hd, hgone =>
    visitSelf_ok hj hs hd hgone (fun _ h => h) (fun _ h => .inl h) rfl rfl

/-- The visits of siblings and of all below them, by induction on the siblings. -/
theorem visitNodes_ok {keep p : Node → Bool} (hj : Judges keep p) {sheet : Sheet} :
    ∀ (nodes : List Node) {parent : Path} {all : List Node} {i : Nat} {after : Bool}
      {gone : List Path}, Holds sheet parent all → all.drop i = nodes →
      Ready parent i after nodes gone →
      Swept p parent i after nodes gone
        ((walkFrom keep true parent i nodes).foldl (visit p sheet) gone)
  | [], _, _, _, _, _, _, _, _ => ⟨fun _ h => h, fun _ h => .inl h, rfl⟩
  | n :: rest, parent, all, i, after, gone, hs, hd, hgone => by
    have hrest : all.drop (i + 1) = rest := by rw [← List.drop_drop, hd]; rfl
    have hlater : ∀ q ∈ gone, ¬ From parent (i + 1) q := fun q hm hq =>
      not_from_self (((hgone q hq.of_succ).1 hm).1 ▸ hq)
    rw [walkFrom, List.foldl_append]
    cases hb : after && n.isWhitespace with
    | true =>
      rw [visit_whitespace hj (Bool.and_eq_true_iff.1 hb).2]
      exact .skip hb ((hgone _ (From.self parent i)).2 ⟨rfl, hb⟩)
        (visitNodes_ok hj rest hs hrest fun q hq =>
          ⟨fun hm => absurd hq (hlater q hm), fun h => by simp at h⟩)
    | false =>
      have hclear : ∀ q ∈ gone, ¬ From parent i q := fun q hm hq => by
        have h := ((hgone q hq).1 hm).2
        rw [show (after && startsBlank (n :: rest)) = false from hb] at h
        cases h
      have hn := visitNode_ok hj n hs hd hclear
      exact .cons hb hclear hn (visitNodes_ok hj rest hs hrest (hn.ready hlater))

end

/-- A pass leaves the tree without the nodes that satisfy `p`, as one recursion finds them. -/
theorem without_walk {keep p : Node → Bool} (hj : Judges keep p) (sheet : Sheet) :
    sheet.without ((sheet.walk keep true).foldl (visit p sheet) []) = removeWhere p false sheet :=
  (visitNodes_ok hj sheet (holds_top sheet) rfl fun q _ =>
    ⟨fun h => by simp at h, fun h => by simp at h⟩).left

end StylePrune.Css
