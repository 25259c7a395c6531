import StylePrune.Proofs.Css.Occurs
import StylePrune.Proofs.Prune.Passes

/-!
# Emptied at-rules

After the pass over the rules one sweep over the at-rules, children first, takes out the blocks that
are empty by then. The sweep keeps what it has taken out so far (`Sweep`), and one visit of it keeps
the invariant `Sweep.Barren`: whatever is gone is white space or a block that held nothing but
blanks and blocks that go too. So one sweep is enough, and it takes out nothing else
(`sweep_complete`). All of this holds for any predicate that says which classes are used.
-/

namespace StylePrune.Prune

open Css (Sheet Node Rule Judges Spares Occurs Enclosing Holds nodeAt?)

/-! ## The pass over the rules -/

/-- Whether a rule stays, for any predicate that says which classes are used. -/
def keepsBy (used : Text → Bool) (r : Rule) : Bool :=
  declaresRootProperties r ||
    r.selectors.any fun selector =>
      (Css.classNames selector).isEmpty || (Css.classNames selector).any used

theorem keepsBy_uses (u : Usage) : keepsBy u.uses = keeps u := rfl

/-- Rules without a reason to stay. -/
def refuses (used : Text → Bool) : Node → Bool
  | .rule r => !keepsBy used r
  | _ => false

theorem refuses_uses (u : Usage) : refuses u.uses = isUnused u := by
  funext n
  cases n <;> rfl

theorem judges_refuses (used : Text → Bool) : Judges Node.isRule (refuses used) where
  blank n h := by
    cases n with
    | whitespace text => rfl
    | _ => simp [Node.isWhitespace] at h
  kept n h := by
    cases n with
    | rule r => rfl
    | _ => simp [refuses] at h
  block _ _ _ _ := rfl

/-- The tree after the pass over the rules, taken out one after the other. -/
def afterRules (used : Text → Bool) (s : Sheet) : Sheet :=
  s.without ((s.walk Node.isRule false).foldl (Css.visit (refuses used) s) [])

theorem afterRules_eq (used : Text → Bool) (s : Sheet) :
    afterRules used s = Css.removeWhere (refuses used) false s := by
  rw [afterRules, Sheet.walk, Css.walkFrom_order (fun _ _ _ => rfl)]
  exact Css.without_walk (judges_refuses used) s

/-! ## The sweep over the at-rules -/

/-- What the sweep has taken out so far: the paths, and the at-rules with theirs. -/
structure Sweep where
  gone : List Css.Path
  removed : List (Css.Path × Node)

/-- One visit: an at-rule that is an empty block by then is taken out. -/
def Sweep.visit (s : Sheet) (sweep : Sweep) (v : Css.Path × Node) : Sweep :=
  if isEmptied (v.2.without sweep.gone v.1) then
    ⟨Css.removeAt s sweep.gone v.1, v :: sweep.removed⟩
  else sweep

/-- The sweep over the at-rules of a tree, children first. -/
def sweepOf (s : Sheet) : Sweep := (s.walk Node.isAtRule true).foldl (Sweep.visit s) ⟨[], []⟩

theorem gone_visits (s : Sheet) (vs : List (Css.Path × Node)) (sweep : Sweep) :
    (vs.foldl (Sweep.visit s) sweep).gone = vs.foldl (Css.visit isEmptied s) sweep.gone := by
  induction vs generalizing sweep with
  | nil => rfl
  | cons v vs ih =>
    rw [List.foldl_cons, List.foldl_cons, ih, Sweep.visit, Css.visit]
    split <;> rfl

theorem gone_sweepOf (s : Sheet) : (sweepOf s).gone = emptiedPass s := gone_visits s _ ⟨[], []⟩

/-- A block that goes with all that it holds: no at-rule that is preserved, and at any depth nothing
but blanks and blocks of the same kind. -/
structure Barren (n : Node) : Prop where
  block : n.hasBlock = true
  unpreserved : isPreserved n = false
  holds : ∀ m, Occurs m n.children → m.isBlank = true ∨ m.hasBlock = true ∧ isPreserved m = false

/-- What the sweep has taken out is barren or white space. -/
structure Sweep.Sound (s : Sheet) (sweep : Sweep) : Prop where
  removed : ∀ v ∈ sweep.removed, nodeAt? s v.1 = some v.2 ∧ Barren v.2
  gone : ∀ q ∈ sweep.gone, (∃ v ∈ sweep.removed, v.1 = q) ∨
    ∃ n, nodeAt? s q = some n ∧ n.isWhitespace = true

theorem isBlank_without {gone : List Css.Path} {path : Css.Path} {n : Node}
    (h : (n.without gone path).isBlank = true) : n.isBlank = true := by
  cases n with
  | ruleBlock => simp [Node.without, Node.isBlank] at h
  | _ => exact h

/-- A block that is empty once what is gone is left out held only blanks beside that. -/
theorem blank_or_gone {gone : List Css.Path} {path : Css.Path} {n : Node}
    (h : isEmptied (n.without gone path) = true) : n.hasBlock = true ∧ isPreserved n = false ∧
      ∀ i c, n.children[i]? = some c → path ++ [i] ∈ gone ∨ c.isBlank = true := by
  rw [isEmptied, Bool.and_eq_true, Bool.not_eq_true'] at h
  obtain ⟨hname, hempty⟩ := h
  cases n with
  | rawBlock => exact ⟨rfl, hname, fun i c hc => by simp [Node.children] at hc⟩
  | ruleBlock k pre nodes =>
    rw [Node.without, Node.isEmptyBlock, Css.withoutFrom_eq_standing, List.all_map,
      List.all_eq_true] at hempty
    refine ⟨rfl, hname, fun i c hc => ?_⟩
    by_cases hout : path ++ [i] ∈ gone
    · exact .inl hout
    · have hmem : (c, i) ∈ Css.standing gone path nodes :=
        List.mem_filter.2 ⟨List.mk_mem_zipIdx_iff_getElem?.2 hc, by simpa using hout⟩
      exact .inr (isBlank_without (hempty _ hmem))
  | _ => simp [Node.without, Node.isEmptyBlock] at hempty

theorem Barren.of_children {n : Node} (hblock : n.hasBlock = true) (hname : isPreserved n = false)
    (h : ∀ c ∈ n.children, c.isBlank = true ∨ Barren c) : Barren n where
  block := hblock
  unpreserved := hname
  holds m hm := by
    cases hm with
    | here hm => exact (h m hm).imp_right fun hm => ⟨hm.block, hm.unpreserved⟩
    | within hc hm =>
      rcases h _ hc with hb | hb
      · simp [Node.isBlank] at hb
      · exact hb.holds m hm

/-- What one visit takes out is barren: what is gone of it was so, and the rest is blank. -/
theorem Sweep.Sound.visit {s : Sheet} {sweep : Sweep} (h : sweep.Sound s) {v : Css.Path × Node}
    (hv : nodeAt? s v.1 = some v.2) : (sweep.visit s v).Sound s := by
  rw [Sweep.visit]
  split
  · rename_i hemptied
    obtain ⟨hblock, hname, hchildren⟩ := blank_or_gone hemptied
    have hbarren : Barren v.2 := by
      refine .of_children hblock hname fun c hc => ?_
      obtain ⟨i, hc⟩ := List.mem_iff_getElem?.1 hc
      have hat : nodeAt? s (v.1 ++ [i]) = some c := ((Css.holds_children hv).nodeAt? i).trans hc
      rcases hchildren i c hc with hout | hblank
      · rcases h.gone _ hout with ⟨w, hw, e⟩ | ⟨n, hn, hspace⟩
        · obtain ⟨hnode, hw⟩ := h.removed w hw
          rw [e] at hnode
          exact .inr (Option.some.inj (hnode.symm.trans hat) ▸ hw)
        · exact .inl (Option.some.inj (hn.symm.trans hat) ▸ Node.blank_of_whitespace hspace)
      · exact .inl hblank
    obtain ⟨parent, i, hpath, -⟩ := Css.exists_of_nodeAt? hv
    refine ⟨List.forall_mem_cons.2 ⟨⟨hv, hbarren⟩, h.removed⟩, fun q hq => ?_⟩
    rw [hpath] at hq
    rcases Css.removeAt_adds hq with hq | rfl | ⟨j, n, rfl, hn, hspace⟩
    · exact (h.gone q hq).imp_left fun ⟨w, hw, e⟩ => ⟨w, List.mem_cons_of_mem v hw, e⟩
    · exact .inl ⟨v, List.mem_cons_self, hpath⟩
    · exact .inr ⟨n, ((Css.holds_siblingsAt s parent i).nodeAt? j).trans hn, hspace⟩
  · exact h

theorem sound_visits {s : Sheet} (vs : List (Css.Path × Node)) {sweep : Sweep}
    (h : sweep.Sound s) (hvs : ∀ v ∈ vs, nodeAt? s v.1 = some v.2) :
    (vs.foldl (Sweep.visit s) sweep).Sound s := by
  induction vs generalizing sweep with
  | nil => exact h
  | cons v vs ih =>
    obtain ⟨hv, hvs⟩ := List.forall_mem_cons.1 hvs
    exact ih (h.visit hv) hvs

/-- All that a sweep takes out is barren, or white space behind it. -/
theorem sound_sweepOf (s : Sheet) : (sweepOf s).Sound s := by
  refine sound_visits _ ⟨fun v hv => ?_, fun q hq => ?_⟩ fun v hv => ?_
  · cases hv
  · cases hq
  · exact Css.nodeAt?_of_mem_walkFrom s (Css.holds_top s) rfl hv

theorem mem_removed_visits {s : Sheet} {v : Css.Path × Node} : ∀ (vs : List (Css.Path × Node))
    {sweep : Sweep}, v ∈ (vs.foldl (Sweep.visit s) sweep).removed → v ∈ vs ∨ v ∈ sweep.removed
  | [], _, h => .inr h
  | w :: vs, sweep, h => by
    rcases mem_removed_visits vs h with h | h
    · exact .inl (List.mem_cons_of_mem w h)
    · rw [Sweep.visit] at h
      split at h
      · rcases List.mem_cons.1 h with rfl | h
        · exact .inl List.mem_cons_self
        · exact .inr h
      · exact .inr h

mutual

theorem without_nil : ∀ (n : Node) (path : Css.Path), n.without [] path = n
  | .ruleBlock k pre nodes, path => by rw [Node.without, withoutFrom_nil nodes path 0]
  | .whitespace _, _ | .comment _, _ | .rule _, _ | .statement .., _ | .rawBlock .., _ => rfl

theorem withoutFrom_nil : ∀ (nodes : List Node) (parent : Css.Path) (i : Nat),
    Css.withoutFrom [] parent i nodes = nodes
  | [], _, _ => rfl
  | n :: rest, parent, i => by
    rw [Css.withoutFrom, without_nil n, withoutFrom_nil rest parent (i + 1)]
    rfl

end

/-- A sweep over a tree without emptied at-rules takes nothing out. -/
theorem sweepOf_eq_nil {s : Sheet} (h : ∀ m, Occurs m s → isEmptied m = false) :
    sweepOf s = ⟨[], []⟩ := by
  have stays : ∀ vs : List (Css.Path × Node), (∀ v ∈ vs, isEmptied v.2 = false) →
      vs.foldl (Sweep.visit s) ⟨[], []⟩ = ⟨[], []⟩ := by
    intro vs
    induction vs with
    | nil => exact fun _ => rfl
    | cons v vs ih =>
      intro hvs
      obtain ⟨hv, hvs⟩ := List.forall_mem_cons.1 hvs
      have hvisit : Sweep.visit s ⟨[], []⟩ v = ⟨[], []⟩ := by
        rw [Sweep.visit, without_nil, hv]; rfl
      rw [List.foldl_cons, hvisit, ih hvs]
  exact stays _ fun v hv => h _ (Css.occurs_of_mem_walkFrom s hv).2

/-! ## Statements and preserved at-rules -/

/-- At-rules that no pass takes out: those without a block and those that are preserved. -/
def isLasting (n : Node) : Bool := n.isAtRule && (!n.hasBlock || isPreserved n)

theorem isLasting_of_isBlank {n : Node} (h : n.isBlank = true) : isLasting n = false := by
  cases n with
  | whitespace | comment => rfl
  | _ => simp [Node.isBlank] at h

theorem listedFrom_blank (above : List Enclosing) : ∀ nodes : List Node,
    nodes.all Node.isBlank = true → Css.listedFrom isLasting above nodes = []
  | [], _ => rfl
  | n :: rest, h => by
    rw [List.all_cons, Bool.and_eq_true] at h
    rw [Css.listedFrom, Node.listed_blank h.1 (isLasting_of_isBlank h.1),
      listedFrom_blank above rest h.2]
    rfl

theorem spares_refuses (used : Text → Bool) : Spares (refuses used) isLasting where
  blank _ := isLasting_of_isBlank
  spared n h := by
    cases n with
    | rule => rfl
    | _ => simp [refuses] at h
  block _ _ _ _ h := by simp [refuses] at h
  head _ _ _ _ := rfl

theorem spares_isEmptied : Spares isEmptied isLasting where
  blank _ := isLasting_of_isBlank
  spared n h := by
    rw [isEmptied, Bool.and_eq_true, Bool.not_eq_true'] at h
    cases n with
    | rawBlock | ruleBlock => exact h.1
    | _ => simp [Node.isEmptyBlock] at h
  block _ _ nodes above h := by
    rw [isEmptied, Bool.and_eq_true] at h
    exact listedFrom_blank above nodes h.2
  head _ _ _ _ := rfl

/-- What went with an at-rule of the source: no rule with a reason to stay, and no at-rule that
lasts. -/
structure Forsaken (used : Text → Bool) (n : Node) : Prop where
  block : n.hasBlock = true
  unpreserved : isPreserved n = false
  rules : ∀ r, Occurs (.rule r) n.children → keepsBy used r = false
  atRules : ∀ m, Occurs m n.children → isLasting m = false

theorem Forsaken.of_barren {used : Text → Bool} {n : Node}
    (h : Barren (n.removeWhere (refuses used))) : Forsaken used n where
  block := by
    have := h.block
    cases n <;> exact this
  unpreserved := by
    have := h.unpreserved
    cases n <;> exact this
  rules r hr := by
    cases hk : keepsBy used r with
    | false => rfl
    | true =>
      have hstays : refuses used (.rule r) = false := by rw [refuses, hk]; rfl
      rcases h.holds _ (Node.occurs_removeWhere (fun _ _ _ => rfl) rfl hstays n hr) with hb | hb
      · cases hb
      · cases hb.1
  atRules m hm := by
    cases hl : isLasting m with
    | false => rfl
    | true =>
      have hkind : m.isWhitespace = false ∧ refuses used (m.removeWhere (refuses used)) = false ∧
          (m.removeWhere (refuses used)).isBlank = false := by
        cases m with
        | statement | rawBlock | ruleBlock => exact ⟨rfl, rfl, rfl⟩
        | _ => cases hl
      have hlast : isLasting (m.removeWhere (refuses used)) = true := by cases m <;> exact hl
      have hin := Node.occurs_removeWhere (fun _ _ _ => rfl) hkind.1 hkind.2.1 n hm
      rcases h.holds _ hin with hb | hb
      · rw [hkind.2.2] at hb
        cases hb
      · rw [isLasting, hb.1, hb.2, Bool.not_true, Bool.or_self, Bool.and_false] at hlast
        cases hlast

/-- After the pass over the rules one sweep is complete: each block at-rule that is left holds
something beside blanks, at any depth, unless it is preserved, so a second sweep takes out nothing.
What the sweep takes out held no rule with a reason to stay, no statement and no preserved at-rule;
so these are left, in their places and order. -/
theorem sweep_complete (used : Text → Bool) (s : Sheet) :
    let first := afterRules used s
    let swept := first.without (sweepOf first).gone
    (∀ m, Occurs m swept → isPreserved m = false →
      (∀ k pre nodes, m = .ruleBlock k pre nodes → ∃ child ∈ nodes, child.isBlank = false) ∧
      ∀ k pre content, m = .rawBlock k pre content → ∃ t ∈ content, t.isBlank = false) ∧
    sweepOf swept = ⟨[], []⟩ ∧
    (∀ v ∈ (sweepOf first).removed, ∃ n, Occurs n s ∧ v.2 = n.removeWhere (refuses used) ∧
      Forsaken used n) ∧
    Css.listedFrom isLasting [] swept = Css.listedFrom isLasting [] s ∧
    ∀ u : Usage, used = u.uses → swept = sheet u s := by
  intro first swept
  have hfirst : first = Css.removeWhere (refuses used) false s := afterRules_eq used s
  have hswept : swept = Css.removeWhere isEmptied false first := by
    rw [show swept = first.without (emptiedPass first) by rw [← gone_sweepOf]]
    exact without_emptiedPass first
  have hleft : ∀ m, Occurs m swept → isEmptied m = false := fun m hm =>
    (Css.exists_of_occurs_removeWhere first (hswept ▸ hm)).1
  refine ⟨fun m hm hname => ?_, sweepOf_eq_nil hleft, fun v hv => ?_, ?_, ?_⟩
  · have hempty : m.isEmptyBlock = false := by simpa [isEmptied, hname] using hleft m hm
    refine ⟨?_, ?_⟩
    · rintro k pre nodes rfl
      simpa [Node.isEmptyBlock] using hempty
    · rintro k pre content rfl
      simpa [Node.isEmptyBlock] using hempty
  · have hwalk := (mem_removed_visits _ hv).resolve_right List.not_mem_nil
    have hin := (Css.occurs_of_mem_walkFrom first hwalk).2
    obtain ⟨-, n, hn, e⟩ := Css.exists_of_occurs_removeWhere s (hfirst ▸ hin)
    exact ⟨n, hn, e, .of_barren (e ▸ ((sound_sweepOf first).removed v hv).2)⟩
  · rw [hswept, Css.listedFrom_removeWhere spares_isEmptied, hfirst,
      Css.listedFrom_removeWhere (spares_refuses used)]
  · rintro u rfl
    rw [hswept, hfirst, refuses_uses]
    rfl

/-- A statement, a rule two at-rules deep, and a preserved at-rule that is empty. -/
def nestedSheet : Sheet :=
  [.statement (Text.ofString "import") [],
    .ruleBlock (Text.ofString "media") []
      [.ruleBlock (Text.ofString "supports") []
        [.rule ⟨[.leaf .start (.literal ['.']), .leaf .start (.ident (Text.ofString "x"))], []⟩],
      .comment []],
    .whitespace ['\n'], .ruleBlock (Text.ofString "layer") [] []]

/-- An at-rule that is empty once its only rule is gone goes, and so does the one around it. -/
theorem sweep_complete_nested :
    let first := afterRules (fun _ => false) nestedSheet
    (sweepOf first).removed.length = 2 ∧
      (∀ v ∈ (sweepOf first).removed, ∃ n, Occurs n nestedSheet ∧
        v.2 = n.removeWhere (refuses fun _ => false) ∧ Forsaken (fun _ => false) n) ∧
      (Css.listedFrom isLasting [] (first.without (sweepOf first).gone)).length = 2 := by
  have counts : (sweepOf (afterRules (fun _ => false) nestedSheet)).removed.length = 2 ∧
      (Css.listedFrom isLasting [] nestedSheet).length = 2 := by decide +kernel
  obtain ⟨-, -, hremoved, hlisted, -⟩ := sweep_complete (fun _ => false) nestedSheet
  exact ⟨counts.1, hremoved, (congrArg List.length hlisted).trans counts.2⟩

end StylePrune.Prune
