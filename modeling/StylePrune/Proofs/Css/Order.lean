import StylePrune.Proofs.Css.Removal

/-!
# Removals in any order

Nodes that were visited beforehand may be taken out in any order, and any number of times. One
removal edits the list of siblings as it stands by then (`standing_removeAt`) and no other list
(`standing_removeAt_of_ne`), and the tree is made of these lists (`withoutFrom_eq_standing`). In a
tree in which no two white space nodes are neighbours, the paths that are gone after some removals
are those that were taken out and those of the white space that stood directly behind one of them
(`mem_removeAt`, `mem_removals`). So the order does not matter, and the tree that is left is
`spared`.
-/

namespace StylePrune.Css

/-! ## What one removal does to a list of siblings -/

/-- The siblings below `parent` that are still there, with their indexes. -/
def standing (gone : List Path) (parent : Path) (nodes : List Node) : List (Node × Nat) :=
  nodes.zipIdx.filter fun m => !gone.contains (parent ++ [m.2])

/-- Takes the member with an index out of a list, and white space that directly follows it. -/
def takeOut (index : Nat) : List (Node × Nat) → List (Node × Nat)
  | [] => []
  | m :: rest =>
    if m.2 = index then if startsBlank (rest.map Prod.fst) then rest.tail else rest
    else m :: takeOut index rest

theorem takeOut_eq_self {index : Nat} : ∀ {members : List (Node × Nat)},
    (∀ m ∈ members, m.2 ≠ index) → takeOut index members = members
  | [], _ => rfl
  | m :: rest, h => by
    obtain ⟨hm, hrest⟩ := List.forall_mem_cons.1 h
    rw [takeOut, if_neg hm, takeOut_eq_self hrest]

theorem takeOut_append {index : Nat} {before : List (Node × Nat)} (h : ∀ m ∈ before, m.2 ≠ index)
    (n : Node) (behind : List (Node × Nat)) :
    takeOut index (before ++ (n, index) :: behind) =
      before ++ if startsBlank (behind.map Prod.fst) then behind.tail else behind := by
  induction before with
  | nil => rw [List.nil_append, takeOut, if_pos rfl]; rfl
  | cons m before ih =>
    obtain ⟨hm, hbefore⟩ := List.forall_mem_cons.1 h
    rw [List.cons_append, takeOut, if_neg hm, ih hbefore, List.cons_append]

theorem exists_whitespace {n? : Option Node} (h : (n?.map Node.isWhitespace).getD false = true) :
    ∃ n, n? = some n ∧ n.isWhitespace = true := by
  cases n? with
  | none => cases h
  | some n => exact ⟨n, rfl, h⟩

/-- What a removal adds to the paths that are gone. -/
theorem removeAt_adds {sheet : Sheet} {gone : List Path} {parent q : Path} {i : Nat}
    (h : q ∈ removeAt sheet gone (parent ++ [i])) : q ∈ gone ∨ q = parent ++ [i] ∨ ∃ j n,
      q = parent ++ [j] ∧ (siblingsAt sheet (parent ++ [i]))[j]? = some n ∧
        n.isWhitespace = true := by
  simp only [removeAt, List.dropLast_concat, List.getLast?_concat] at h
  split at h
  · exact .inl h
  split at h
  · exact (List.mem_cons.1 h).symm.imp_right .inl
  · rename_i j _
    split at h
    · rename_i hw
      obtain ⟨n, hn, hw⟩ := exists_whitespace hw
      simp only [List.mem_cons] at h
      rcases h with rfl | rfl | h
      · exact .inr (.inr ⟨j, n, rfl, hn, hw⟩)
      · exact .inr (.inl rfl)
      · exact .inl h
    · exact (List.mem_cons.1 h).symm.imp_right .inl

theorem removeAt_grows {sheet : Sheet} {gone : List Path} {parent q : Path} {i : Nat}
    (h : q ∈ gone) : q ∈ removeAt sheet gone (parent ++ [i]) := by
  simp only [removeAt, List.dropLast_concat, List.getLast?_concat]
  split
  · exact h
  split
  · exact List.mem_cons_of_mem _ h
  · split
    · exact List.mem_cons_of_mem _ (List.mem_cons_of_mem _ h)
    · exact List.mem_cons_of_mem _ h

/-- A removal leaves the other lists of siblings as they are. -/
theorem standing_removeAt_of_ne {sheet : Sheet} {gone : List Path} {parent other : Path} {i : Nat}
    (h : other ≠ parent) (nodes : List Node) :
    standing (removeAt sheet gone (parent ++ [i])) other nodes = standing gone other nodes := by
  refine List.filter_congr fun m _ => congrArg not ?_
  rw [Bool.eq_iff_iff, List.contains_iff_mem, List.contains_iff_mem]
  refine ⟨fun hm => (removeAt_adds hm).resolve_right ?_, removeAt_grows⟩
  rintro (e | ⟨j, -, e, -⟩) <;> exact h (List.append_inj_left' e rfl)

/-- The siblings behind the `i`-th one that are still there. -/
def behind (gone : List Path) (parent : Path) (i : Nat) (nodes : List Node) : List (Node × Nat) :=
  (nodes.zipIdx.drop (i + 1)).filter fun m => !gone.contains (parent ++ [m.2])

theorem index_lt {nodes : List Node} {i : Nat} {m : Node × Nat} (h : m ∈ nodes.zipIdx.take i) :
    m.2 < i := by
  obtain ⟨k, hk, e⟩ := List.mem_take_iff_getElem.1 h
  rw [List.getElem_zipIdx] at e
  rw [← e]
  simp only [List.length_zipIdx] at hk ⊢
  omega

theorem lt_index {nodes : List Node} {i : Nat} {m : Node × Nat} (h : m ∈ nodes.zipIdx.drop i) :
    i ≤ m.2 := by
  obtain ⟨k, hk, e⟩ := List.mem_drop_iff_getElem.1 h
  rw [List.getElem_zipIdx] at e
  rw [← e]
  simp only
  omega

/-- The first sibling that a removal looks at is the first that is still there. -/
theorem head?_behind (gone : List Path) (parent : Path) (i : Nat) (nodes : List Node) :
    ((List.range nodes.length).filter fun j => i < j && !gone.contains (parent ++ [j])).head? =
      (behind gone parent i nodes).head?.map Prod.snd := by
  have early : (nodes.zipIdx.take (i + 1)).filter
      (fun m => i < m.2 && !gone.contains (parent ++ [m.2])) = [] :=
    List.filter_eq_nil_iff.2 fun m hm => by have := index_lt hm; simp; omega
  have late : (nodes.zipIdx.drop (i + 1)).filter
      (fun m => i < m.2 && !gone.contains (parent ++ [m.2])) = behind gone parent i nodes :=
    List.filter_congr fun m hm => by have := lt_index hm; simp; omega
  rw [show List.range nodes.length = nodes.zipIdx.map Prod.snd by
      rw [List.zipIdx_map_snd, List.range_eq_range'], List.filter_map, List.head?_map]
  congr 2
  conv => lhs; rw [← List.take_append_drop (i + 1) nodes.zipIdx]
  rw [List.filter_append]
  exact (congrArg (· ++ _) early).trans late

/-- A removal of a node that is there: the node goes, and white space if that comes next. -/
theorem removeAt_behind {sheet : Sheet} {gone : List Path} {parent : Path} {all : List Node}
    {i : Nat} (h : Holds sheet parent all) (h0 : parent ++ [i] ∉ gone) :
    removeAt sheet gone (parent ++ [i]) =
      match (behind gone parent i all).head? with
      | none => (parent ++ [i]) :: gone
      | some (n, j) =>
        if n.isWhitespace then (parent ++ [j]) :: (parent ++ [i]) :: gone
        else (parent ++ [i]) :: gone := by
  have hc : gone.contains (parent ++ [i]) = false := by simpa using h0
  simp only [removeAt, hc, Bool.false_eq_true, if_false, List.dropLast_concat,
    List.getLast?_concat, h i, head?_behind]
  cases hb : (behind gone parent i all).head? with
  | none => rfl
  | some m =>
    obtain ⟨n, j⟩ := m
    have hm : (n, j) ∈ all.zipIdx :=
      List.mem_of_mem_drop (List.mem_filter.1 (List.mem_of_head? hb)).1
    rw [Option.map_some]
    simp only [List.mk_mem_zipIdx_iff_getElem?.1 hm, Option.map_some, Option.getD_some]

theorem standing_eq {gone : List Path} {parent : Path} {all : List Node} {i : Nat} {n : Node}
    (hn : all[i]? = some n) (h0 : parent ++ [i] ∉ gone) :
    standing gone parent all =
      (all.zipIdx.take i).filter (fun m => !gone.contains (parent ++ [m.2])) ++
        (n, i) :: behind gone parent i all := by
  obtain ⟨hi, rfl⟩ := List.getElem?_eq_some_iff.1 hn
  have hc : (!gone.contains (parent ++ [i])) = true := by simpa using h0
  have hsplit : all.zipIdx.drop i = (all[i], i) :: all.zipIdx.drop (i + 1) := by
    rw [List.drop_eq_getElem_cons (by rwa [List.length_zipIdx]), List.getElem_zipIdx, Nat.zero_add]
  rw [standing, behind]
  conv => lhs; rw [← List.take_append_drop i all.zipIdx]
  rw [List.filter_append, hsplit, List.filter_cons, if_pos hc]

theorem standing_cons {gone : List Path} {parent : Path} {all : List Node} (k : Nat) :
    standing ((parent ++ [k]) :: gone) parent all =
      (standing gone parent all).filter fun m => m.2 ≠ k := by
  rw [standing, standing, List.filter_filter]
  refine List.filter_congr fun m _ => ?_
  rw [List.contains_cons, Bool.not_or, Bool.eq_iff_iff]
  simp

theorem nodup_standing (gone : List Path) (parent : Path) (all : List Node) :
    ((standing gone parent all).map Prod.snd).Nodup := by
  refine List.Nodup.sublist (List.filter_sublist.map Prod.snd) ?_
  rw [List.zipIdx_map_snd]
  exact List.nodup_range'

theorem filter_ne {before behind : List (Node × Nat)} {n : Node} {k : Nat}
    (h : ((before ++ (n, k) :: behind).map Prod.snd).Nodup) :
    ((before ++ (n, k) :: behind).filter fun m => m.2 ≠ k) = before ++ behind := by
  rw [(List.perm_middle.map _).nodup_iff, List.map_cons, List.nodup_cons] at h
  have hall : ∀ m ∈ before ++ behind, (m.2 ≠ k : Bool) = true := fun m hm =>
    decide_eq_true fun e => h.1 (List.mem_map.2 ⟨m, hm, e⟩)
  rw [List.filter_append, List.filter_cons_of_neg (by simp), ← List.filter_append,
    List.filter_eq_self.2 hall]

/-- A removal edits the list of siblings as it stands: the node is searched for in it, and goes with
the white space that directly follows it there. -/
theorem standing_removeAt {sheet : Sheet} {gone : List Path} {parent : Path} {all : List Node}
    {i : Nat} (h : Holds sheet parent all) :
    standing (removeAt sheet gone (parent ++ [i])) parent all =
      takeOut i (standing gone parent all) := by
  by_cases h0 : parent ++ [i] ∈ gone
  · have habsent : ∀ m ∈ standing gone parent all, m.2 ≠ i := by
      rintro m hm rfl
      have := (List.mem_filter.1 hm).2
      simp [h0] at this
    rw [removeAt, if_pos (List.contains_iff_mem.2 h0), takeOut_eq_self habsent]
  rw [removeAt_behind h h0]
  cases hn : all[i]? with
  | none =>
    have hlength := List.getElem?_eq_none_iff.1 hn
    have habsent : ∀ m ∈ standing gone parent all, m.2 ≠ i := fun m hm => by
      have := List.snd_lt_of_mem_zipIdx (List.mem_filter.1 hm).1
      omega
    rw [behind, List.drop_eq_nil_of_le (by rw [List.length_zipIdx]; omega), takeOut_eq_self habsent]
    refine (standing_cons i).trans (List.filter_eq_self.2 fun m hm => ?_)
    exact decide_eq_true (habsent m hm)
  | some n =>
    have hnodup := nodup_standing gone parent all
    have hfirst : standing ((parent ++ [i]) :: gone) parent all =
        (standing gone parent all).filter fun m => m.2 ≠ i := standing_cons i
    have hbefore : ∀ m ∈ (all.zipIdx.take i).filter (fun m => !gone.contains (parent ++ [m.2])),
        m.2 ≠ i := fun m hm => by
      have := index_lt (List.mem_filter.1 hm).1
      omega
    rw [standing_eq hn h0] at hnodup hfirst ⊢
    rw [takeOut_append hbefore]
    rw [filter_ne hnodup] at hfirst
    cases hb : behind gone parent i all with
    | nil =>
      rw [hb] at hfirst
      exact hfirst
    | cons m more =>
      obtain ⟨m, j⟩ := m
      rw [hb] at hfirst hnodup
      simp only [List.head?_cons, List.map_cons, startsBlank, Option.map_some, Option.getD_some,
        List.tail_cons]
      cases m.isWhitespace with
      | false => exact hfirst
      | true =>
        simp only [if_true]
        rw [standing_cons, hfirst, filter_ne]
        rw [(List.perm_middle.map _).nodup_iff, List.map_cons, List.nodup_cons] at hnodup
        exact hnodup.2

/-- The tree that is left is made of the lists of siblings as they stand. -/
theorem withoutFrom_eq_standing (gone : List Path) (parent : Path) (nodes : List Node) :
    withoutFrom gone parent 0 nodes =
      (standing gone parent nodes).map fun m => m.1.without gone (parent ++ [m.2]) := by
  have from_index : ∀ (nodes : List Node) (i : Nat), withoutFrom gone parent i nodes =
      ((nodes.zipIdx i).filter fun m => !gone.contains (parent ++ [m.2])).map fun m =>
        m.1.without gone (parent ++ [m.2]) := by
    intro nodes
    induction nodes with
    | nil => exact fun _ => rfl
    | cons n rest ih =>
      intro i
      rw [withoutFrom, ih, List.zipIdx_cons, List.filter_cons]
      cases gone.contains (parent ++ [i]) <;> rfl
  exact from_index nodes 0

/-! ## Trees without neighbouring white space -/

mutual

/-- Whether no two white space nodes are neighbours in the node. -/
def Node.isParted : Node → Bool
  | .ruleBlock _ _ nodes => areParted nodes
  | .whitespace _ | .comment _ | .rule _ | .statement .. | .rawBlock .. => true

/-- Whether no two white space nodes are neighbours, at any depth. -/
def areParted : List Node → Bool
  | [] => true
  | n :: rest => !(n.isWhitespace && startsBlank rest) && n.isParted && areParted rest

end

theorem areParted_children {n : Node} (h : n.isParted = true) : areParted n.children = true := by
  cases n with
  | ruleBlock => exact h
  | _ => rfl

theorem areParted_cons {n : Node} {rest : List Node} (h : areParted (n :: rest) = true) :
    (n.isWhitespace && startsBlank rest) = false ∧ n.isParted = true ∧ areParted rest = true := by
  simpa only [areParted, Bool.and_eq_true, Bool.not_eq_true', and_assoc] using h

theorem isParted_of_mem {n : Node} : ∀ {nodes : List Node}, areParted nodes = true → n ∈ nodes →
    n.isParted = true
  | _ :: _, h, hn => by
    obtain ⟨-, hhead, hrest⟩ := areParted_cons h
    rcases List.mem_cons.1 hn with rfl | hn
    · exact hhead
    · exact isParted_of_mem hrest hn

theorem areParted_siblingsAt : ∀ (q : Path) {nodes : List Node}, areParted nodes = true →
    areParted (siblingsAt nodes q) = true
  | [], _, _ => rfl
  | [_], _, h => h
  | k :: l :: rest, nodes, h => by
    rw [siblingsAt]
    · cases hn : nodes[k]? with
      | none => rfl
      | some n =>
        exact areParted_siblingsAt (l :: rest)
          (areParted_children (isParted_of_mem h (List.mem_of_getElem? hn)))
    · exact List.cons_ne_nil l rest

/-- Of two neighbours only one is white space. -/
theorem not_both_whitespace : ∀ {nodes : List Node} {i : Nat} {n m : Node},
    areParted nodes = true → nodes[i]? = some n → nodes[i + 1]? = some m →
      n.isWhitespace = true → m.isWhitespace = false
  | [], i, n, m, _, hn, _, _ => by simp at hn
  | first :: rest, 0, n, m, h, hn, hm, hw => by
    obtain ⟨hfirst, -, -⟩ := areParted_cons h
    obtain rfl : first = n := by simpa using hn
    cases rest with
    | nil => simp at hm
    | cons second rest =>
      obtain rfl : second = m := by simpa using hm
      simpa only [hw, Bool.true_and, startsBlank, List.head?_cons, Option.map_some,
        Option.getD_some] using hfirst
  | _ :: rest, i + 1, n, m, h, hn, hm, hw =>
    not_both_whitespace (areParted_cons h).2.2 (by simpa using hn) (by simpa using hm) hw

/-- White space directly behind a node that was visited. -/
def Trails (sheet : Sheet) (visited : List Path) (q : Path) : Prop :=
  ∃ parent i n, q = parent ++ [i + 1] ∧ parent ++ [i] ∈ visited ∧
    (siblingsAt sheet q)[i + 1]? = some n ∧ n.isWhitespace = true

/-- What the removals of some visited paths take out: these, and the white space behind them. -/
def TakenOut (sheet : Sheet) (visited : List Path) (q : Path) : Prop :=
  q ∈ visited ∨ Trails sheet visited q

theorem siblingsAt_beside (sheet : Sheet) (parent : Path) (i j : Nat) :
    siblingsAt sheet (parent ++ [i]) = siblingsAt sheet (parent ++ [j]) := by
  induction parent generalizing sheet with
  | nil => rfl
  | cons k parent ih =>
    cases parent with
    | nil => rfl
    | cons l parent =>
      simp only [List.cons_append, siblingsAt]
      cases sheet[k]? with
      | none => rfl
      | some n => exact ih n.children

theorem holds_siblingsAt (sheet : Sheet) (parent : Path) (i : Nat) :
    Holds sheet parent (siblingsAt sheet (parent ++ [i])) := fun j =>
  siblingsAt_beside sheet parent j i

section

variable {sheet : Sheet} {gone visited : List Path} {parent : Path} {all : List Node} {i : Nat}

theorem trails_iff (h : Holds sheet parent all) : Trails sheet visited (parent ++ [i]) ↔
    ∃ j n, i = j + 1 ∧ parent ++ [j] ∈ visited ∧ all[i]? = some n ∧ n.isWhitespace = true := by
  constructor
  · rintro ⟨parent', j, n, e, hv, hn, hw⟩
    obtain ⟨rfl, e⟩ := List.append_inj' e rfl
    obtain rfl : i = j + 1 := by simpa using e
    exact ⟨j, n, rfl, hv, h (j + 1) ▸ hn, hw⟩
  · rintro ⟨j, n, rfl, hv, hn, hw⟩
    exact ⟨parent, j, n, rfl, hv, (h (j + 1)).symm ▸ hn, hw⟩

theorem takenOut_cons (h : Holds sheet parent all) (q : Path) :
    TakenOut sheet ((parent ++ [i]) :: visited) q ↔
      q = parent ++ [i] ∨ TakenOut sheet visited q ∨
        q = parent ++ [i + 1] ∧ ∃ n, all[i + 1]? = some n ∧ n.isWhitespace = true := by
  constructor
  · rintro (hq | ⟨parent', j, n, rfl, hv, hn, hw⟩)
    · exact (List.mem_cons.1 hq).imp_right fun hq => .inl (.inl hq)
    · rcases List.mem_cons.1 hv with e | hv
      · obtain ⟨rfl, e⟩ := List.append_inj' e rfl
        obtain rfl : j = i := by simpa using e
        exact .inr (.inr ⟨rfl, n, h (j + 1) ▸ hn, hw⟩)
      · exact .inr (.inl (.inr ⟨parent', j, n, rfl, hv, hn, hw⟩))
  · rintro (rfl | (hq | ⟨parent', j, n, rfl, hv, hn, hw⟩) | ⟨rfl, n, hn, hw⟩)
    · exact .inl List.mem_cons_self
    · exact .inl (List.mem_cons_of_mem _ hq)
    · exact .inr ⟨parent', j, n, rfl, List.mem_cons_of_mem _ hv, hn, hw⟩
    · exact .inr ⟨parent, i, n, rfl, List.mem_cons_self, (h (i + 1)).symm ▸ hn, hw⟩

/-- White space that is there still has the node before it. -/
theorem before_whitespace (hs : areParted all = true) (h : Holds sheet parent all)
    (hgone : ∀ q, q ∈ gone ↔ TakenOut sheet visited q) {n : Node} (hn : all[i + 1]? = some n)
    (hw : n.isWhitespace = true) (hout : parent ++ [i] ∈ gone) : parent ++ [i + 1] ∈ gone := by
  rcases (hgone _).1 hout with hv | ht
  · exact (hgone _).2 (.inr ((trails_iff h).2 ⟨i, n, rfl, hv, hn, hw⟩))
  · obtain ⟨_, m, _, _, hm, hmw⟩ := (trails_iff h).1 ht
    rw [not_both_whitespace hs hm hn hmw] at hw
    cases hw

/-- One more removal: what is gone after it is what the removals so far and this one take out. -/
theorem mem_removeAt (hs : areParted all = true) (h : Holds sheet parent all)
    (hgone : ∀ q, q ∈ gone ↔ TakenOut sheet visited q) (q : Path) :
    q ∈ removeAt sheet gone (parent ++ [i]) ↔ TakenOut sheet ((parent ++ [i]) :: visited) q := by
  rw [takenOut_cons h, ← hgone]
  by_cases h0 : parent ++ [i] ∈ gone
  · rw [removeAt, if_pos (List.contains_iff_mem.2 h0)]
    refine ⟨fun hq => .inr (.inl hq), ?_⟩
    rintro (rfl | hq | ⟨rfl, n, hn, hw⟩)
    · exact h0
    · exact hq
    · exact before_whitespace hs h hgone hn hw h0
  -- The white space behind the node is gone already, or it is what the removal finds next.
  simp only [removeAt, if_neg (mt List.contains_iff_mem.1 h0), List.dropLast_concat,
    List.getLast?_concat, h i, List.head?_filter]
  cases hnext : (List.range all.length).find? fun j => i < j && !gone.contains (parent ++ [j]) with
  | none =>
    simp only [List.mem_cons]
    refine or_congr_right ⟨.inl, ?_⟩
    rintro (hq | ⟨rfl, n, hn, hw⟩)
    · exact hq
    · have := List.find?_range_eq_none.1 hnext (i + 1) (List.getElem?_eq_some_iff.1 hn).1
      simpa using this
  | some j =>
    obtain ⟨hj, -, hmin⟩ := List.find?_range_eq_some.1 hnext
    simp only [Bool.and_eq_true, decide_eq_true_eq, Bool.not_eq_true', List.contains_eq_mem,
      decide_eq_false_iff_not] at hj
    have between : ∀ k, i < k → k < j → parent ++ [k] ∈ gone := fun k hik hkj => by
      simpa [hik] using hmin k hkj
    cases hw : (all[j]?.map Node.isWhitespace).getD false with
    | true =>
      obtain ⟨n, hn, hnw⟩ := exists_whitespace hw
      obtain rfl : j = i + 1 := by
        rcases Nat.lt_or_eq_of_le (Nat.succ_le_of_lt hj.1) with hlt | rfl
        · obtain ⟨k, rfl⟩ : ∃ k, j = k + 1 := ⟨j - 1, by omega⟩
          exact absurd (before_whitespace hs h hgone hn hnw (between k (by omega) (by omega))) hj.2
        · rfl
      simp only [hw, if_true, List.mem_cons]
      constructor
      · rintro (rfl | hq | hq)
        · exact .inr (.inr ⟨rfl, n, hn, hnw⟩)
        · exact .inl hq
        · exact .inr (.inl hq)
      · rintro (hq | hq | ⟨rfl, -⟩)
        · exact .inr (.inl hq)
        · exact .inr (.inr hq)
        · exact .inl rfl
    | false =>
      simp only [hw, Bool.false_eq_true, if_false, List.mem_cons]
      refine or_congr_right ⟨.inl, ?_⟩
      rintro (hq | ⟨rfl, n, hn, hnw⟩)
      · exact hq
      · rcases Nat.lt_or_eq_of_le (Nat.succ_le_of_lt hj.1) with hlt | rfl
        · exact between (i + 1) (Nat.lt_succ_self i) hlt
        · simp [hn, hnw] at hw

end

/-! ## Any number of removals -/

theorem takenOut_congr {sheet : Sheet} {visited visited' : List Path}
    (h : ∀ q, q ∈ visited ↔ q ∈ visited') (q : Path) :
    TakenOut sheet visited q ↔ TakenOut sheet visited' q := by
  simp only [TakenOut, Trails, h]

/-- What is gone after removals, one after the other. -/
theorem mem_removals {sheet : Sheet} (hs : areParted sheet = true) : ∀ (paths : List Path)
    {gone visited : List Path}, (∀ path ∈ paths, path ≠ []) →
      (∀ q, q ∈ gone ↔ TakenOut sheet visited q) → ∀ q,
        q ∈ paths.foldl (removeAt sheet) gone ↔ TakenOut sheet (paths ++ visited) q
  | [], _, _, _, hgone, q => hgone q
  | path :: paths, gone, visited, hpaths, hgone, q => by
    obtain ⟨hpath, hrest⟩ := List.forall_mem_cons.1 hpaths
    obtain ⟨parent, i, rfl⟩ : ∃ parent i, path = parent ++ [i] :=
      ⟨_, _, (List.dropLast_concat_getLast hpath).symm⟩
    have hstep : ∀ q, q ∈ removeAt sheet gone (parent ++ [i]) ↔
        TakenOut sheet ((parent ++ [i]) :: visited) q :=
      mem_removeAt (areParted_siblingsAt _ hs) (holds_siblingsAt sheet parent i) hgone
    rw [List.foldl_cons, mem_removals hs paths hrest hstep]
    refine takenOut_congr (fun q => ?_) q
    simp only [List.mem_append, List.mem_cons, or_left_comm, or_assoc]

mutual

/-- What is left of a node when the visited paths below it are taken out. -/
def Node.spared (visited : List Path) (path : Path) : Node → Node
  | .ruleBlock keyword prelude nodes =>
    .ruleBlock keyword prelude (sparedFrom visited path 0 false nodes)
  | n => n

/-- What is left of siblings, the first of which has the index `index` under `parent`: the nodes
that were not visited, and of the white space only what does not stand directly behind one that
was. `afterVisited` says whether the sibling before was visited. -/
def sparedFrom (visited : List Path) (parent : Path) (index : Nat) (afterVisited : Bool) :
    List Node → List Node
  | [] => []
  | n :: rest =>
    let isVisited := visited.contains (parent ++ [index])
    let more := sparedFrom visited parent (index + 1) isVisited rest
    if isVisited || (afterVisited && n.isWhitespace) then more
    else n.spared visited (parent ++ [index]) :: more

end

/-- The tree without visited nodes and the white space behind them. -/
def Sheet.spared (sheet : Sheet) (visited : List Path) : Sheet :=
  sparedFrom visited [] 0 false sheet

mutual

theorem Node.without_eq_spared {sheet : Sheet} {gone visited : List Path}
    (hgone : ∀ q, q ∈ gone ↔ TakenOut sheet visited q) : ∀ (n : Node) (path : Path),
      Holds sheet path n.children → n.without gone path = n.spared visited path
  | .ruleBlock _ _ nodes, path, h => by
    have hbelow : withoutFrom gone path 0 nodes = sparedFrom visited path 0 false nodes :=
      withoutFrom_eq_spared hgone nodes h rfl (by simp)
    rw [Node.without, Node.spared, hbelow]
  | .whitespace _, _, _ | .comment _, _, _ | .rule _, _, _ | .statement .., _, _
  | .rawBlock .., _, _ => rfl

theorem withoutFrom_eq_spared {sheet : Sheet} {gone visited : List Path}
    (hgone : ∀ q, q ∈ gone ↔ TakenOut sheet visited q) : ∀ (nodes : List Node) {parent : Path}
      {all : List Node} {i : Nat} {after : Bool}, Holds sheet parent all → all.drop i = nodes →
        (after = true ↔ ∃ j, i = j + 1 ∧ parent ++ [j] ∈ visited) →
          withoutFrom gone parent i nodes = sparedFrom visited parent i after nodes
  | [], _, _, _, _, _, _, _ => rfl
  | n :: rest, parent, all, i, after, h, hd, hafter => by
    have hn : all[i]? = some n := by rw [← List.head?_drop, hd, List.head?_cons]
    have hout : gone.contains (parent ++ [i]) =
        (visited.contains (parent ++ [i]) || (after && n.isWhitespace)) := by
      rw [Bool.eq_iff_iff, List.contains_iff_mem, hgone, TakenOut, trails_iff h, Bool.or_eq_true,
        List.contains_iff_mem, Bool.and_eq_true, hafter]
      refine or_congr_right ⟨?_, ?_⟩
      · rintro ⟨j, m, rfl, hj, hm, hw⟩
        rw [Option.some.inj (hn.symm.trans hm)]
        exact ⟨⟨j, rfl, hj⟩, hw⟩
      · rintro ⟨⟨j, rfl, hj⟩, hw⟩
        exact ⟨j, n, rfl, hj, hn, hw⟩
    have hrest : all.drop (i + 1) = rest := by rw [← List.drop_drop, hd]; rfl
    have hnext : visited.contains (parent ++ [i]) = true ↔
        ∃ j, i + 1 = j + 1 ∧ parent ++ [j] ∈ visited := by simp
    rw [withoutFrom, sparedFrom, hout, withoutFrom_eq_spared hgone rest h hrest hnext,
      Node.without_eq_spared hgone n (parent ++ [i]) (h.below hn)]

end

/-- The walk of a node lists it, if it is asked for, and what the walk of its children lists. -/
theorem Node.mem_walk {keep : Node → Bool} {postOrder : Bool} {v : Path × Node} (n : Node)
    {path : Path} : v ∈ n.walk keep postOrder path ↔
      keep n = true ∧ v = (path, n) ∨ v ∈ walkFrom keep postOrder path 0 n.children := by
  have hself : v ∈ (if keep n then [(path, n)] else []) ↔ keep n = true ∧ v = (path, n) := by
    cases keep n <;> simp
  cases n with
  | ruleBlock keyword prelude nodes =>
    rw [Node.walk, ← hself]
    cases postOrder with
    | true => exact List.mem_append.trans or_comm
    | false => exact List.mem_append
  | _ =>
    rw [Node.walk, hself]
    · exact (or_iff_left List.not_mem_nil).symm
    · exact fun _ _ _ e => by cases e

mutual

theorem Node.path_of_mem_walk {keep : Node → Bool} {postOrder : Bool} {v : Path × Node} :
    ∀ (n : Node) {path : Path}, v ∈ n.walk keep postOrder path → v.1 = path ∨ From path 0 v.1
  | .ruleBlock k pre nodes, path, h =>
    ((Node.mem_walk _).1 h).imp (fun h => congrArg Prod.fst h.2) (path_of_mem_walkFrom nodes)
  | .whitespace _, _, h | .comment _, _, h | .rule _, _, h | .statement .., _, h
  | .rawBlock .., _, h =>
    ((Node.mem_walk _).1 h).imp (fun h => congrArg Prod.fst h.2) fun h => by cases h

/-- A walk of siblings lists paths from them on. -/
theorem path_of_mem_walkFrom {keep : Node → Bool} {postOrder : Bool} {v : Path × Node} :
    ∀ (nodes : List Node) {parent : Path} {i : Nat},
      v ∈ walkFrom keep postOrder parent i nodes → From parent i v.1
  | n :: rest, parent, i, h => by
    rw [walkFrom, List.mem_append] at h
    rcases h with h | h
    · rcases Node.path_of_mem_walk n h with e | h
      · exact e ▸ From.self parent i
      · exact h.below
    · exact (path_of_mem_walkFrom rest h).of_succ

end

/-- Removals of visited nodes may be made in any order and again. Of a tree in which no two white
space nodes are neighbours they leave, in the order of the tree, the nodes that were not visited and
stand below none that was, but for white space directly behind one that was visited; a node that was
taken out before is not taken out again. -/
theorem removals_any_order {sheet : Sheet} (hs : areParted sheet = true)
    {visits : List (Path × Node)}
    (hv : ∀ v ∈ visits, ∃ keep postOrder, v ∈ sheet.walk keep postOrder) :
    let paths := visits.map Prod.fst
    sheet.removeAll paths = sheet.spared paths ∧
      (∀ again : List (Path × Node), (∀ v, v ∈ again ↔ v ∈ visits) →
        sheet.removeAll (again.map Prod.fst) = sheet.removeAll paths) ∧
      ∀ v ∈ visits, removeAt sheet (paths.foldl (removeAt sheet) []) v.1 =
        paths.foldl (removeAt sheet) [] := by
  have hmem : ∀ visits' : List (Path × Node), (∀ v, v ∈ visits' ↔ v ∈ visits) → ∀ q,
      q ∈ (visits'.map Prod.fst).foldl (removeAt sheet) [] ↔
        TakenOut sheet (visits.map Prod.fst) q := by
    intro visits' hsame q
    have hpaths : ∀ path ∈ visits'.map Prod.fst, path ≠ [] := by
      rintro _ h rfl
      obtain ⟨v, hvisit, e⟩ := List.mem_map.1 h
      obtain ⟨keep, postOrder, hw⟩ := hv v ((hsame v).1 hvisit)
      obtain ⟨j, rest, -, e'⟩ := path_of_mem_walkFrom sheet hw
      rw [e] at e'
      cases e'
    have hempty : ∀ q, q ∈ [] ↔ TakenOut sheet [] q := by simp [TakenOut, Trails]
    rw [mem_removals hs _ hpaths hempty]
    exact takenOut_congr (fun q => by simp [hsame]) q
  have hleft : ∀ visits' : List (Path × Node), (∀ v, v ∈ visits' ↔ v ∈ visits) →
      sheet.removeAll (visits'.map Prod.fst) = sheet.spared (visits.map Prod.fst) :=
    fun visits' hsame =>
      withoutFrom_eq_spared (hmem visits' hsame) sheet (holds_top sheet) rfl (by simp)
  have hall := hleft visits fun _ => Iff.rfl
  refine ⟨hall, fun again hsame => (hleft again hsame).trans hall.symm, fun v hvisit => ?_⟩
  have hgone := (hmem visits (fun _ => Iff.rfl) v.1).2 (.inl (List.mem_map_of_mem hvisit))
  rw [removeAt, if_pos (List.contains_iff_mem.2 hgone)]

/-- Comments at two depths, met by walks in both orders, and the block around one of them: taken out
from the outside in, and the other way round. -/
theorem removals_any_order_nested :
    let block : Node := .ruleBlock [] [] [.comment ['b'], .whitespace ['\n'], .statement [] []]
    let sheet : Sheet := [.whitespace ['\t'], .comment ['a'], .whitespace [' '], block,
      .whitespace [' '], .statement [] []]
    let visits := sheet.walk Node.isComment false ++ sheet.walk Node.hasBlock true ++
      sheet.walk Node.isComment true
    areParted sheet = true ∧
      (∀ v ∈ visits, ∃ keep postOrder, v ∈ sheet.walk keep postOrder) ∧
      sheet.removeAll (visits.map Prod.fst) = [.whitespace ['\t'], .statement [] []] ∧
      sheet.removeAll (visits.reverse.map Prod.fst) = [.whitespace ['\t'], .statement [] []] := by
  intro block sheet visits
  have hv : ∀ v ∈ visits, ∃ keep postOrder, v ∈ sheet.walk keep postOrder := by
    intro v hv
    rcases List.mem_append.1 hv with hv | hv
    · exact (List.mem_append.1 hv).elim (fun hv => ⟨_, _, hv⟩) fun hv => ⟨_, _, hv⟩
    · exact ⟨_, _, hv⟩
  obtain ⟨hall, hagain, -⟩ := @removals_any_order sheet rfl visits hv
  have hleft : sheet.removeAll (visits.map Prod.fst) = [.whitespace ['\t'], .statement [] []] :=
    hall.trans rfl
  exact ⟨rfl, hv, hleft, (hagain visits.reverse fun _ => List.mem_reverse).trans hleft⟩

end StylePrune.Css
