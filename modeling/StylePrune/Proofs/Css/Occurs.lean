import StylePrune.Css.Walk
import StylePrune.Proofs.Css.Order

/-!
# Nodes in their places

`placed` lists the rules of a tree in document order, each with the at-rules around it from the
outside in. `placedFrom_removeWhere`: taking out the rules that a test refuses, and blocks that hold
no rule any more, leaves the list filtered by the test; nothing else moves.

`Occurs` says that a node stands somewhere in a tree, `listedFrom` lists nodes with the at-rules
around them, and `nodeAt?` finds a node by its path. A removal leaves what does not satisfy its
test, at any depth (`exists_of_occurs_removeWhere`, `occurs_removeWhere`) and in its place
(`listedFrom_removeWhere`), and a walk lists nodes of the tree under their paths
(`nodeAt?_of_mem_walkFrom`, `occurs_of_mem_walkFrom`).
-/

namespace StylePrune.Css

/-! ## Rules in their places -/

/-- An at-rule around a rule. -/
structure Enclosing where
  keyword : Text
  prelude : List Token

mutual

def Node.placed (above : List Enclosing) : Node → List (List Enclosing × Rule)
  | .rule r => [(above, r)]
  | .ruleBlock keyword prelude nodes => placedFrom (above ++ [⟨keyword, prelude⟩]) nodes
  | .whitespace _ | .comment _ | .statement .. | .rawBlock .. => []

def placedFrom (above : List Enclosing) : List Node → List (List Enclosing × Rule)
  | [] => []
  | n :: rest => n.placed above ++ placedFrom above rest

end

/-- The rules of a tree, with the at-rules around them. -/
def Sheet.placed (s : Sheet) : List (List Enclosing × Rule) := placedFrom [] s

theorem Node.placed_blank {n : Node} (h : n.isBlank = true) (above : List Enclosing) :
    n.placed above = [] := by
  cases n <;> first | rfl | simp [Node.isBlank] at h

theorem placedFrom_blank (above : List Enclosing) :
    ∀ nodes : List Node, nodes.all Node.isBlank = true → placedFrom above nodes = []
  | [], _ => rfl
  | n :: rest, h => by
    rw [List.all_cons, Bool.and_eq_true] at h
    rw [placedFrom, Node.placed_blank h.1, placedFrom_blank above rest h.2]; rfl

/-- `p` takes out the rules that `keep` refuses, and of the blocks only those without a rule. -/
structure Sifts (p : Node → Bool) (keep : Rule → Bool) : Prop where
  rule : ∀ r, p (.rule r) = !keep r
  block : ∀ k pre nodes above, p (.ruleBlock k pre nodes) = true → placedFrom above nodes = []

mutual

theorem Node.placed_removeWhere {p : Node → Bool} {keep : Rule → Bool} (h : Sifts p keep) :
    ∀ (n : Node) (above : List Enclosing),
      (if p (n.removeWhere p) then [] else (n.removeWhere p).placed above) =
        (n.placed above).filter fun x => keep x.2
  | .rule r, above => by
    simp only [Node.removeWhere, h.rule, Node.placed, List.filter_cons, List.filter_nil]
    cases keep r <;> rfl
  | .ruleBlock k pre nodes, above => by
    have ih := placedFrom_removeWhere h nodes (above ++ [⟨k, pre⟩]) false
    rw [Node.removeWhere, Node.placed, Node.placed, ← ih]
    split
    · rw [h.block k pre _ _ ‹_›]
    · rfl
  | .whitespace _, _ | .comment _, _ | .statement .., _ | .rawBlock .., _ => by
    simp only [Node.removeWhere, Node.placed, ite_self, List.filter_nil]

/-- What is left of the rules in some siblings. -/
theorem placedFrom_removeWhere {p : Node → Bool} {keep : Rule → Bool} (h : Sifts p keep) :
    ∀ (nodes : List Node) (above : List Enclosing) (after : Bool),
      placedFrom above (removeWhere p after nodes) =
        (placedFrom above nodes).filter fun x => keep x.2
  | [], _, _ => rfl
  | n :: rest, above, after => by
    rw [removeWhere, placedFrom, List.filter_append, ← Node.placed_removeWhere h n above]
    cases hb : after && n.isWhitespace with
    | true =>
      -- White space that goes with the node before it holds no rule.
      have hw : n.isBlank = true := by cases n <;> simp_all [Node.isWhitespace, Node.isBlank]
      rw [if_pos rfl, placedFrom_removeWhere h rest above false, Node.placed_removeWhere h n above,
        Node.placed_blank hw]
      rfl
    | false =>
      cases hp : p (n.removeWhere p) with
      | true =>
        simp only [hp, Bool.false_eq_true, if_false, if_true, List.nil_append]
        exact placedFrom_removeWhere h rest above true
      | false =>
        simp only [hp, Bool.false_eq_true, if_false, placedFrom]
        rw [placedFrom_removeWhere h rest above false]

end

/-! ## Nodes at any depth -/

/-- A node stands among some nodes or within one of them. -/
inductive Occurs (m : Node) : List Node → Prop
  | here {nodes : List Node} : m ∈ nodes → Occurs m nodes
  | within {nodes all : List Node} {keyword : Text} {prelude : List Token} :
      .ruleBlock keyword prelude nodes ∈ all → Occurs m nodes → Occurs m all

variable {p : Node → Bool} {m : Node}

theorem not_occurs_nil : ¬ Occurs m [] := by
  rintro (h | ⟨h, -⟩) <;> cases h

theorem occurs_cons {n : Node} {rest : List Node} :
    Occurs m (n :: rest) ↔ m = n ∨ Occurs m n.children ∨ Occurs m rest := by
  constructor
  · rintro (h | ⟨hn, h⟩)
    · exact (List.mem_cons.1 h).imp_right fun h => .inr (.here h)
    · rcases List.mem_cons.1 hn with rfl | hn
      · exact .inr (.inl h)
      · exact .inr (.inr (.within hn h))
  · rintro (rfl | h | h)
    · exact .here List.mem_cons_self
    · cases n with
      | ruleBlock => exact .within List.mem_cons_self h
      | _ => exact (not_occurs_nil h).elim
    · cases h with
      | here h => exact .here (List.mem_cons_of_mem _ h)
      | within hn h => exact .within (List.mem_cons_of_mem _ hn) h

theorem removeWhere_cons (n : Node) (rest : List Node) (after : Bool) :
    removeWhere p after (n :: rest) =
      if after && n.isWhitespace then removeWhere p false rest
      else if p (n.removeWhere p) then removeWhere p true rest
      else n.removeWhere p :: removeWhere p false rest := by
  rw [removeWhere]

theorem Node.isComment_removeWhere (n : Node) : (n.removeWhere p).isComment = n.isComment := by
  cases n <;> rfl

mutual

theorem Node.exists_of_occurs_removeWhere : ∀ n : Node, Occurs m (n.removeWhere p).children →
    p m = false ∧ ∃ n', Occurs n' n.children ∧ m = n'.removeWhere p
  | .ruleBlock _ _ nodes, h => exists_of_occurs_removeWhere nodes h
  | .whitespace _, h | .comment _, h | .rule _, h | .statement .., h | .rawBlock .., h =>
    (not_occurs_nil h).elim

/-- What is left after a removal, at any depth, does not satisfy `p`, and it is what is left of a
node that was there before. -/
theorem exists_of_occurs_removeWhere : ∀ (nodes : List Node) {after : Bool},
    Occurs m (removeWhere p after nodes) →
      p m = false ∧ ∃ n', Occurs n' nodes ∧ m = n'.removeWhere p
  | [], _, h => (not_occurs_nil h).elim
  | n :: rest, after, h => by
    have hrest : ∀ {after : Bool}, Occurs m (removeWhere p after rest) →
        p m = false ∧ ∃ n', Occurs n' (n :: rest) ∧ m = n'.removeWhere p := fun h => by
      obtain ⟨hm, n', hn', e⟩ := exists_of_occurs_removeWhere rest h
      exact ⟨hm, n', occurs_cons.2 (.inr (.inr hn')), e⟩
    rw [removeWhere_cons] at h
    split at h
    · exact hrest h
    split at h
    · exact hrest h
    · rename_i hp
      rcases occurs_cons.1 h with rfl | h | h
      · exact ⟨Bool.eq_false_iff.2 hp, n, occurs_cons.2 (.inl rfl), rfl⟩
      · obtain ⟨hm, n', hn', e⟩ := n.exists_of_occurs_removeWhere h
        exact ⟨hm, n', occurs_cons.2 (.inr (.inl hn')), e⟩
      · exact hrest h

end

mutual

theorem Node.occurs_removeWhere (hp : ∀ k pre nodes, p (.ruleBlock k pre nodes) = false)
    (hw : m.isWhitespace = false) (hm : p (m.removeWhere p) = false) : ∀ n : Node,
      Occurs m n.children → Occurs (m.removeWhere p) (n.removeWhere p).children
  | .ruleBlock _ _ nodes, h => occurs_removeWhere hp hw hm nodes h
  | .whitespace _, h | .comment _, h | .rule _, h | .statement .., h | .rawBlock .., h =>
    (not_occurs_nil h).elim

/-- A removal that leaves the blocks leaves what does not satisfy `p`, at any depth. -/
theorem occurs_removeWhere (hp : ∀ k pre nodes, p (.ruleBlock k pre nodes) = false)
    (hw : m.isWhitespace = false) (hm : p (m.removeWhere p) = false) : ∀ (nodes : List Node)
      {after : Bool}, Occurs m nodes → Occurs (m.removeWhere p) (removeWhere p after nodes)
  | [], _, h => (not_occurs_nil h).elim
  | n :: rest, after, h => by
    have hrest : ∀ {after : Bool}, Occurs m rest →
        Occurs (m.removeWhere p) (removeWhere p after rest) :=
      fun h => occurs_removeWhere hp hw hm rest h
    rw [removeWhere_cons]
    rcases occurs_cons.1 h with rfl | h | h
    · rw [hw, hm, Bool.and_false]
      exact occurs_cons.2 (.inl rfl)
    · have hblock : n.isWhitespace = false ∧ p (n.removeWhere p) = false := by
        cases n with
        | ruleBlock k pre nodes => exact ⟨rfl, hp k pre _⟩
        | _ => exact (not_occurs_nil h).elim
      rw [hblock.1, hblock.2, Bool.and_false]
      exact occurs_cons.2 (.inr (.inl (n.occurs_removeWhere hp hw hm h)))
    · split
      · exact hrest h
      split
      · exact hrest h
      · exact occurs_cons.2 (.inr (.inr (hrest h)))

end

mutual

theorem Node.removeWhere_of_forall : ∀ n : Node, (∀ m, Occurs m n.children → p m = false) →
    n.removeWhere p = n
  | .ruleBlock keyword prelude nodes, h => by
    rw [Node.removeWhere, removeWhere_of_forall nodes h]
  | .whitespace _, _ | .comment _, _ | .rule _, _ | .statement .., _ | .rawBlock .., _ => rfl

/-- Where no node satisfies `p`, nothing is taken out. -/
theorem removeWhere_of_forall : ∀ nodes : List Node, (∀ m, Occurs m nodes → p m = false) →
    removeWhere p false nodes = nodes
  | [], _ => rfl
  | n :: rest, h => by
    have hn := Node.removeWhere_of_forall n fun m hm => h m (occurs_cons.2 (.inr (.inl hm)))
    have hrest := removeWhere_of_forall rest fun m hm => h m (occurs_cons.2 (.inr (.inr hm)))
    rw [removeWhere_cons, Bool.false_and, if_neg Bool.false_ne_true, hn, hrest,
      if_neg (by rw [h n (occurs_cons.2 (.inl rfl))]; decide)]

end

/-! ## Nodes in their places -/

mutual

def Node.listed (q : Node → Bool) (above : List Enclosing) : Node → List (List Enclosing × Node)
  | .ruleBlock keyword prelude nodes =>
    (if q (.ruleBlock keyword prelude nodes) then
      [(above, .ruleBlock keyword prelude [])] else []) ++
      listedFrom q (above ++ [⟨keyword, prelude⟩]) nodes
  | n => if q n then [(above, n)] else []

/-- The nodes that satisfy `q`, without what they hold, in document order, each with the at-rules
around it. -/
def listedFrom (q : Node → Bool) (above : List Enclosing) : List Node → List (List Enclosing × Node)
  | [] => []
  | n :: rest => n.listed q above ++ listedFrom q above rest

end

theorem Node.blank_of_whitespace {n : Node} (h : n.isWhitespace = true) : n.isBlank = true := by
  cases n with
  | whitespace => rfl
  | _ => simp [Node.isWhitespace] at h

/-- `p` takes out no node that satisfies `q`, and no block that holds one. -/
structure Spares (p q : Node → Bool) : Prop where
  blank : ∀ n, n.isBlank = true → q n = false
  spared : ∀ n, p n = true → q n = false
  block : ∀ k pre nodes above, p (.ruleBlock k pre nodes) = true → listedFrom q above nodes = []
  /-- Whether a block satisfies `q` does not depend on what it holds. -/
  head : ∀ k pre nodes nodes', q (.ruleBlock k pre nodes) = q (.ruleBlock k pre nodes')

theorem Node.listed_blank {q : Node → Bool} {n : Node} (hb : n.isBlank = true) (hq : q n = false)
    (above : List Enclosing) : n.listed q above = [] := by
  cases n with
  | whitespace | comment => simp [Node.listed, hq]
  | _ => simp [Node.isBlank] at hb

mutual

theorem Node.listed_removeWhere {q : Node → Bool} (h : Spares p q) : ∀ (n : Node)
    (above : List Enclosing),
      (if p (n.removeWhere p) then [] else (n.removeWhere p).listed q above) = n.listed q above
  | .ruleBlock k pre nodes, above => by
    have ih := listedFrom_removeWhere h nodes (above ++ [⟨k, pre⟩]) false
    rw [Node.removeWhere, Node.listed, Node.listed, ← ih]
    split
    · rename_i hp
      rw [h.head k pre nodes (removeWhere p false nodes), h.spared _ hp, h.block _ _ _ _ hp]
      rfl
    · rw [h.head k pre nodes (removeWhere p false nodes)]
  | .whitespace _, above | .comment _, above | .rule _, above | .statement .., above
  | .rawBlock .., above => by
    rw [Node.removeWhere]
    · split
      · rename_i hp
        simp only [Node.listed, h.spared _ hp, Bool.false_eq_true, if_false]
      · rfl
    · exact fun _ _ _ e => by cases e

/-- A removal leaves the nodes that it spares in their places. -/
theorem listedFrom_removeWhere {q : Node → Bool} (h : Spares p q) : ∀ (nodes : List Node)
    (above : List Enclosing) (after : Bool),
      listedFrom q above (removeWhere p after nodes) = listedFrom q above nodes
  | [], _, _ => rfl
  | n :: rest, above, after => by
    rw [removeWhere, listedFrom, ← Node.listed_removeWhere h n above]
    cases hb : after && n.isWhitespace with
    | true =>
      have hw := Node.blank_of_whitespace (Bool.and_eq_true_iff.1 hb).2
      rw [if_pos rfl, listedFrom_removeWhere h rest above false, Node.listed_removeWhere h n above,
        Node.listed_blank hw (h.blank n hw), List.nil_append]
    | false =>
      cases hp : p (n.removeWhere p) with
      | true =>
        simp only [hp, Bool.false_eq_true, if_false, if_true, List.nil_append]
        exact listedFrom_removeWhere h rest above true
      | false =>
        simp only [hp, Bool.false_eq_true, if_false, listedFrom]
        rw [listedFrom_removeWhere h rest above false]

end

/-! ## Nodes by their paths -/

/-- The node at a path. -/
def nodeAt? (sheet : Sheet) (path : Path) : Option Node :=
  path.getLast?.bind fun i => (siblingsAt sheet path)[i]?

theorem exists_of_nodeAt? {sheet : Sheet} {path : Path} {n : Node}
    (h : nodeAt? sheet path = some n) : ∃ parent i, path = parent ++ [i] ∧
      (siblingsAt sheet (parent ++ [i]))[i]? = some n := by
  obtain ⟨i, hi, hn⟩ := Option.bind_eq_some_iff.1 h
  obtain ⟨parent, rfl⟩ := List.getLast?_eq_some_iff.1 hi
  exact ⟨parent, i, rfl, hn⟩

theorem holds_children {sheet : Sheet} {path : Path} {n : Node} (h : nodeAt? sheet path = some n) :
    Holds sheet path n.children := by
  obtain ⟨parent, i, rfl, hn⟩ := exists_of_nodeAt? h
  exact (holds_siblingsAt sheet parent i).below hn

theorem Holds.nodeAt? {sheet : Sheet} {parent : Path} {all : List Node} (h : Holds sheet parent all)
    (i : Nat) : nodeAt? sheet (parent ++ [i]) = all[i]? := by
  rw [Css.nodeAt?, List.getLast?_concat, Option.bind_some, h]

mutual

theorem Node.nodeAt?_of_mem_walk {sheet : Sheet} {keep : Node → Bool} {postOrder : Bool}
    {v : Path × Node} : ∀ (n : Node) {parent : Path} {all : List Node} {i : Nat},
      Holds sheet parent all → all[i]? = some n → v ∈ n.walk keep postOrder (parent ++ [i]) →
        nodeAt? sheet v.1 = some v.2
  | .ruleBlock k pre nodes, parent, all, i, hs, hn, hv => by
    rcases (Node.mem_walk _).1 hv with ⟨-, rfl⟩ | hv
    · rw [hs.nodeAt?, hn]
    · exact nodeAt?_of_mem_walkFrom nodes (hs.below hn) rfl hv
  | .whitespace _, _, _, _, hs, hn, hv | .comment _, _, _, _, hs, hn, hv
  | .rule _, _, _, _, hs, hn, hv | .statement .., _, _, _, hs, hn, hv
  | .rawBlock .., _, _, _, hs, hn, hv => by
    rcases (Node.mem_walk _).1 hv with ⟨-, rfl⟩ | hv
    · rw [hs.nodeAt?, hn]
    · cases hv

/-- A walk lists nodes with their paths. -/
theorem nodeAt?_of_mem_walkFrom {sheet : Sheet} {keep : Node → Bool} {postOrder : Bool}
    {v : Path × Node} : ∀ (nodes : List Node) {parent : Path} {all : List Node} {i : Nat},
      Holds sheet parent all → all.drop i = nodes → v ∈ walkFrom keep postOrder parent i nodes →
        nodeAt? sheet v.1 = some v.2
  | n :: rest, parent, all, i, hs, hd, hv => by
    have hn : all[i]? = some n := by rw [← List.head?_drop, hd]; rfl
    have hrest : all.drop (i + 1) = rest := by rw [← List.drop_drop, hd]; rfl
    rw [walkFrom, List.mem_append] at hv
    exact hv.elim (n.nodeAt?_of_mem_walk hs hn) (nodeAt?_of_mem_walkFrom rest hs hrest)

end

mutual

theorem Node.occurs_of_mem_walk {keep : Node → Bool} {postOrder : Bool} {v : Path × Node} :
    ∀ (n : Node) {path : Path}, v ∈ n.walk keep postOrder path →
      keep v.2 = true ∧ (v.2 = n ∨ Occurs v.2 n.children)
  | .ruleBlock k pre nodes, path, hv => by
    rcases (Node.mem_walk _).1 hv with ⟨hk, rfl⟩ | hv
    · exact ⟨hk, .inl rfl⟩
    · exact (occurs_of_mem_walkFrom nodes hv).imp_right .inr
  | .whitespace _, _, hv | .comment _, _, hv | .rule _, _, hv | .statement .., _, hv
  | .rawBlock .., _, hv => by
    rcases (Node.mem_walk _).1 hv with ⟨hk, rfl⟩ | hv
    · exact ⟨hk, .inl rfl⟩
    · cases hv

/-- A walk lists nodes of the tree that satisfy the test. -/
theorem occurs_of_mem_walkFrom {keep : Node → Bool} {postOrder : Bool} {v : Path × Node} :
    ∀ (nodes : List Node) {parent : Path} {i : Nat}, v ∈ walkFrom keep postOrder parent i nodes →
      keep v.2 = true ∧ Occurs v.2 nodes
  | n :: rest, parent, i, hv => by
    rw [walkFrom, List.mem_append] at hv
    rcases hv with hv | hv
    · obtain ⟨hk, hv⟩ := n.occurs_of_mem_walk hv
      exact ⟨hk, occurs_cons.2 (hv.imp_right .inl)⟩
    · exact (occurs_of_mem_walkFrom rest hv).imp_right fun h => occurs_cons.2 (.inr (.inr h))

end

end StylePrune.Css
