import StylePrune.Proofs.Css.Occurs

/-!
# Trees without comments

`Sheet.parts` lists a tree flat: the nodes with their heads and blocks, and within these the tokens
at every depth with their brackets. Stripping the comments of a tree leaves that list as it is
(`tokenParts_stripTokens`, `solid_removeWhere`), but for the blanks between nodes and for comment
tokens, each of which becomes one space. `stripComments_complete` puts this together with the visits
that take out the comment nodes and with a second run.
-/

namespace StylePrune.Css

/-! ## Trees listed flat -/

/-- A part of a tree that is listed flat. -/
inductive Part where
  | whitespaceNode (text : List Char)
  | commentNode (text : List Char)
  /-- A rule starts with its selector list. -/
  | rule
  /-- An at-rule starts with its prelude. -/
  | atRule (keyword : Text)
  /-- The block of a rule or an at-rule starts, and holds nodes or else tokens. -/
  | body (holdsNodes : Bool)
  /-- A rule or an at-rule ends. -/
  | ending
  | leaf (position : Position) (leaf : Leaf)
  /-- A block or function among tokens starts. -/
  | opening (position : Position) (head : Head)
  | closing (closed : Bool)

namespace Part

/-- Nodes between rules and at-rules. -/
def isBlankNode : Part → Bool
  | whitespaceNode _ | commentNode _ => true
  | _ => false

def isCommentNode : Part → Bool
  | commentNode _ => true
  | _ => false

/-- Comments, be they nodes or tokens. -/
def isComment : Part → Bool
  | commentNode _ | leaf _ (.comment _) => true
  | _ => false

/-- A comment token becomes one space in its place. -/
def uncommented : Part → Part
  | leaf position (.comment _) => leaf position (.whitespace [' '])
  | part => part

end Part

mutual

def Token.parts : Token → List Part
  | .leaf position l => [.leaf position l]
  | .block position b content closed =>
    .opening position (.bracket b) :: tokenParts content ++ [.closing closed]
  | .function position name arguments closed =>
    .opening position (.function name) :: tokenParts arguments ++ [.closing closed]

def tokenParts : List Token → List Part
  | [] => []
  | t :: rest => t.parts ++ tokenParts rest

end

mutual

def Node.parts : Node → List Part
  | .whitespace text => [.whitespaceNode text]
  | .comment text => [.commentNode text]
  | .rule r =>
    .rule :: tokenParts r.selector ++ .body false :: tokenParts r.content ++ [.ending]
  | .statement keyword prelude => .atRule keyword :: tokenParts prelude ++ [.ending]
  | .rawBlock keyword prelude content =>
    .atRule keyword :: tokenParts prelude ++ .body false :: tokenParts content ++ [.ending]
  | .ruleBlock keyword prelude nodes =>
    .atRule keyword :: tokenParts prelude ++ .body true :: nodeParts nodes ++ [.ending]

def nodeParts : List Node → List Part
  | [] => []
  | n :: rest => n.parts ++ nodeParts rest

end

/-- The parts of a tree, in document order. -/
def Sheet.parts (s : Sheet) : List Part := nodeParts s

/-- The parts without the blanks between rules and at-rules. -/
def solid (parts : List Part) : List Part := parts.filter fun part => !part.isBlankNode

theorem solid_append (xs ys : List Part) : solid (xs ++ ys) = solid xs ++ solid ys :=
  List.filter_append ..

theorem solid_cons {part : Part} (h : part.isBlankNode = false) (parts : List Part) :
    solid (part :: parts) = part :: solid parts := by
  rw [solid, List.filter_cons, h]
  rfl

/-! ## Tokens -/

mutual

theorem Token.parts_stripComments : ∀ t : Token,
    t.stripComments.parts = t.parts.map Part.uncommented
  | .leaf p l => by cases l <;> rfl
  | .block p b content closed => by
    rw [Token.stripComments, Token.parts, Token.parts, tokenParts_stripTokens content]
    simp [Part.uncommented]
  | .function p name arguments closed => by
    rw [Token.stripComments, Token.parts, Token.parts, tokenParts_stripTokens arguments]
    simp [Part.uncommented]

/-- Stripping puts a space for each comment token at every depth and leaves all else. -/
theorem tokenParts_stripTokens : ∀ ts : List Token,
    tokenParts (stripTokens ts) = (tokenParts ts).map Part.uncommented
  | [] => rfl
  | t :: rest => by
    rw [stripTokens, tokenParts, tokenParts, Token.parts_stripComments t,
      tokenParts_stripTokens rest, List.map_append]

end

mutual

theorem Token.isBlankNode_of_mem {part : Part} : ∀ t : Token, part ∈ t.parts →
    part.isBlankNode = false
  | .leaf p l, h => by
    rw [List.mem_singleton.1 h]
    rfl
  | .block p b content closed, h | .function p name content closed, h => by
    simp only [Token.parts, List.cons_append, List.mem_cons, List.mem_append,
      List.not_mem_nil, or_false] at h
    rcases h with rfl | h | rfl
    · rfl
    · exact isBlankNode_of_mem_tokenParts content h
    · rfl

/-- No part of a token is a node. -/
theorem isBlankNode_of_mem_tokenParts {part : Part} : ∀ ts : List Token, part ∈ tokenParts ts →
    part.isBlankNode = false
  | t :: rest, h => by
    rw [tokenParts, List.mem_append] at h
    exact h.elim (Token.isBlankNode_of_mem t) (isBlankNode_of_mem_tokenParts rest)

end

theorem countP_tokenParts (ts : List Token) : (tokenParts ts).countP Part.isCommentNode = 0 :=
  List.countP_eq_zero.2 fun part h => by
    have hnode := isBlankNode_of_mem_tokenParts ts h
    cases part <;> first | exact Bool.false_ne_true | cases hnode

mutual

theorem Token.stripComments_eq_self : ∀ t : Token,
    (∀ part ∈ t.parts, part.isComment = false) → t.stripComments = t
  | .leaf p l, h => by
    have hl := h _ (List.mem_singleton_self _)
    cases l with
    | comment => cases hl
    | _ => rfl
  | .block p b content closed, h | .function p name content closed, h => by
    rw [Token.stripComments, stripTokens_eq_self content fun part hpart => h part ?_]
    simp [Token.parts, hpart]

/-- Tokens without comments are left as they are. -/
theorem stripTokens_eq_self : ∀ ts : List Token,
    (∀ part ∈ tokenParts ts, part.isComment = false) → stripTokens ts = ts
  | [], _ => rfl
  | t :: rest, h => by
    rw [tokenParts, List.forall_mem_append] at h
    rw [stripTokens, Token.stripComments_eq_self t h.1, stripTokens_eq_self rest h.2]

end

/-! ## Nodes -/

mutual

theorem Node.parts_stripTokens : ∀ n : Node,
    n.stripTokens.parts = n.parts.map Part.uncommented
  | .whitespace text | .comment text => rfl
  | .rule r => by
    simp [Node.stripTokens, Node.parts, tokenParts_stripTokens, Part.uncommented]
  | .statement keyword prelude | .rawBlock keyword prelude content => by
    simp [Node.stripTokens, Node.parts, tokenParts_stripTokens, Part.uncommented]
  | .ruleBlock keyword prelude nodes => by
    rw [Node.stripTokens, Node.parts, Node.parts, tokenParts_stripTokens,
      nodeParts_stripNodes nodes]
    simp [Part.uncommented]

theorem nodeParts_stripNodes : ∀ nodes : List Node,
    nodeParts (stripNodes nodes) = (nodeParts nodes).map Part.uncommented
  | [] => rfl
  | n :: rest => by
    rw [stripNodes, nodeParts, nodeParts, Node.parts_stripTokens n, nodeParts_stripNodes rest,
      List.map_append]

end

theorem isBlankNode_uncommented (part : Part) :
    part.uncommented.isBlankNode = part.isBlankNode := by
  cases part with
  | leaf p l => cases l <;> rfl
  | _ => rfl

theorem isComment_uncommented {part : Part} (h : part.isCommentNode = false) :
    part.uncommented.isComment = false := by
  cases part with
  | commentNode text => cases h
  | leaf p l => cases l <;> rfl
  | _ => rfl

theorem solid_map_uncommented (parts : List Part) :
    solid (parts.map Part.uncommented) = (solid parts).map Part.uncommented := by
  rw [solid, List.filter_map, solid]
  congr 2
  funext part
  exact congrArg not (isBlankNode_uncommented part)

theorem solid_of_blank {n : Node} (h : n.isBlank = true) : solid n.parts = [] := by
  cases n <;> first | rfl | cases h

mutual

theorem Node.solid_removeWhere : ∀ n : Node,
    solid (n.removeWhere Node.isComment).parts = solid n.parts
  | .ruleBlock keyword prelude nodes => by
    have hbelow := solid_removeWhere nodes false
    simp only [Node.removeWhere, Node.parts, List.append_assoc, List.cons_append]
    rw [solid_cons rfl, solid_cons rfl, solid_append, solid_append, solid_cons rfl, solid_cons rfl,
      solid_append, solid_append, hbelow]
  | .whitespace _ | .comment _ | .rule _ | .statement .. | .rawBlock .. => rfl

/-- Taking out the comment nodes leaves all rules and at-rules. -/
theorem solid_removeWhere : ∀ (nodes : List Node) (after : Bool),
    solid (nodeParts (removeWhere Node.isComment after nodes)) = solid (nodeParts nodes)
  | [], _ => rfl
  | n :: rest, after => by
    have hrest := solid_removeWhere rest
    rw [removeWhere, nodeParts, solid_append]
    split
    case isTrue h =>
      have hspace := (Bool.and_eq_true_iff.1 h).2
      rw [hrest, solid_of_blank (by cases n <;> first | rfl | cases hspace), List.nil_append]
    dsimp only
    rw [Node.isComment_removeWhere]
    split
    case isTrue h =>
      rw [hrest, solid_of_blank (by cases n <;> first | rfl | cases h), List.nil_append]
    case isFalse h => rw [nodeParts, solid_append, Node.solid_removeWhere n, hrest]

end

mutual

theorem Node.countP_removeWhere : ∀ n : Node, n.isComment = false →
    (n.removeWhere Node.isComment).parts.countP Part.isCommentNode = 0
  | .ruleBlock keyword prelude nodes, _ => by
    simp [Node.removeWhere, Node.parts, countP_tokenParts,
      countP_removeWhere nodes false, Part.isCommentNode]
  | .comment _, h => by cases h
  | .whitespace _, _ => rfl
  | .rule _, _ | .statement .., _ | .rawBlock .., _ => by
    simp [Node.removeWhere, Node.parts, countP_tokenParts, Part.isCommentNode]

/-- No comment node is left at any depth. -/
theorem countP_removeWhere : ∀ (nodes : List Node) (after : Bool),
    (nodeParts (removeWhere Node.isComment after nodes)).countP Part.isCommentNode = 0
  | [], _ => rfl
  | n :: rest, after => by
    have hrest := countP_removeWhere rest
    rw [removeWhere]
    split
    case isTrue => exact hrest false
    dsimp only
    rw [Node.isComment_removeWhere]
    split
    case isTrue => exact hrest true
    case isFalse h =>
      rw [nodeParts, List.countP_append, Node.countP_removeWhere n (Bool.eq_false_iff.2 h),
        hrest false]

end

mutual

theorem Node.removeWhere_eq_self : ∀ n : Node, n.parts.countP Part.isCommentNode = 0 →
    n.removeWhere Node.isComment = n
  | .ruleBlock keyword prelude nodes, h => by
    rw [Node.removeWhere, removeWhere_eq_self nodes (by
      simpa [Node.parts, countP_tokenParts, Part.isCommentNode] using h)]
  | .whitespace _, _ | .comment _, _ | .rule _, _ | .statement .., _ | .rawBlock .., _ => rfl

/-- Without comment nodes nothing is taken out. -/
theorem removeWhere_eq_self : ∀ nodes : List Node,
    (nodeParts nodes).countP Part.isCommentNode = 0 → removeWhere Node.isComment false nodes = nodes
  | [], _ => rfl
  | n :: rest, h => by
    rw [nodeParts, List.countP_append, Nat.add_eq_zero_iff] at h
    have hn : n.isComment = false := by
      cases n with
      | comment => cases h.1
      | _ => rfl
    rw [removeWhere, Bool.false_and, if_neg Bool.false_ne_true]
    dsimp only
    rw [Node.isComment_removeWhere, hn, if_neg Bool.false_ne_true,
      Node.removeWhere_eq_self n h.1, removeWhere_eq_self rest h.2]

end

mutual

theorem Node.stripTokens_eq_self : ∀ n : Node, (∀ part ∈ n.parts, part.isComment = false) →
    n.stripTokens = n
  | .whitespace _, _ | .comment _, _ => rfl
  | .rule r, h => by
    rw [Node.stripTokens, stripTokens_eq_self r.selector, stripTokens_eq_self r.content] <;>
      exact fun part hpart => h part (by simp [Node.parts, hpart])
  | .statement keyword prelude, h => by
    rw [Node.stripTokens, stripTokens_eq_self prelude]
    exact fun part hpart => h part (by simp [Node.parts, hpart])
  | .rawBlock keyword prelude content, h => by
    rw [Node.stripTokens, stripTokens_eq_self prelude, stripTokens_eq_self content] <;>
      exact fun part hpart => h part (by simp [Node.parts, hpart])
  | .ruleBlock keyword prelude nodes, h => by
    rw [Node.stripTokens, stripTokens_eq_self prelude, stripNodes_eq_self nodes] <;>
      exact fun part hpart => h part (by simp [Node.parts, hpart])

/-- Nodes without comments are left as they are. -/
theorem stripNodes_eq_self : ∀ nodes : List Node,
    (∀ part ∈ nodeParts nodes, part.isComment = false) → stripNodes nodes = nodes
  | [], _ => rfl
  | n :: rest, h => by
    rw [nodeParts, List.forall_mem_append] at h
    rw [stripNodes, Node.stripTokens_eq_self n h.1, stripNodes_eq_self rest h.2]

end

/-! ## The visits of the comment nodes -/

mutual

theorem Node.length_walk : ∀ (n : Node) (path : Path),
    (n.walk Node.isComment false path).length = n.parts.countP Part.isCommentNode
  | .ruleBlock keyword prelude nodes, path => by
    have hself : Node.isComment (.ruleBlock keyword prelude nodes) = false := rfl
    simp [Node.walk, Node.parts, countP_tokenParts, Part.isCommentNode, hself,
      length_walkFrom nodes path 0]
  | .whitespace _, _ | .comment _, _ => rfl
  | .rule _, _ | .statement .., _ | .rawBlock .., _ => by
    simp [Node.walk, Node.parts, countP_tokenParts, Part.isCommentNode,
      Node.isComment]

/-- Every comment node is visited once. -/
theorem length_walkFrom : ∀ (nodes : List Node) (parent : Path) (i : Nat),
    (walkFrom Node.isComment false parent i nodes).length =
      (nodeParts nodes).countP Part.isCommentNode
  | [], _, _ => rfl
  | n :: rest, parent, i => by
    rw [walkFrom, nodeParts, List.length_append, List.countP_append, Node.length_walk n,
      length_walkFrom rest]

end

theorem judges_isComment : Judges Node.isComment Node.isComment where
  blank n h := by cases n <;> first | rfl | cases h
  kept _ h := h
  block _ _ _ _ := rfl

/-- Visits of comments take out each of them. -/
theorem foldl_visit_isComment (sheet : Sheet) : ∀ (visits : List (Path × Node)) (gone : List Path),
    (∀ v ∈ visits, v.2.isComment = true) →
      visits.foldl (visit Node.isComment sheet) gone =
        (visits.map Prod.fst).foldl (removeAt sheet) gone
  | [], _, _ => rfl
  | v :: visits, gone, h => by
    obtain ⟨hv, hvisits⟩ := List.forall_mem_cons.1 h
    have hself : (v.2.without gone v.1).isComment = true := by
      obtain ⟨path, n⟩ := v
      cases n with
      | comment => rfl
      | _ => cases hv
    rw [List.foldl_cons, List.map_cons, List.foldl_cons, foldl_visit_isComment sheet visits _
      hvisits, visit, hself, if_pos rfl]

/-- The visits of the comments leave the tree without its comment nodes. -/
theorem removeAll_comments (s : Sheet) :
    s.removeAll ((s.walk Node.isComment false).map Prod.fst) =
      removeWhere Node.isComment false s := by
  have hvisits : ∀ v ∈ s.walk Node.isComment false, v.2.isComment = true := fun v hv =>
    (occurs_of_mem_walkFrom s hv).1
  have horder : s.walk Node.isComment true = s.walk Node.isComment false :=
    (walkFrom_order (fun _ _ _ => rfl) false s [] 0).symm
  rw [Sheet.removeAll, ← foldl_visit_isComment s _ [] hvisits, ← horder]
  exact without_walk judges_isComment s

/-! ## Stripping -/

theorem commentCount_eq (s : Sheet) : s.commentCount = s.parts.countP Part.isCommentNode :=
  length_walkFrom s [] 0

/-- No comment is left, be it a node or a token. -/
theorem isComment_stripComments {s : Sheet} {part : Part} (h : part ∈ s.stripComments.parts) :
    part.isComment = false := by
  rw [Sheet.parts, Sheet.stripComments, nodeParts_stripNodes, List.mem_map] at h
  obtain ⟨part, hpart, rfl⟩ := h
  have hnone := List.countP_eq_zero.1 (countP_removeWhere s false) part hpart
  exact isComment_uncommented (Bool.eq_false_iff.2 hnone)

theorem countP_isCommentNode {parts : List Part} (h : ∀ part ∈ parts, part.isComment = false) :
    parts.countP Part.isCommentNode = 0 :=
  List.countP_eq_zero.2 fun part hpart hnode => by
    have hcomment := h part hpart
    cases part with
    | commentNode => cases hcomment
    | _ => cases hnode

/-- Stripping comments is complete and touches nothing else. It takes out the comment nodes, each
visited once with the white space that directly follows it by then, and its count is the number of
comment nodes of the tree. No comment is left at any depth. All rules and at-rules stay in their
order and nesting, and the tokens within them too, but that each comment token is one space. Of the
tree that is left, stripping takes out nothing. -/
theorem stripComments_complete (s : Sheet) :
    s.stripComments = stripNodes (s.removeAll ((s.walk Node.isComment false).map Prod.fst)) ∧
      s.commentCount = s.parts.countP Part.isCommentNode ∧
      (∀ part ∈ s.stripComments.parts, part.isComment = false) ∧
      solid s.stripComments.parts = (solid s.parts).map Part.uncommented ∧
      s.stripComments.commentCount = 0 ∧ s.stripComments.stripComments = s.stripComments := by
  have hnone : ∀ part ∈ s.stripComments.parts, part.isComment = false :=
    fun _ => isComment_stripComments
  have hnodes := countP_isCommentNode hnone
  refine ⟨?_, commentCount_eq s, hnone, ?_, (commentCount_eq _).trans hnodes, ?_⟩
  · rw [removeAll_comments, Sheet.stripComments]
  · rw [Sheet.parts, Sheet.stripComments, nodeParts_stripNodes, solid_map_uncommented,
      solid_removeWhere, Sheet.parts]
  · conv => lhs; rw [Sheet.stripComments, removeWhere_eq_self _ hnodes]
    exact stripNodes_eq_self _ hnone

/-- Comment tokens become spaces, comment nodes go, and a string is no comment. -/
example : (read ".a/**/b(/*x*/)\x7bc:\"/**/\"\x7d/*y*/ @media z\x7b/**/\x7d".toList).toOption.map
    (fun s => (s.commentCount, s.stripComments.length)) = some (2, 2) := by decide +kernel

end StylePrune.Css
