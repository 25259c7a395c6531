import StylePrune.Css.Generate
import StylePrune.Css.Nesting
import StylePrune.Css.Selector
import StylePrune.Css.Tree
import StylePrune.Css.Walk
import StylePrune.Proofs.Css.Leaves

/-!
# Trees without the places of their tokens

Every token of a tree says where in the text it stands. `unplacedNodes` forgets that, and nothing
that is done with a tree looks at it: neither nesting and reading (`Nesting.run_unplaced`,
`Reading.nodes_unplaced`), nor taking nodes out (`removeWhere_unplaced`), nor writing a tree
(`generateAll_unplaced`). So trees read from different places of a text can be compared.
-/

namespace StylePrune.Css

mutual

/-- A token that stands nowhere in particular. -/
def Token.unplaced : Token → Token
  | .leaf _ l => .leaf .start l
  | .block _ b content closed => .block .start b (unplacedTokens content) closed
  | .function _ name arguments closed => .function .start name (unplacedTokens arguments) closed

def unplacedTokens : List Token → List Token
  | [] => []
  | t :: rest => t.unplaced :: unplacedTokens rest

end

def Rule.unplaced (r : Rule) : Rule := ⟨unplacedTokens r.selector, unplacedTokens r.content⟩

mutual

/-- A node of tokens that stand nowhere in particular. -/
def Node.unplaced : Node → Node
  | .whitespace text => .whitespace text
  | .comment text => .comment text
  | .rule r => .rule r.unplaced
  | .statement keyword prelude => .statement keyword (unplacedTokens prelude)
  | .rawBlock keyword prelude content =>
    .rawBlock keyword (unplacedTokens prelude) (unplacedTokens content)
  | .ruleBlock keyword prelude children =>
    .ruleBlock keyword (unplacedTokens prelude) (unplacedNodes children)

def unplacedNodes : List Node → List Node
  | [] => []
  | n :: rest => n.unplaced :: unplacedNodes rest

end

/-- A tree without the places of its tokens. -/
def Sheet.unplaced (s : Sheet) : Sheet := unplacedNodes s

theorem unplacedTokens_eq (ts : List Token) : unplacedTokens ts = ts.map Token.unplaced := by
  induction ts with
  | nil => rfl
  | cons t ts ih => rw [unplacedTokens, ih, List.map_cons]

theorem unplacedNodes_eq (nodes : List Node) : unplacedNodes nodes = nodes.map Node.unplaced := by
  induction nodes with
  | nil => rfl
  | cons n nodes ih => rw [unplacedNodes, ih, List.map_cons]

/-! ## Tokens -/

theorem Token.leaf_of_unplaced {t : Token} {q : Position} {l : Leaf} (h : t.unplaced = .leaf q l) :
    ∃ p, t = .leaf p l := by
  cases t with
  | leaf p l' =>
    obtain ⟨-, rfl⟩ := Token.leaf.inj h
    exact ⟨p, rfl⟩
  | block | function => cases h

theorem Token.block_of_unplaced {t : Token} {q : Position} {b : Bracket} {content : List Token}
    {closed : Bool} (h : t.unplaced = .block q b content closed) :
    ∃ p content', t = .block p b content' closed := by
  cases t with
  | block p b' content' closed' =>
    obtain ⟨-, rfl, -, rfl⟩ := Token.block.inj h
    exact ⟨p, content', rfl⟩
  | leaf | function => cases h

theorem Token.position_unplaced (t : Token) : t.unplaced.position = .start := by
  cases t <;> rfl

@[simp] theorem Token.isBlank_unplaced (t : Token) : t.unplaced.isBlank = t.isBlank := by
  rcases t with ⟨p, l⟩ | _ | _
  · cases l <;> rfl
  · rfl
  · rfl

@[simp] theorem Token.isLiteral_unplaced (t : Token) (text : String) :
    t.unplaced.isLiteral text = t.isLiteral text := by
  rcases t with ⟨p, l⟩ | _ | _
  · cases l <;> rfl
  · rfl
  · rfl

@[simp] theorem Serialize.kind_unplaced (t : Token) :
    Serialize.kind t.unplaced = Serialize.kind t := by
  rcases t with ⟨p, l⟩ | ⟨p, b, content, closed⟩ | _
  · cases l <;> rfl
  · cases b <;> rfl
  · rfl

mutual

theorem Token.endsBroken_unplaced : ∀ t : Token, t.unplaced.endsBroken = t.endsBroken
  | .leaf .. | .block .. => rfl
  | .function _ _ arguments _ => endsBroken_unplaced arguments

theorem endsBroken_unplaced : ∀ ts : List Token, endsBroken (unplacedTokens ts) = endsBroken ts
  | [] => rfl
  | t :: rest => by
    rw [unplacedTokens, endsBroken, endsBroken, t.endsBroken_unplaced, endsBroken_unplaced rest]
    cases rest <;> rfl

end

namespace Serialize

theorem endInBrokenString_unplaced (ts : List Token) :
    endInBrokenString (unplacedTokens ts) = endInBrokenString ts := by
  rw [endInBrokenString_eq, endInBrokenString_eq, endsBroken_unplaced]

mutual

theorem token_unplaced : ∀ t : Token, token t.unplaced = token t
  | .leaf _ _ => rfl
  | .block _ b content _ => by
    rw [Token.unplaced, token, token, tokensAfter_unplaced content none]
  | .function _ n arguments _ => by
    rw [Token.unplaced, token, token, tokensAfter_unplaced arguments none,
      endInBrokenString_unplaced]

theorem tokensAfter_unplaced : ∀ (ts : List Token) (previous : Option Kind),
    tokensAfter previous (unplacedTokens ts) = tokensAfter previous ts
  | [], _ => rfl
  | t :: rest, previous => by
    cases previous <;>
      rw [unplacedTokens, tokensAfter, tokensAfter, token_unplaced t, kind_unplaced,
        tokensAfter_unplaced rest]

end

end Serialize

mutual

theorem Compact.piece_unplaced : ∀ t : Token, Compact.piece t.unplaced = Compact.piece t
  | .leaf _ l => by cases l <;> rfl
  | .block _ b content _ => by
    have := Compact.pieces_unplaced content
    cases b <;> simp only [Token.unplaced, Compact.piece, this]
  | .function _ _ arguments _ => by
    simp only [Token.unplaced, Compact.piece, Compact.pieces_unplaced arguments]

theorem Compact.pieces_unplaced : ∀ ts : List Token,
    Compact.pieces (unplacedTokens ts) = Compact.pieces ts
  | [] => rfl
  | t :: rest => by
    rw [unplacedTokens, Compact.pieces, Compact.pieces, Compact.piece_unplaced t,
      Compact.pieces_unplaced rest]

end

@[simp] theorem Serialize.tokens_unplaced (ts : List Token) :
    Serialize.tokens (unplacedTokens ts) = Serialize.tokens ts :=
  tokensAfter_unplaced ts none

@[simp] theorem Compact.tokens_unplaced (tight : Compact.Tight) (ts : List Token) :
    Compact.tokens tight (unplacedTokens ts) = Compact.tokens tight ts :=
  congrArg (join tight) (pieces_unplaced ts)

@[simp] theorem Compact.block_unplaced (ts : List Token) :
    Compact.block (unplacedTokens ts) = Compact.block ts :=
  congrArg (joinBlock []) (pieces_unplaced ts)

/-! ## Selectors and declarations -/

theorem selectors_split_unplaced : ∀ ts : List Token,
    Rule.selectors.split (unplacedTokens ts) = (Rule.selectors.split ts).map unplacedTokens
  | [] => rfl
  | t :: rest => by
    have ih := selectors_split_unplaced rest
    rw [unplacedTokens, Rule.selectors.split, Rule.selectors.split, Token.isLiteral_unplaced, ih]
    split
    · rfl
    · cases Rule.selectors.split rest <;> rfl

theorem any_unplaced {p : Token → Bool} (h : ∀ t : Token, p t.unplaced = p t) (ts : List Token) :
    (unplacedTokens ts).any p = ts.any p := by
  rw [unplacedTokens_eq, List.any_map]
  exact congrArg (ts.any ·) (funext h)

theorem all_unplaced {p : Token → Bool} (h : ∀ t : Token, p t.unplaced = p t) (ts : List Token) :
    (unplacedTokens ts).all p = ts.all p := by
  rw [unplacedTokens_eq, List.all_map]
  exact congrArg (ts.all ·) (funext h)

theorem Rule.selectors_unplaced (r : Rule) :
    r.unplaced.selectors = r.selectors.map unplacedTokens := by
  rw [Rule.selectors, Rule.selectors, Rule.unplaced, selectors_split_unplaced, List.filter_map]
  refine congrArg (List.map unplacedTokens) (List.filter_congr fun s _ => ?_)
  exact any_unplaced (fun t => by rw [Token.isBlank_unplaced]) s

mutual

theorem classNamesOf_unplaced : ∀ (t : Token) (dotted : Bool),
    classNamesOf dotted t.unplaced = classNamesOf dotted t
  | .leaf _ l, dotted => by cases l <;> rfl
  | .function _ _ arguments _, _ => by
    rw [Token.unplaced, classNamesOf, classNamesOf, classNamesAfter_unplaced arguments false]
  | .block _ b content _, _ => by
    cases b with
    | paren =>
      rw [Token.unplaced, classNamesOf, classNamesOf, classNamesAfter_unplaced content false]
    | square | curly => rfl

theorem classNamesAfter_unplaced : ∀ (ts : List Token) (dotted : Bool),
    classNamesAfter dotted (unplacedTokens ts) = classNamesAfter dotted ts
  | [], _ => rfl
  | t :: rest, dotted => by
    rw [unplacedTokens, classNamesAfter, classNamesAfter, classNamesOf_unplaced t dotted,
      Token.isLiteral_unplaced, classNamesAfter_unplaced rest]

end

theorem Rule.classNames_unplaced (r : Rule) : r.unplaced.classNames = r.classNames := by
  rw [Rule.classNames, Rule.classNames, Rule.selectors_unplaced, List.flatMap_map]
  refine congrArg (List.flatMap · r.selectors) (funext fun s => ?_)
  exact classNamesAfter_unplaced s false

theorem CustomProperties.find_unplaced : ∀ (ts : List Token) (expecting : Expecting),
    find expecting (unplacedTokens ts) = find expecting ts
  | [], _ => rfl
  | t :: rest, expecting => by
    have ih := find_unplaced rest
    cases expecting with
    | colon | rest =>
      simp only [unplacedTokens, find, Token.isBlank_unplaced, Token.isLiteral_unplaced, ih]
    | declaration =>
      simp only [unplacedTokens, find, Token.isBlank_unplaced, Token.isLiteral_unplaced, ih]
      rcases t with ⟨p, l⟩ | _ | _
      · cases l with
        | ident name => rcases name with _ | ⟨q, _ | ⟨q', name⟩⟩ <;> rfl
        | _ => rfl
      · rfl
      · rfl

theorem Rule.selectorText_unplaced (r : Rule) : r.unplaced.selectorText = r.selectorText :=
  congrArg trimText (Serialize.tokens_unplaced r.selector)

/-! ## Nodes -/

@[simp] theorem Node.isWhitespace_unplaced (n : Node) :
    n.unplaced.isWhitespace = n.isWhitespace := by
  cases n <;> rfl

@[simp] theorem Node.isComment_unplaced (n : Node) : n.unplaced.isComment = n.isComment := by
  cases n <;> rfl

@[simp] theorem Node.isBlank_unplaced (n : Node) : n.unplaced.isBlank = n.isBlank := by
  cases n <;> rfl

theorem Node.name_unplaced (n : Node) : n.unplaced.name = n.name := by cases n <;> rfl

theorem Node.isEmptyBlock_unplaced (n : Node) : n.unplaced.isEmptyBlock = n.isEmptyBlock := by
  cases n with
  | ruleBlock k pre nodes =>
    rw [Node.unplaced, Node.isEmptyBlock, Node.isEmptyBlock, unplacedNodes_eq, List.all_map]
    exact congrArg (nodes.all ·) (funext Node.isBlank_unplaced)
  | rawBlock k pre content => exact all_unplaced Token.isBlank_unplaced content
  | _ => rfl

theorem atRuleHead_unplaced (minify : Bool) (keyword : Text) (prelude : List Token) :
    atRuleHead minify keyword (unplacedTokens prelude) = atRuleHead minify keyword prelude := by
  rw [atRuleHead, atRuleHead, Compact.tokens_unplaced, Serialize.tokens_unplaced]

mutual

theorem Node.generate_unplaced (minify : Bool) : ∀ n : Node,
    n.unplaced.generate minify = n.generate minify
  | .whitespace _ | .comment _ => rfl
  | .rule r => by
    simp only [Node.unplaced, Node.generate, Rule.unplaced, Compact.tokens_unplaced,
      Compact.block_unplaced, Serialize.tokens_unplaced]
  | .statement keyword prelude => by
    rw [Node.unplaced, Node.generate, Node.generate, atRuleHead_unplaced]
  | .rawBlock keyword prelude content => by
    simp only [Node.unplaced, Node.generate, atRuleHead_unplaced, Compact.block_unplaced,
      Serialize.tokens_unplaced]
  | .ruleBlock keyword prelude children => by
    rw [Node.unplaced, Node.generate, Node.generate, atRuleHead_unplaced,
      generateAll_unplaced minify children]

theorem generateAll_unplaced (minify : Bool) : ∀ nodes : List Node,
    generateAll minify (unplacedNodes nodes) = generateAll minify nodes
  | [] => rfl
  | n :: rest => by
    rw [unplacedNodes, generateAll, generateAll, Node.generate_unplaced minify n,
      generateAll_unplaced minify rest]

end

mutual

theorem Node.removeWhere_unplaced {p : Node → Bool} (hp : ∀ n : Node, p n.unplaced = p n) :
    ∀ n : Node, n.unplaced.removeWhere p = (n.removeWhere p).unplaced
  | .ruleBlock k pre nodes => by
    rw [Node.unplaced, Node.removeWhere, Node.removeWhere, removeWhere_unplaced hp nodes false,
      Node.unplaced]
  | .whitespace _ | .comment _ | .rule _ | .statement .. | .rawBlock .. => rfl

theorem removeWhere_unplaced {p : Node → Bool} (hp : ∀ n : Node, p n.unplaced = p n) :
    ∀ (nodes : List Node) (after : Bool),
      removeWhere p after (unplacedNodes nodes) = unplacedNodes (removeWhere p after nodes)
  | [], _ => rfl
  | n :: rest, after => by
    have hn := Node.removeWhere_unplaced hp n
    have hrest := removeWhere_unplaced hp rest
    simp only [unplacedNodes, removeWhere, Node.isWhitespace_unplaced, hn, hp, hrest]
    split
    · rfl
    · split <;> rfl

end

/-- The at-rules around a rule, wherever their tokens stand. -/
def Enclosing.unplaced (e : Enclosing) : Enclosing := ⟨e.keyword, unplacedTokens e.prelude⟩

/-- A rule in its place in the tree, wherever its tokens stand in the text. -/
def unplacedRule (x : List Enclosing × Rule) : List Enclosing × Rule :=
  (x.1.map Enclosing.unplaced, x.2.unplaced)

mutual

theorem Node.placed_unplaced : ∀ (n : Node) (above : List Enclosing),
    n.unplaced.placed (above.map Enclosing.unplaced) = (n.placed above).map unplacedRule
  | .ruleBlock k pre nodes, above => by
    have ih := placedFrom_unplaced nodes (above ++ [⟨k, pre⟩])
    rw [List.map_append] at ih
    exact ih
  | .rule _, _ | .whitespace _, _ | .comment _, _ | .statement .., _ | .rawBlock .., _ => rfl

theorem placedFrom_unplaced : ∀ (nodes : List Node) (above : List Enclosing),
    placedFrom (above.map Enclosing.unplaced) (unplacedNodes nodes) =
      (placedFrom above nodes).map unplacedRule
  | [], _ => rfl
  | n :: rest, above => by
    rw [unplacedNodes, placedFrom, placedFrom, Node.placed_unplaced n, placedFrom_unplaced rest,
      List.map_append]

end

theorem placed_unplaced (s : Sheet) :
    Sheet.placed (unplacedNodes s) = s.placed.map unplacedRule :=
  placedFrom_unplaced s []

mutual

theorem Token.stripComments_unplaced : ∀ t : Token,
    t.unplaced.stripComments = t.stripComments.unplaced
  | .leaf _ l => by cases l <;> rfl
  | .block _ b content _ => by
    simp only [Token.unplaced, Token.stripComments, stripTokens_unplaced content]
  | .function _ _ arguments _ => by
    simp only [Token.unplaced, Token.stripComments, stripTokens_unplaced arguments]

theorem stripTokens_unplaced : ∀ ts : List Token,
    stripTokens (unplacedTokens ts) = unplacedTokens (stripTokens ts)
  | [] => rfl
  | t :: rest => by
    rw [unplacedTokens, stripTokens, stripTokens, unplacedTokens, Token.stripComments_unplaced t,
      stripTokens_unplaced rest]

end

mutual

theorem Node.stripTokens_unplaced : ∀ n : Node,
    n.unplaced.stripTokens = n.stripTokens.unplaced
  | .whitespace _ | .comment _ => rfl
  | .rule r => by
    simp only [Node.unplaced, Node.stripTokens, Rule.unplaced, Css.stripTokens_unplaced]
  | .statement _ prelude => by
    simp only [Node.unplaced, Node.stripTokens, Css.stripTokens_unplaced]
  | .rawBlock _ prelude content => by
    simp only [Node.unplaced, Node.stripTokens, Css.stripTokens_unplaced]
  | .ruleBlock _ prelude nodes => by
    simp only [Node.unplaced, Node.stripTokens, Css.stripTokens_unplaced, stripNodes_unplaced nodes]

theorem stripNodes_unplaced : ∀ nodes : List Node,
    stripNodes (unplacedNodes nodes) = unplacedNodes (stripNodes nodes)
  | [] => rfl
  | n :: rest => by
    rw [unplacedNodes, stripNodes, stripNodes, unplacedNodes, Node.stripTokens_unplaced n,
      stripNodes_unplaced rest]

end

theorem stripComments_unplaced (s : Sheet) :
    Sheet.stripComments (unplacedNodes s) = unplacedNodes s.stripComments := by
  rw [Sheet.stripComments, removeWhere_unplaced Node.isComment_unplaced, stripNodes_unplaced]
  rfl

/-! ## Nesting and reading -/

theorem unplacedTokens_reverse (ts : List Token) :
    unplacedTokens ts.reverse = (unplacedTokens ts).reverse := by
  simp only [unplacedTokens_eq, List.map_reverse]

/-- An open list, wherever it was opened. -/
def Frame.unplaced (f : Frame) : Frame := ⟨.start, f.head, unplacedTokens f.before⟩

namespace Nesting

theorem toToken_unplaced (head : Head) (p : Position) (content : List Token) (closed : Bool) :
    (head.toToken p content closed).unplaced =
      head.toToken .start (unplacedTokens content) closed := by
  cases head <;> rfl

theorem finish_unplaced : ∀ (frames : List Frame) (current : List Token),
    unplacedTokens (finish frames current) =
      finish (frames.map Frame.unplaced) (unplacedTokens current)
  | [], current => unplacedTokens_reverse current
  | frame :: frames, current => by
    rw [finish, finish_unplaced frames, unplacedTokens, toToken_unplaced, unplacedTokens_reverse]
    rfl

/-- Nesting does not look at places. -/
theorem run_unplaced : ∀ (xs : List (Position × Lexeme)) (frames : List Frame)
    (current : List Token), unplacedTokens (run frames current xs) =
      run (frames.map Frame.unplaced) (unplacedTokens current) (xs.map fun x => (.start, x.2))
  | [], frames, current => finish_unplaced frames current
  | (p, x) :: rest, frames, current => by
    have ih := fun frames current => run_unplaced rest frames current
    cases x with
    | leaf l | opening b | functionHead n => exact ih _ _
    | closing b =>
      cases frames with
      | nil => exact ih _ _
      | cons frame outer =>
        rw [List.map_cons, List.map_cons]
        by_cases hb : frame.head.bracketOf = b
        · have hb' : frame.unplaced.head.bracketOf = b := hb
          rw [run, if_pos hb, run, if_pos hb', ih, unplacedTokens, toToken_unplaced,
            unplacedTokens_reverse]
          rfl
        · have hb' : ¬ frame.unplaced.head.bracketOf = b := hb
          rw [run, if_neg hb, run, if_neg hb', ih]
          rfl

end Nesting

namespace Reading

def Pending.unplaced : Pending → Pending
  | .nothing => .nothing
  | .rule _ last before => .rule .start last.unplaced (unplacedTokens before)
  | .atRule keyword before => .atRule keyword (unplacedTokens before)

/-- A node before the nodes of a reading. -/
theorem map_cons_unplaced {a b : Except SyntaxError (List Node)} (n : Node)
    (h : a.toOption = b.toOption.map unplacedNodes) :
    (a.map (n.unplaced :: ·)).toOption = (b.map (n :: ·)).toOption.map unplacedNodes := by
  cases a with
  | error e =>
    cases b with
    | error e' => rfl
    | ok more => cases h
  | ok nodes =>
    cases b with
    | error e => cases h
    | ok more =>
      obtain rfl : nodes = unplacedNodes more := Option.some.inj h
      rfl

/-- Reading does not look at places but to report them. -/
theorem nodes_unplaced (top : Bool) (pending : Pending) (ts : List Token) :
    (nodes top pending.unplaced (unplacedTokens ts)).toOption =
      (nodes top pending ts).toOption.map unplacedNodes := by
  fun_induction nodes top pending ts with
  | case1 => rw [Pending.unplaced, unplacedTokens, nodes]; rfl
  | case2 => rw [Pending.unplaced, unplacedTokens, nodes]; rfl
  | case3 top keyword before =>
    rw [Pending.unplaced, unplacedTokens, nodes, ← unplacedTokens_reverse]
    rfl
  | case4 => rw [Pending.unplaced, unplacedTokens, Token.unplaced, nodes]; rfl
  | case5 top p content closed rest q last before ih =>
    rw [Pending.unplaced, unplacedTokens, Token.unplaced, nodes, ← unplacedTokens_reverse]
    exact map_cons_unplaced (.rule ⟨before.reverse, content⟩) ih
  | case6 top p content closed rest keyword before ihc ih =>
    rw [Pending.unplaced, unplacedTokens, Token.unplaced, nodes, ← unplacedTokens_reverse]
    split
    · exact map_cons_unplaced (.rawBlock keyword before.reverse content) ih
    rw [Pending.unplaced] at ihc
    cases hc : nodes false .nothing content with
    | error e =>
      rw [hc] at ihc
      cases hu : nodes false .nothing (unplacedTokens content) with
      | ok children => rw [hu] at ihc; cases ihc
      | error e' => exact map_cons_unplaced (.rawBlock keyword before.reverse content) ih
    | ok children =>
      rw [hc] at ihc
      cases hu : nodes false .nothing (unplacedTokens content) with
      | error e => rw [hu] at ihc; cases ihc
      | ok children' =>
        rw [hu] at ihc
        obtain rfl : children' = unplacedNodes children := Option.some.inj ihc
        exact map_cons_unplaced (.ruleBlock keyword before.reverse children) ih
  | case7 top rest p text _ ih =>
    rw [Pending.unplaced, unplacedTokens, Token.unplaced, nodes]
    exact map_cons_unplaced (.whitespace text) ih
  | case8 top rest p text _ ih =>
    rw [Pending.unplaced, unplacedTokens, Token.unplaced, nodes]
    exact map_cons_unplaced (.comment text) ih
  | case9 top rest p keyword _ ih =>
    rw [Pending.unplaced, unplacedTokens, Token.unplaced, nodes]
    exact ih
  | case10 top rest t hspace hcomment hat hmark hblock ih
  | case11 top rest t hspace hcomment hat hmark hblock ih =>
    rw [Pending.unplaced, unplacedTokens, nodes, Token.isLiteral_unplaced, Token.isLiteral_unplaced]
    · first
      | rw [if_pos hmark]
        exact ih
      | rw [if_neg hmark, Token.position_unplaced]
        exact ih
    · intro q content closed h
      obtain ⟨p, content', rfl⟩ := Token.block_of_unplaced h
      exact hblock _ _ _ rfl
    · intro q text h
      obtain ⟨p, rfl⟩ := Token.leaf_of_unplaced h
      exact hspace _ _ rfl
    · intro q text h
      obtain ⟨p, rfl⟩ := Token.leaf_of_unplaced h
      exact hcomment _ _ rfl
    · intro q keyword h
      obtain ⟨p, rfl⟩ := Token.leaf_of_unplaced h
      exact hat _ _ rfl
  | case12 top p last before t rest hblock ih =>
    rw [Pending.unplaced, unplacedTokens, nodes]
    · exact ih
    · intro q content closed h
      obtain ⟨p, content', rfl⟩ := Token.block_of_unplaced h
      exact hblock _ _ _ rfl
  | case13 top keyword before t rest hblock hend ih =>
    rw [Pending.unplaced, unplacedTokens, nodes, Token.isLiteral_unplaced, if_pos hend,
      ← unplacedTokens_reverse]
    · exact map_cons_unplaced (.statement keyword before.reverse) ih
    · intro q content closed h
      obtain ⟨p, content', rfl⟩ := Token.block_of_unplaced h
      exact hblock _ _ _ rfl
  | case14 top keyword before t rest hblock hend ih =>
    rw [Pending.unplaced, unplacedTokens, nodes, Token.isLiteral_unplaced, if_neg hend]
    · exact ih
    · intro q content closed h
      obtain ⟨p, content', rfl⟩ := Token.block_of_unplaced h
      exact hblock _ _ _ rfl

end Reading

end StylePrune.Css
