import StylePrune.Proofs.Css.Flattened
import StylePrune.Proofs.Css.Occurs

/-!
# Nodes as tokens

A node is written as its head, that is its selector or its keyword with the prelude, and then as its
block or a semicolon (`Node.tokens`). Nodes that are readable are read back from their tokens
(`nodes_nodesTokens`), and every reading gives readable nodes (`readable_nodes`). What holds of a
list of tokens and of all its parts holds of the heads and blocks that are read from it
(`parts_nodes`). Whether some tokens can be read as nodes at all can be told without blanks and
without what stands in brackets (`isOk_nodes`, `accepts_outline`).
-/

namespace StylePrune.Css

/-- The block of a rule. -/
def curly (content : List Token) : Token := .block .start .curly content true

def semicolon : Token := .leaf .start (.literal [';'])

def atKeyword (keyword : Text) : Token := .leaf .start (.atKeyword keyword)

namespace Node

/-- The tokens up to the block or semicolon of a node. -/
def head : Node → List Token
  | whitespace text => [.leaf .start (.whitespace text)]
  | comment text => [.leaf .start (.comment text)]
  | rule r => r.selector
  | statement keyword prelude | rawBlock keyword prelude _ | ruleBlock keyword prelude _ =>
    atKeyword keyword :: prelude

/-- The tokens in the block of a node, if it holds no nodes. -/
def body : Node → List Token
  | rule r => r.content
  | rawBlock _ _ content => content
  | _ => []

end Node

mutual

def Node.tokens : Node → List Token
  | .whitespace text => [.leaf .start (.whitespace text)]
  | .comment text => [.leaf .start (.comment text)]
  | .rule r => r.selector ++ [curly r.content]
  | .statement keyword prelude => atKeyword keyword :: prelude ++ [semicolon]
  | .rawBlock keyword prelude content => atKeyword keyword :: prelude ++ [curly content]
  | .ruleBlock keyword prelude children =>
    atKeyword keyword :: prelude ++ [curly (nodesTokens children)]

/-- Nodes written as tokens. -/
def nodesTokens : List Node → List Token
  | [] => []
  | n :: rest => n.tokens ++ nodesTokens rest

end

theorem textOf_curly (content : List Token) : textOf [curly content] = braced (textOf content) :=
  List.append_nil _

/-! ## Reading nodes back -/

/-- Whether a token between rules starts one. -/
def Token.startsRule (top : Bool) (t : Token) : Bool :=
  !t.isBlank && !t.isAtKeyword && !(top && (t.isLiteral "<!--" || t.isLiteral "-->"))

/-- Tokens that end no at-rule. -/
def isPrelude (ts : List Token) : Bool := ts.all fun t => !t.isCurly && !t.isLiteral ";"

mutual

/-- Whether a node is one that reading can give. -/
def Node.isReadable (top : Bool) : Node → Bool
  | .whitespace _ | .comment _ => true
  | .rule r => r.selector.head?.any (·.startsRule top) && r.selector.all (!·.isCurly)
  | .statement _ prelude => isPrelude prelude
  | .rawBlock keyword prelude content =>
    isPrelude prelude &&
      (holdsDeclarations keyword || !(Reading.nodes false .nothing content).isOk)
  | .ruleBlock keyword prelude children =>
    isPrelude prelude && !holdsDeclarations keyword && areReadable false children

def areReadable (top : Bool) : List Node → Bool
  | [] => true
  | n :: rest => n.isReadable top && areReadable top rest

end

theorem areReadable_iff {top : Bool} {ns : List Node} :
    areReadable top ns = true ↔ ∀ n ∈ ns, n.isReadable top = true := by
  induction ns with
  | nil => simp [areReadable]
  | cons n ns ih => rw [areReadable, Bool.and_eq_true, ih, List.forall_mem_cons]

namespace Reading

theorem not_curly {t : Token} (h : t.isCurly = false) (p : Position) (content : List Token)
    (closed : Bool) : t = .block p .curly content closed → False := by
  rintro rfl
  cases h

theorem nodes_rule (top : Bool) (content rest : List Token) : ∀ (ts : List Token)
    (p : Position) (last : Token) (before : List Token), ts.all (!·.isCurly) = true →
      nodes top (.rule p last before) (ts ++ curly content :: rest) =
        (nodes top .nothing rest).map (.rule ⟨before.reverse ++ ts, content⟩ :: ·)
  | [], p, last, before, _ => by
    rw [List.nil_append, curly, nodes, List.append_nil]
  | t :: ts, p, last, before, h => by
    obtain ⟨ht, hts⟩ := Bool.and_eq_true_iff.1 h
    have hblock := not_curly (Bool.not_eq_true' _ ▸ ht)
    rw [List.cons_append, nodes, nodes_rule top content rest ts _ _ _ hts, List.reverse_cons,
      List.append_assoc]
    · rfl
    · exact hblock

theorem nodes_atRule (top : Bool) (keyword : Text) (u : Token) (rest : List Token) :
    ∀ (ts before : List Token), isPrelude ts = true →
      nodes top (.atRule keyword before) (ts ++ u :: rest) =
        nodes top (.atRule keyword (ts.reverse ++ before)) (u :: rest)
  | [], before, _ => rfl
  | t :: ts, before, h => by
    obtain ⟨ht, hts⟩ := Bool.and_eq_true_iff.1 h
    obtain ⟨hcurly, hend⟩ := Bool.and_eq_true_iff.1 ht
    rw [List.cons_append, nodes, if_neg (by simpa using hend),
      nodes_atRule top keyword u rest ts _ hts, List.reverse_cons, List.append_assoc]
    · rfl
    · exact not_curly (Bool.not_eq_true' _ ▸ hcurly)

theorem nodes_keyword (top : Bool) (keyword : Text) {prelude : List Token}
    (h : isPrelude prelude = true) (u : Token) (rest : List Token) :
    nodes top .nothing (atKeyword keyword :: prelude ++ [u] ++ rest) =
      nodes top (.atRule keyword prelude.reverse) (u :: rest) := by
  rw [List.append_assoc, List.singleton_append, List.cons_append, atKeyword, nodes,
    nodes_atRule top keyword u rest prelude [] h, List.append_nil]

mutual

theorem nodes_tokens (top : Bool) : ∀ (n : Node), n.isReadable top = true →
    ∀ rest, nodes top .nothing (n.tokens ++ rest) = (nodes top .nothing rest).map (n :: ·)
  | .whitespace text, _, rest | .comment text, _, rest => by
    rw [Node.tokens, List.singleton_append, nodes]
  | .rule ⟨[], content⟩, h, rest => by cases h
  | .rule ⟨t :: selector, content⟩, h, rest => by
    obtain ⟨hstart, hcurly⟩ := Bool.and_eq_true_iff.1 h
    obtain ⟨htcurly, hselector⟩ := Bool.and_eq_true_iff.1 hcurly
    simp only [List.head?_cons, Option.any_some, Token.startsRule, Bool.and_eq_true,
      Bool.not_eq_true'] at hstart
    obtain ⟨⟨hblank, hkeyword⟩, hmark⟩ := hstart
    rw [Node.tokens, List.append_assoc, List.singleton_append, List.cons_append, nodes,
      if_neg (by rw [hmark]; decide), nodes_rule top content rest selector _ _ _ hselector]
    · rfl
    · exact not_curly (Bool.not_eq_true' _ ▸ htcurly)
    · rintro p text rfl
      cases hblank
    · rintro p text rfl
      cases hblank
    · rintro p text rfl
      cases hkeyword
  | .statement keyword prelude, h, rest => by
    have hends : semicolon.isLiteral ";" = true := rfl
    rw [Node.tokens, nodes_keyword top keyword h, nodes, if_pos hends, List.reverse_reverse]
    exact not_curly rfl
  | .rawBlock keyword prelude content, h, rest => by
    obtain ⟨hprelude, hcontent⟩ := Bool.and_eq_true_iff.1 h
    rw [Node.tokens, nodes_keyword top keyword hprelude, curly, nodes, List.reverse_reverse]
    cases hd : holdsDeclarations keyword with
    | true => rw [if_pos rfl]
    | false =>
      rw [hd, Bool.false_or, Bool.not_eq_true'] at hcontent
      rw [if_neg Bool.false_ne_true]
      cases hn : nodes false .nothing content with
      | ok children => rw [hn] at hcontent; cases hcontent
      | error e => rfl
  | .ruleBlock keyword prelude children, h, rest => by
    obtain ⟨hleft, hchildren⟩ := Bool.and_eq_true_iff.1 h
    obtain ⟨hprelude, hd⟩ := Bool.and_eq_true_iff.1 hleft
    rw [Node.tokens, nodes_keyword top keyword hprelude, curly, nodes, List.reverse_reverse,
      if_neg (by simpa using hd), nodes_nodesTokens false children hchildren]

/-- Readable nodes are read back from their tokens. -/
theorem nodes_nodesTokens (top : Bool) : ∀ (ns : List Node), areReadable top ns = true →
    nodes top .nothing (nodesTokens ns) = .ok ns
  | [], _ => by rw [nodesTokens, nodes]
  | n :: rest, h => by
    obtain ⟨hn, hrest⟩ := Bool.and_eq_true_iff.1 h
    rw [nodesTokens, nodes_tokens top n hn, nodes_nodesTokens top rest hrest]
    rfl

end

/-! ## What reading gives -/

/-- A rule that is being read, as it will be readable. -/
def Pending.IsReadable (top : Bool) : Pending → Prop
  | .nothing => True
  | .rule _ _ before =>
    before.reverse.head?.any (·.startsRule top) = true ∧ before.reverse.all (!·.isCurly) = true
  | .atRule _ before => isPrelude before.reverse = true

theorem readable_map_cons {top : Bool} {n : Node} {e : Except SyntaxError (List Node)}
    {ns : List Node} (hn : n.isReadable top = true)
    (he : ∀ more, e = .ok more → areReadable top more = true) (h : e.map (n :: ·) = .ok ns) :
    areReadable top ns = true := by
  cases e with
  | error _ => cases h
  | ok more =>
    obtain rfl := Except.ok.inj h
    rw [areReadable, hn, he more rfl]
    rfl

theorem any_head?_append {α : Type} {p : α → Bool} {xs : List α} (h : xs.head?.any p = true)
    (ys : List α) : (xs ++ ys).head?.any p = true := by
  cases xs with
  | nil => cases h
  | cons => exact h

/-- Reading gives readable nodes. -/
theorem readable_nodes (top : Bool) (pending : Pending) (ts : List Token) (ns : List Node)
    (h : nodes top pending ts = .ok ns) (hp : pending.IsReadable top) :
    areReadable top ns = true := by
  fun_induction nodes top pending ts generalizing ns with
  | case1 =>
    obtain rfl := Except.ok.inj h
    rfl
  | case2 | case4 => cases h
  | case3 top keyword before =>
    obtain rfl := Except.ok.inj h
    exact Bool.and_eq_true_iff.2 ⟨hp, rfl⟩
  | case5 top p content closed rest q last before ih =>
    refine readable_map_cons ?_ (fun more hm => ih more hm trivial) h
    exact Bool.and_eq_true_iff.2 hp
  | case6 top p content closed rest keyword before ihc ih =>
    refine readable_map_cons ?_ (fun more hm => ih more hm trivial) h
    split
    · rename_i hd
      exact Bool.and_eq_true_iff.2 ⟨hp, by rw [hd]; rfl⟩
    · rename_i hd
      rw [Bool.not_eq_true] at hd
      split
      · rename_i children hchildren
        rw [Node.isReadable, hd, ihc children hchildren trivial, Bool.and_true]
        exact Bool.and_eq_true_iff.2 ⟨hp, rfl⟩
      · rename_i e he
        rw [Node.isReadable, hd, he]
        exact Bool.and_eq_true_iff.2 ⟨hp, rfl⟩
  | case7 top rest p text _ ih | case8 top rest p text _ ih =>
    exact readable_map_cons rfl (fun more hm => ih more hm trivial) h
  | case9 top rest p keyword _ ih => exact ih ns h rfl
  | case10 top rest t _ _ _ _ _ ih => exact ih ns h trivial
  | case11 top rest t hspace hcomment hkeyword hmark hblock ih =>
    refine ih ns h ⟨?_, ?_⟩
    · have hstarts : t.startsRule top = true := by
        rw [Token.startsRule, Token.isBlank_eq_false hspace hcomment,
          Token.isAtKeyword_eq_false hkeyword, Bool.eq_false_iff.2 hmark]
        rfl
      exact hstarts
    · simp [Token.isCurly_eq_false hblock]
  | case12 top p last before t rest hblock ih =>
    refine ih ns h ?_
    rw [Pending.IsReadable, List.reverse_cons, List.all_append, hp.2]
    exact ⟨any_head?_append hp.1 _, by simp [Token.isCurly_eq_false hblock]⟩
  | case13 top keyword before t rest _ _ ih =>
    refine readable_map_cons ?_ (fun more hm => ih more hm trivial) h
    exact hp
  | case14 top keyword before t rest hblock hend ih =>
    refine ih ns h ?_
    rw [Pending.IsReadable, isPrelude, List.reverse_cons, List.all_append]
    refine Bool.and_eq_true_iff.2 ⟨hp, ?_⟩
    simp [Token.isCurly_eq_false hblock, Bool.not_eq_true _ ▸ hend]

/-- The tokens of a rule that is being read. -/
def Pending.head : Pending → List Token
  | .nothing => []
  | .rule _ _ before => before.reverse
  | .atRule keyword before => atKeyword keyword :: before.reverse

end Reading

/-- What holds of a list of tokens, of its parts and of the curly blocks in it. -/
structure Hereditary (P : List Token → Prop) : Prop where
  left : ∀ xs ys, P (xs ++ ys) → P xs
  right : ∀ xs ys, P (xs ++ ys) → P ys
  block : ∀ {p content closed}, P [.block p .curly content closed] → P content
  /-- The place of a token plays no part. -/
  place : ∀ {p q l ts}, P (.leaf p l :: ts) → P (.leaf q l :: ts)

theorem hereditary_legible : Hereditary Legible where
  left _ _ h := (legible_append.1 h).1
  right _ _ h := (legible_append.1 h).2.1
  block h := (legible_block.1 h).2
  place h := by
    obtain ⟨hleaf, hts, hbeside⟩ := legible_cons.1 h
    exact legible_cons.2 ⟨legible_leaf.2 (legible_leaf.1 hleaf), hts, hbeside⟩

/-- The heads and blocks of all nodes have a property. -/
def Parts (P : List Token → Prop) (ns : List Node) : Prop :=
  ∀ m, Occurs m ns → P m.head ∧ P m.body

variable {P : List Token → Prop}

theorem parts_nil : Parts P [] := fun _ h => (not_occurs_nil h).elim

theorem parts_cons {n : Node} {ns : List Node} :
    Parts P (n :: ns) ↔ (P n.head ∧ P n.body) ∧ Parts P n.children ∧ Parts P ns := by
  simp only [Parts, occurs_cons]
  constructor
  · exact fun h => ⟨h n (.inl rfl), fun m hm => h m (.inr (.inl hm)),
      fun m hm => h m (.inr (.inr hm))⟩
  · rintro ⟨hn, hchildren, hns⟩ m (rfl | hm | hm)
    · exact hn
    · exact hchildren m hm
    · exact hns m hm

theorem parts_map_cons {n : Node} {e : Except SyntaxError (List Node)} {ns : List Node}
    (hn : P n.head ∧ P n.body) (hchildren : Parts P n.children)
    (he : ∀ more, e = .ok more → Parts P more) (h : e.map (n :: ·) = .ok ns) : Parts P ns := by
  cases e with
  | error _ => cases h
  | ok more =>
    obtain rfl := Except.ok.inj h
    exact parts_cons.2 ⟨hn, hchildren, he more rfl⟩

/-- What is left after a removal has the heads and blocks that it had. -/
theorem parts_removeWhere {p : Node → Bool} {ns : List Node} (h : Parts P ns) (after : Bool) :
    Parts P (removeWhere p after ns) := by
  intro m hm
  obtain ⟨-, n, hn, rfl⟩ := exists_of_occurs_removeWhere ns hm
  have hsame : (n.removeWhere p).head = n.head ∧ (n.removeWhere p).body = n.body := by
    cases n <;> exact ⟨rfl, rfl⟩
  rw [hsame.1, hsame.2]
  exact h n hn

mutual

theorem Node.isReadable_removeWhere {p : Node → Bool} : ∀ (n : Node) (top : Bool),
    n.isReadable top = true → (n.removeWhere p).isReadable top = true
  | .ruleBlock keyword prelude children, top, h => by
    obtain ⟨hhead, hchildren⟩ := Bool.and_eq_true_iff.1 h
    exact Bool.and_eq_true_iff.2 ⟨hhead, readable_removeWhere children false false hchildren⟩
  | .whitespace _, _, h | .comment _, _, h | .rule _, _, h | .statement .., _, h
  | .rawBlock .., _, h => h

theorem readable_removeWhere {p : Node → Bool} : ∀ (ns : List Node) (top after : Bool),
    areReadable top ns = true → areReadable top (removeWhere p after ns) = true
  | [], _, _, _ => rfl
  | n :: rest, top, after, h => by
    obtain ⟨hn, hrest⟩ := Bool.and_eq_true_iff.1 h
    have ih := fun after => readable_removeWhere (p := p) rest top after hrest
    rw [removeWhere_cons]
    split
    · exact ih false
    split
    · exact ih true
    · exact Bool.and_eq_true_iff.2 ⟨Node.isReadable_removeWhere n top hn, ih false⟩

end

namespace Reading

/-- What holds of all parts of some tokens holds of the parts of the nodes read from them. -/
theorem parts_nodes (hP : Hereditary P) (top : Bool) (pending : Pending) (ts : List Token)
    (ns : List Node) (h : nodes top pending ts = .ok ns) (hp : P (pending.head ++ ts)) :
    Parts P ns := by
  have nil {xs : List Token} (h : P xs) : P [] := hP.left [] xs h
  have tail {t : Token} {ts : List Token} (h : P (t :: ts)) : P ts := hP.right [t] ts h
  have first {t : Token} {ts : List Token} (h : P (t :: ts)) : P [t] := hP.left [t] ts h
  fun_induction nodes top pending ts generalizing ns with
  | case1 =>
    obtain rfl := Except.ok.inj h
    exact parts_nil
  | case2 | case4 => cases h
  | case3 top keyword before =>
    obtain rfl := Except.ok.inj h
    exact parts_cons.2 ⟨⟨hP.left _ _ hp, nil hp⟩, parts_nil, parts_nil⟩
  | case5 top p content closed rest q last before ih =>
    have hblock := hP.right _ _ hp
    exact parts_map_cons ⟨hP.left _ _ hp, hP.block (first hblock)⟩ parts_nil
      (fun more hm => ih more hm (tail hblock)) h
  | case6 top p content closed rest keyword before ihc ih =>
    have hblock := hP.right _ _ hp
    have hcontent := hP.block (first hblock)
    refine parts_map_cons ?_ ?_ (fun more hm => ih more hm (tail hblock)) h
    · split
      · exact ⟨hP.left _ _ hp, hcontent⟩
      split
      · exact ⟨hP.left _ _ hp, nil hp⟩
      · exact ⟨hP.left _ _ hp, hcontent⟩
    · split
      · exact parts_nil
      split
      · exact ihc _ ‹_› hcontent
      · exact parts_nil
  | case7 top rest p text _ ih | case8 top rest p text _ ih =>
    refine parts_map_cons ?_ parts_nil (fun more hm => ih more hm (tail hp)) h
    exact ⟨hP.place (first hp), nil hp⟩
  | case9 top rest p keyword _ ih => exact ih ns h (hP.place hp)
  | case10 top rest t _ _ _ _ _ ih => exact ih ns h (tail hp)
  | case11 top rest t _ _ _ _ _ ih => exact ih ns h hp
  | case12 top p last before t rest _ ih =>
    refine ih ns h ?_
    rw [Pending.head, List.reverse_cons, List.append_assoc]
    exact hp
  | case13 top keyword before t rest _ _ ih =>
    refine parts_map_cons ?_ parts_nil (fun more hm => ih more hm (tail (hP.right _ _ hp))) h
    exact ⟨hP.left _ _ hp, nil hp⟩
  | case14 top keyword before t rest _ _ ih =>
    refine ih ns h ?_
    rw [Pending.head, List.reverse_cons, ← List.cons_append, List.append_assoc]
    exact hp

/-! ## Whether tokens can be read -/

/-- Whether tokens below the top level can be read, from a stage on. -/
def accepts : Stage → List Token → Bool
  | stage, [] => stage != .rule
  | stage, t :: rest =>
    if t.isCurly then stage != .between && accepts .between rest
    else
      match stage with
      | .between =>
        accepts (if t.isBlank then .between else if t.isAtKeyword then .atRule else .rule) rest
      | .rule => accepts .rule rest
      | .atRule => accepts (if t.isLiteral ";" then .between else .atRule) rest

theorem isOk_map {e : Except SyntaxError (List Node)} {f : List Node → List Node} :
    (e.map f).isOk = e.isOk := by
  cases e <;> rfl

theorem isOk_nodes (top : Bool) (htop : top = false) (pending : Pending) (ts : List Token) :
    (nodes top pending ts).isOk = accepts pending.stage ts := by
  fun_induction nodes top pending ts with
  | case1 | case2 | case3 => rfl
  | case4 => rfl
  | case5 top p content closed rest q last before ih =>
    rw [isOk_map, ih htop]
    rfl
  | case6 top p content closed rest keyword before ihc ih =>
    rw [isOk_map, ih htop]
    rfl
  | case7 top rest p text _ ih | case8 top rest p text _ ih =>
    rw [isOk_map, ih htop]
    rfl
  | case9 top rest p keyword _ ih =>
    rw [ih htop]
    rfl
  | case10 top rest t _ _ _ hmark _ ih =>
    subst htop
    cases hmark
  | case11 top rest t hspace hcomment hkeyword hmark hblock ih =>
    rw [ih htop]
    simp [accepts, Pending.stage, Token.isCurly_eq_false hblock,
      Token.isBlank_eq_false hspace hcomment, Token.isAtKeyword_eq_false hkeyword]
  | case12 top p last before t rest hblock ih =>
    rw [ih htop]
    simp [accepts, Pending.stage, Token.isCurly_eq_false hblock]
  | case13 top keyword before t rest hblock hend ih =>
    rw [isOk_map, ih htop]
    simp [accepts, Pending.stage, Token.isCurly_eq_false hblock, hend]
  | case14 top keyword before t rest hblock hend ih =>
    rw [ih htop]
    simp [accepts, Pending.stage, Token.isCurly_eq_false hblock, hend]

end Reading

/-! ## Outlines -/

/-- A token without what it holds. -/
def Token.bare : Token → Token
  | .leaf _ l => .leaf .start l
  | .block _ b _ _ => .block .start b [] true
  | .function _ name _ _ => .function .start name [] true

/-- Tokens without the blanks between them and without what they hold. -/
def outline (ts : List Token) : List Token := (ts.filter (!·.isBlank)).map Token.bare

section

variable (t : Token)

@[simp] theorem Token.isBlank_bare : t.bare.isBlank = t.isBlank := by
  rcases t with ⟨p, l⟩ | _ | _
  · cases l <;> rfl
  · rfl
  · rfl

@[simp] theorem Token.isCurly_bare : t.bare.isCurly = t.isCurly := by
  rcases t with _ | ⟨p, b, content, closed⟩ | _
  · rfl
  · cases b <;> rfl
  · rfl

@[simp] theorem Token.isAtKeyword_bare : t.bare.isAtKeyword = t.isAtKeyword := by
  rcases t with ⟨p, l⟩ | _ | _
  · cases l <;> rfl
  · rfl
  · rfl

@[simp] theorem Token.isLiteral_bare (text : String) :
    t.bare.isLiteral text = t.isLiteral text := by
  rcases t with ⟨p, l⟩ | _ | _
  · cases l <;> rfl
  · rfl
  · rfl

@[simp] theorem Token.startsRule_bare (top : Bool) : t.bare.startsRule top = t.startsRule top := by
  simp [Token.startsRule]

end

theorem outline_append (ts us : List Token) : outline (ts ++ us) = outline ts ++ outline us := by
  rw [outline, List.filter_append, List.map_append]
  rfl

theorem outline_blank {t : Token} (h : t.isBlank = true) (ts : List Token) :
    outline (t :: ts) = outline ts := by
  rw [outline, List.filter_cons_of_neg (by simp [h])]
  rfl

theorem outline_cons {t : Token} (h : t.isBlank = false) (ts : List Token) :
    outline (t :: ts) = t.bare :: outline ts := by
  rw [outline, List.filter_cons_of_pos (by simp [h])]
  rfl

theorem Token.isCurly_of_isBlank {t : Token} (h : t.isBlank = true) : t.isCurly = false := by
  cases t with
  | leaf => rfl
  | block | function => cases h

theorem Token.isLiteral_of_isBlank {t : Token} (h : t.isBlank = true) (text : String) :
    t.isLiteral text = false :=
  Bool.eq_false_iff.2 fun hl => by
    rw [isBlank_of_isLiteral hl] at h
    cases h

/-- What blanks pass can be told from an outline. -/
theorem all_outline {p : Token → Bool} (hbare : ∀ t : Token, p t.bare = p t)
    (hblank : ∀ t : Token, t.isBlank = true → p t = true) (ts : List Token) :
    (outline ts).all p = ts.all p := by
  induction ts with
  | nil => rfl
  | cons t ts ih =>
    cases h : t.isBlank with
    | true => rw [outline_blank h, ih, List.all_cons, hblank t h, Bool.true_and]
    | false => rw [outline_cons h, List.all_cons, List.all_cons, hbare, ih]

/-- Blanks and what brackets hold play no part in whether tokens can be read. -/
theorem Reading.accepts_outline (stage : Stage) (ts : List Token) :
    accepts stage (outline ts) = accepts stage ts := by
  induction ts generalizing stage with
  | nil => rfl
  | cons t ts ih =>
    cases h : t.isBlank with
    | true =>
      rw [outline_blank h, ih]
      cases stage <;> simp [accepts, h, Token.isCurly_of_isBlank h, Token.isLiteral_of_isBlank h]
    | false =>
      rw [outline_cons h]
      cases stage <;> simp [accepts, ih]

end StylePrune.Css
