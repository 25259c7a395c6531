import StylePrune.Proofs.Css.Compacted
import StylePrune.Proofs.Css.Lines
import StylePrune.Proofs.Css.Spaceless
import StylePrune.Proofs.Css.Unplaced

/-!
# Two style sheets in one text

A text ends whole if nothing is left open at its end (`EndsWhole`). Then what stands on the next
lines is read for itself: nesting goes on with no list open (`Nest.tokens_foldl`), reading goes on
between two rules (`Reading.nodes_append`), and the tree is the one tree and then the other, but
for white space (`read_append`).
-/

namespace StylePrune.Css

/-! ## Nesting -/

/-- Whether a block or function has its own closing bracket; other tokens do. -/
def Token.isClosed : Token → Bool
  | .leaf .. => true
  | .block _ _ _ closed | .function _ _ _ closed => closed

/-- Where nesting stands: the lists that are open, and the tokens of the innermost one, last one
first. -/
structure Nest where
  frames : List Frame
  current : List Token

namespace Nest

/-- One lexeme read. -/
def step (s : Nest) (x : Position × Lexeme) : Nest :=
  match x.2 with
  | .leaf l => ⟨s.frames, .leaf x.1 l :: s.current⟩
  | .opening b => ⟨⟨x.1, .bracket b, s.current⟩ :: s.frames, []⟩
  | .functionHead name => ⟨⟨x.1, .function name, s.current⟩ :: s.frames, []⟩
  | .closing b =>
    match s.frames with
    | frame :: outer =>
      if frame.head.bracketOf = b then
        ⟨outer, frame.head.toToken frame.position s.current.reverse true :: frame.before⟩
      else ⟨s.frames, .leaf x.1 (.fault (.unmatched b)) :: s.current⟩
    | [] => ⟨[], .leaf x.1 (.fault (.unmatched b)) :: s.current⟩

def tokens (s : Nest) : List Token := Nesting.finish s.frames s.current

theorem run_eq (s : Nest) (xs : List (Position × Lexeme)) :
    Nesting.run s.frames s.current xs = (xs.foldl step s).tokens := by
  induction xs generalizing s with
  | nil => rw [Nesting.run]; rfl
  | cons x xs ih =>
    obtain ⟨p, x⟩ := x
    rw [List.foldl_cons, ← ih]
    cases x with
    | leaf l | opening b | functionHead n => rfl
    | closing b =>
      obtain ⟨frames, current⟩ := s
      cases frames with
      | nil => rfl
      | cons frame outer =>
        simp only [Nesting.run, step]
        split <;> rfl

/-- Tokens below all lists that are open. -/
def underlay (pre : List Token) : List Frame → List Frame
  | [] => []
  | [f] => [{ f with before := f.before ++ pre }]
  | f :: rest => f :: underlay pre rest

/-- The same standing with tokens before all that were read. -/
def atop (pre : List Token) (s : Nest) : Nest :=
  ⟨underlay pre s.frames, if s.frames.isEmpty then s.current ++ pre else s.current⟩

theorem step_atop (pre : List Token) (s : Nest) (x : Position × Lexeme) :
    (s.atop pre).step x = (s.step x).atop pre := by
  obtain ⟨frames, current⟩ := s
  obtain ⟨p, x⟩ := x
  cases x with
  | leaf l => cases frames <;> rfl
  | opening b | functionHead n => cases frames <;> rfl
  | closing b =>
    rcases frames with _ | ⟨f, _ | ⟨g, rest⟩⟩
    · rfl
    · simp only [step, atop, underlay]
      split <;> rfl
    · simp only [step, atop, underlay]
      split <;> rfl

theorem tokens_atop (pre : List Token) (s : Nest) :
    (s.atop pre).tokens = pre.reverse ++ s.tokens := by
  obtain ⟨frames, current⟩ := s
  induction frames generalizing current with
  | nil => exact List.reverse_append
  | cons f rest ih =>
    cases rest with
    | nil =>
      have := ih (f.head.toToken f.position current.reverse false :: f.before)
      exact this
    | cons g rest => exact ih (f.head.toToken f.position current.reverse false :: f.before)

/-- What is read behind tokens of which no list is open. -/
theorem tokens_foldl (current : List Token) (xs : List (Position × Lexeme)) :
    (xs.foldl step ⟨[], current⟩).tokens = current.reverse ++ (xs.foldl step ⟨[], []⟩).tokens := by
  rw [← tokens_atop, ← List.foldl_hom (atop current) (fun s x => step_atop current s x)]
  rfl

/-- A list that is still open at the end gives a token with no closing bracket. -/
theorem frames_of_closed {s : Nest} (h : s.tokens.all Token.isClosed = true) : s.frames = [] := by
  have unclosed : ∀ (frames : List Frame) (current : List Token),
      current.all Token.isClosed = false →
        (Nesting.finish frames current).all Token.isClosed = false := by
    intro frames
    induction frames with
    | nil => exact fun current h => by rw [Nesting.finish, List.all_reverse, h]
    | cons f rest ih =>
      intro current _
      exact ih _ (by rw [List.all_cons]; cases f.head <;> rfl)
  obtain ⟨frames, current⟩ := s
  cases frames with
  | nil => rfl
  | cons f rest =>
    have hopen := unclosed rest (f.head.toToken f.position current.reverse false :: f.before)
      (by rw [List.all_cons]; cases f.head <;> rfl)
    exact absurd (h.symm.trans hopen) (by decide)

end Nest

/-! ## Reading -/

def Token.isAtKeyword : Token → Bool
  | .leaf _ (.atKeyword _) => true
  | _ => false

section

variable {t : Token}

theorem Token.isCurly_eq_false
    (h : ∀ p content closed, t = .block p .curly content closed → False) : t.isCurly = false := by
  cases t with
  | block p b content closed =>
    cases b with
    | curly => exact (h _ _ _ rfl).elim
    | paren | square => rfl
  | leaf | function => rfl

theorem Token.isAtKeyword_eq_false (h : ∀ p keyword, t = .leaf p (.atKeyword keyword) → False) :
    t.isAtKeyword = false := by
  cases t with
  | leaf p l =>
    cases l with
    | atKeyword keyword => exact (h _ _ rfl).elim
    | _ => rfl
  | block | function => rfl

end

theorem Token.isClosed_unplaced (t : Token) : t.unplaced.isClosed = t.isClosed := by
  cases t <;> rfl

theorem Token.isCurly_unplaced (t : Token) : t.unplaced.isCurly = t.isCurly := by
  rcases t with _ | ⟨p, b, content, closed⟩ | _
  · rfl
  · cases b <;> rfl
  · rfl

theorem Token.isAtKeyword_unplaced (t : Token) : t.unplaced.isAtKeyword = t.isAtKeyword := by
  rcases t with ⟨p, l⟩ | _ | _
  · cases l <;> rfl
  · rfl
  · rfl

namespace Reading

/-- What the top level of a text is in the middle of. -/
inductive Stage where
  | between
  | rule
  | atRule
deriving DecidableEq

def Pending.stage : Pending → Stage
  | .nothing => .between
  | .rule .. => .rule
  | .atRule .. => .atRule

def Stage.next (stage : Stage) (t : Token) : Stage :=
  if t.isCurly then .between
  else
    match stage with
    | .between =>
      if t.isBlank || (t.isLiteral "<!--" || t.isLiteral "-->") then .between
      else if t.isAtKeyword then .atRule
      else .rule
    | .rule => .rule
    | .atRule => if t.isLiteral ";" then .between else .atRule

theorem Stage.next_unplaced (stage : Stage) (t : Token) :
    stage.next t.unplaced = stage.next t := by
  simp only [next, Token.isCurly_unplaced, Token.isBlank_unplaced, Token.isLiteral_unplaced,
    Token.isAtKeyword_unplaced]

theorem map_append_cons {e us : Except SyntaxError (List Node)} (n : Node) :
    (e.bind fun a => us.map (a ++ ·)).map (n :: ·) =
      (e.map (n :: ·)).bind fun a => us.map (a ++ ·) := by
  cases e with
  | error _ => rfl
  | ok a => cases us <;> rfl

/-- Tokens behind those that leave nothing pending are read for themselves. -/
theorem nodes_append (top : Bool) (pending : Pending) (ts us : List Token) (htop : top = true)
    (h : ts.foldl Stage.next pending.stage = .between) :
    nodes top pending (ts ++ us) =
      (nodes top pending ts).bind fun before => (nodes top .nothing us).map (before ++ ·) := by
  fun_induction nodes top pending ts with
  | case1 =>
    rw [List.nil_append]
    cases nodes _ .nothing us <;> rfl
  | case2 => cases h
  | case3 top keyword before => cases h
  | case4 => rw [List.cons_append, nodes]; rfl
  | case5 top p content closed rest q last before ih =>
    rw [List.cons_append, nodes, ih htop h, map_append_cons]
  | case6 top p content closed rest keyword before ihc ih =>
    rw [List.cons_append, nodes, ih htop h, map_append_cons]
  | case7 top rest p text _ ih | case8 top rest p text _ ih =>
    rw [List.cons_append, nodes, ih htop h, map_append_cons]
  | case9 top rest p keyword _ ih =>
    rw [List.cons_append, nodes, ih htop h]
  | case10 top rest t hspace hcomment hat hmark hblock ih =>
    have hnext : Stage.next .between t = .between := by
      have hmarks := (Bool.and_eq_true _ _ ▸ hmark).2
      simp [Stage.next, Token.isCurly_eq_false hblock, Token.isBlank_eq_false hspace hcomment,
        -Bool.or_eq_true, hmarks]
    rw [List.foldl_cons, Pending.stage, hnext] at h
    rw [List.cons_append, nodes, if_pos hmark, ih htop h] <;> assumption
  | case11 top rest t hspace hcomment hat hmark hblock ih =>
    have hnext : Stage.next .between t = .rule := by
      rw [htop, Bool.true_and, Bool.not_eq_true] at hmark
      simp [Stage.next, Token.isCurly_eq_false hblock, Token.isBlank_eq_false hspace hcomment,
        Token.isAtKeyword_eq_false hat, -Bool.or_eq_true, hmark]
    rw [List.foldl_cons, Pending.stage, hnext] at h
    rw [List.cons_append, nodes, if_neg hmark, ih htop h] <;> assumption
  | case12 top p last before t rest hblock ih =>
    have hnext : Stage.next .rule t = .rule := by
      simp [Stage.next, Token.isCurly_eq_false hblock]
    rw [List.foldl_cons, Pending.stage, hnext] at h
    rw [List.cons_append, nodes, ih htop h]
    exact hblock
  | case13 top keyword before t rest hblock hend ih =>
    have hnext : Stage.next .atRule t = .between := by
      simp [Stage.next, Token.isCurly_eq_false hblock, hend]
    rw [List.foldl_cons, Pending.stage, hnext] at h
    rw [List.cons_append, nodes, if_pos hend, ih htop h, map_append_cons]
    exact hblock
  | case14 top keyword before t rest hblock hend ih =>
    have hnext : Stage.next .atRule t = .atRule := by
      simp [Stage.next, Token.isCurly_eq_false hblock, hend]
    rw [List.foldl_cons, Pending.stage, hnext] at h
    rw [List.cons_append, nodes, if_neg hend, ih htop h]
    exact hblock

end Reading

/-! ## Trees of lexemes -/

open Lexer (bare Gap)

/-- Where nesting stands behind some lexemes. -/
def nestOf (xs : List Lexeme) : Nest :=
  (xs.map fun x => (Position.start, x)).foldl Nest.step ⟨[], []⟩

/-- The tokens of some lexemes. -/
def tokensOf (xs : List Lexeme) : List Token := (nestOf xs).tokens

/-- The nodes of some lexemes, if they can be read. -/
def nodesOf (xs : List Lexeme) : Option (List Node) :=
  (Reading.nodes true .nothing (tokensOf xs)).toOption

/-- Lexemes that leave no list open and nothing pending. -/
structure Settled (xs : List Lexeme) : Prop where
  frames : (nestOf xs).frames = []
  stage : (tokensOf xs).foldl Reading.Stage.next .between = .between

theorem tokensOf_append {xs : List Lexeme} (h : (nestOf xs).frames = []) (ys : List Lexeme) :
    tokensOf (xs ++ ys) = tokensOf xs ++ tokensOf ys := by
  rw [tokensOf, tokensOf, tokensOf, nestOf, List.map_append, List.foldl_append, ← nestOf]
  generalize nestOf xs = s at h
  obtain ⟨frames, current⟩ := s
  obtain rfl : frames = [] := h
  exact Nest.tokens_foldl current _

theorem nodesOf_append {xs : List Lexeme} (h : Settled xs) (ys : List Lexeme) :
    nodesOf (xs ++ ys) = (nodesOf xs).bind fun before => (nodesOf ys).map (before ++ ·) := by
  rw [nodesOf, tokensOf_append h.frames, Reading.nodes_append true .nothing _ _ rfl h.stage,
    nodesOf, nodesOf]
  cases Reading.nodes true .nothing (tokensOf xs) with
  | error e => rfl
  | ok before => cases Reading.nodes true .nothing (tokensOf ys) <;> rfl

theorem Settled.gap {gap : List Lexeme} (h : Gap gap) : Settled gap := by
  rcases h with rfl | ⟨w, rfl⟩ <;> exact ⟨rfl, rfl⟩

theorem Settled.of_gap {xs gap : List Lexeme} (hg : Gap gap) (h : Settled (xs ++ gap)) :
    Settled xs := by
  rcases hg with rfl | ⟨w, rfl⟩
  · rwa [List.append_nil] at h
  · have hframes : (nestOf xs).frames = [] := by
      have := h.frames
      rw [nestOf, List.map_append, List.foldl_append] at this
      exact this
    refine ⟨hframes, ?_⟩
    have := h.stage
    rw [tokensOf_append hframes, List.foldl_append] at this
    revert this
    generalize (tokensOf xs).foldl Reading.Stage.next .between = stage
    cases stage <;> exact fun h => by first | rfl | cases h

/-- Only white space, comments, marks, semicolons and closing brackets stand last where nothing is
pending. -/
theorem Settled.isLast {xs : List Lexeme} (h : Settled xs) :
    ∀ x ∈ xs.getLast?, Lexer.isLast x = true := by
  intro x hx
  obtain ⟨ys, rfl⟩ := List.getLast?_eq_some_iff.1 hx
  have hframes := h.frames
  rw [nestOf, List.map_append, List.foldl_append] at hframes
  cases x with
  | closing b => rfl
  | opening b | functionHead name => cases hframes
  | leaf l =>
    have hys : (nestOf ys).frames = [] := hframes
    have hstage := h.stage
    rw [tokensOf_append hys, List.foldl_append] at hstage
    revert hstage
    generalize (tokensOf ys).foldl Reading.Stage.next .between = stage
    intro hstage
    cases l with
    | whitespace | comment => rfl
    | literal text =>
      have hnext : stage.next (.leaf .start (.literal text)) = .between := hstage
      cases stage <;>
        simp [Reading.Stage.next, Token.isCurly, Token.isBlank, Token.isLiteral,
          Token.isAtKeyword] at hnext
      · rcases Decidable.or_iff_not_imp_left.2 hnext with rfl | rfl <;> rfl
      · rw [hnext]
        rfl
    | _ => cases stage <;> cases hstage

theorem tokenize_bare {css : List Char} {ts : List Token} (h : tokenize css = .ok ts) :
    ∃ xs, bare (normalize css) = .ok xs ∧ unplacedTokens ts = tokensOf xs := by
  obtain ⟨xs, hxs, rfl⟩ := tokenize_inv h
  refine ⟨xs.map (·.2), ?_, ?_⟩
  · rw [bare, ← lexemes, hxs]
    rfl
  · rw [Nesting.run_unplaced, tokensOf, nestOf, ← Nest.run_eq, List.map_map]
    rfl

theorem bare_tokenize {css : List Char} {xs : List Lexeme} (h : bare (normalize css) = .ok xs) :
    ∃ ts, tokenize css = .ok ts ∧ unplacedTokens ts = tokensOf xs := by
  cases hts : tokenize css with
  | ok ts =>
    obtain ⟨xs', hxs', heq⟩ := tokenize_bare hts
    obtain rfl := Except.ok.inj (h.symm.trans hxs')
    exact ⟨ts, rfl, heq⟩
  | error e =>
    rw [tokenize] at hts
    rw [bare, ← lexemes] at h
    cases hx : lexemes css with
    | error e => rw [hx] at h; cases h
    | ok xs => rw [hx] at hts; cases hts

theorem nodesOf_eq {ts : List Token} {xs : List Lexeme} (h : unplacedTokens ts = tokensOf xs) :
    nodesOf xs = (Reading.nodes true .nothing ts).toOption.map unplacedNodes := by
  rw [nodesOf, ← h]
  exact Reading.nodes_unplaced true .nothing ts

/-- A style sheet is read from the nodes of its lexemes. -/
theorem nodesOf_read {css : List Char} {s : Sheet} (h : read css = .ok s) :
    ∃ xs, bare (normalize css) = .ok xs ∧ nodesOf xs = some (unplacedNodes s) := by
  obtain ⟨-, ts, hts, hn⟩ := read_inv h
  obtain ⟨xs, hxs, heq⟩ := tokenize_bare hts
  exact ⟨xs, hxs, by rw [nodesOf_eq heq, hn]; rfl⟩

/-- A text whose brackets pair up and whose lexemes can be read as nodes is a style sheet. -/
theorem read_of_nodesOf {css : List Char} {xs : List Lexeme} {nodes : List Node}
    (hb : (checkBalance css).isOk = true) (h : bare (normalize css) = .ok xs)
    (hn : nodesOf xs = some nodes) : ∃ s, read css = .ok s ∧ unplacedNodes s = nodes := by
  obtain ⟨ts, hts, heq⟩ := bare_tokenize h
  rw [nodesOf_eq heq] at hn
  obtain ⟨s, hs, rfl⟩ := Option.map_eq_some_iff.1 hn
  refine ⟨s, ?_, rfl⟩
  rw [read]
  cases hc : checkBalance css with
  | error e => rw [hc] at hb; cases hb
  | ok =>
    simp only [hts]
    cases hr : Reading.nodes true .nothing ts with
    | error e => rw [hr] at hs; cases hs
    | ok s' =>
      rw [hr] at hs
      rw [Option.some.inj hs]
      rfl

/-! ## Two texts -/

theorem normalize_append {cs : List Char} (h : '\r' ∉ cs) (more : List Char) :
    normalize (cs ++ '\n' :: more) = normalize cs ++ '\n' :: normalize more := by
  induction cs with
  | nil => exact normalize_cons fun _ h => absurd h (by decide)
  | cons c cs ih =>
    obtain ⟨hc, hcs⟩ := not_or.1 (mt List.mem_cons.2 h)
    rw [List.cons_append, normalize_cons fun _ h => absurd h.symm hc, ih hcs,
      normalize_cons fun _ h => absurd h.symm hc, List.cons_append]

/-- Nothing is left open at the end of a text: an opening bracket on the next line is noticed,
comments and blocks are ended, and so is the last rule or at-rule. -/
structure EndsWhole (css : List Char) : Prop where
  noticed : (checkBalance (css ++ ['\n', '\x7b'])).isOk = false
  comments : ∀ piece ∈ Lexer.pieces (normalize css), Lexer.isEnded piece.1 piece.2 = true
  blocks : ∀ ts, tokenize css = .ok ts → ts.all Token.isClosed = true
  rules : ∀ ts, tokenize css = .ok ts → ts.foldl Reading.Stage.next .between = .between

/-- The test whether a text ends whole. -/
def endsWhole (css : List Char) : Bool :=
  !(checkBalance (css ++ ['\n', '\x7b'])).isOk &&
    (Lexer.pieces (normalize css)).all (fun piece => Lexer.isEnded piece.1 piece.2) &&
    (tokenize css).toOption.all fun ts =>
      ts.all Token.isClosed && ts.foldl Reading.Stage.next .between == .between

theorem endsWhole_iff {css : List Char} : endsWhole css = true ↔ EndsWhole css := by
  simp only [endsWhole, Bool.and_eq_true, Bool.not_eq_true', List.all_eq_true]
  cases htokens : tokenize css with
  | error e =>
    have hnone : ∀ ts, tokenize css ≠ .ok ts := fun ts h => by rw [htokens] at h; cases h
    constructor
    · rintro ⟨⟨hnoticed, hcomments⟩, -⟩
      exact ⟨hnoticed, hcomments, fun ts h => absurd h (hnone ts), fun ts h => absurd h (hnone ts)⟩
    · exact fun h => ⟨⟨h.noticed, h.comments⟩, rfl⟩
  | ok ts =>
    have hsome : (Except.ok ts : Except IntegerTooLong (List Token)).toOption = some ts := rfl
    rw [hsome, Option.all_some, Bool.and_eq_true, beq_iff_eq]
    constructor
    · rintro ⟨⟨hnoticed, hcomments⟩, hblocks, hrules⟩
      refine ⟨hnoticed, hcomments, fun us h => ?_, fun us h => ?_⟩ <;>
        obtain rfl := Except.ok.inj (htokens.symm.trans h)
      · exact hblocks
      · exact hrules
    · exact fun h => ⟨⟨h.noticed, h.comments⟩, h.blocks ts htokens, h.rules ts htokens⟩

instance (css : List Char) : Decidable (EndsWhole css) := decidable_of_iff _ endsWhole_iff

theorem EndsWhole.settled {css : List Char} (h : EndsWhole css) {xs : List Lexeme}
    (hxs : bare (normalize css) = .ok xs) : Settled xs := by
  obtain ⟨ts, hts, heq⟩ := bare_tokenize hxs
  constructor
  · refine Nest.frames_of_closed ?_
    rw [← tokensOf, ← heq, all_unplaced Token.isClosed_unplaced]
    exact h.blocks ts hts
  · rw [← heq, unplacedTokens_eq, List.foldl_map]
    simp only [Reading.Stage.next_unplaced]
    exact h.rules ts hts

theorem spaceless_gap {gap : List Lexeme} (h : Gap gap) :
    ∃ nodes, nodesOf gap = some nodes ∧ Sheet.spaceless nodes = [] := by
  rcases h with rfl | ⟨w, rfl⟩
  · refine ⟨[], ?_, rfl⟩
    rw [nodesOf, show tokensOf [] = [] from rfl, Reading.nodes]
    rfl
  · refine ⟨[.whitespace w], ?_, rfl⟩
    rw [nodesOf, show tokensOf [.leaf (.whitespace w)] = [.leaf .start (.whitespace w)] from rfl,
      Reading.nodes, Reading.nodes]
    rfl

theorem read_nil : read [] = .ok [] := by
  have hts : tokenize [] = .ok [] := by
    rw [tokenize, lexemes, normalize, Lexer.lexemesFrom]
    rfl
  rw [read, show checkBalance [] = .ok () from rfl, hts]
  simp only [Reading.nodes]
  rfl

/-- Two texts that are read are read as one, the second on a line of its own, if the first ends
whole: but for white space, the tree is the one tree and then the other. -/
theorem read_append {a b : List Char} {s t : Sheet} (ha : read a = .ok s) (hb : read b = .ok t)
    (hend : EndsWhole a) (hline : '\r' ∉ a) :
    ∃ u, read (a ++ '\n' :: b) = .ok u ∧
      u.unplaced.spaceless = s.unplaced.spaceless ++ t.unplaced.spaceless := by
  obtain ⟨xs, hxs, hs⟩ := nodesOf_read ha
  obtain ⟨ys, hys, ht⟩ := nodesOf_read hb
  have hsettled := hend.settled hxs
  obtain ⟨xs', ys', w, before, after, hbefore, hafter, rfl, rfl, hjoined⟩ :=
    Lexer.bare_append hxs hys hend.comments hsettled.isLast
  have hgap : Gap [.leaf (.whitespace w)] := .inr ⟨w, rfl⟩
  obtain ⟨n₁, hn₁, hs₁⟩ := spaceless_gap hbefore
  obtain ⟨n₂, hn₂, hs₂⟩ := spaceless_gap hgap
  obtain ⟨n₃, hn₃, hs₃⟩ := spaceless_gap hafter
  rw [nodesOf_append (hsettled.of_gap hbefore), hn₁] at hs
  obtain ⟨m₁, hm₁, hs⟩ := Option.bind_eq_some_iff.1 hs
  have hs : m₁ ++ n₁ = s.unplaced := Option.some.inj hs
  rw [nodesOf_append (.gap hafter), hn₃, Option.bind_some] at ht
  obtain ⟨m₃, hm₃, ht⟩ := Option.map_eq_some_iff.1 ht
  have ht : n₃ ++ m₃ = t.unplaced := ht
  have hnodes : nodesOf (xs' ++ .leaf (.whitespace w) :: ys') = some (m₁ ++ (n₂ ++ m₃)) := by
    rw [nodesOf_append (hsettled.of_gap hbefore), hm₁, ← List.singleton_append,
      nodesOf_append (.gap hgap), hn₂, hm₃]
    rfl
  have hbalance : (checkBalance (a ++ '\n' :: b)).isOk = true := by
    rw [Balance.checkBalance_append (read_inv ha).1 hend.noticed, (read_inv hb).1]
    rfl
  rw [← normalize_append hline] at hjoined
  obtain ⟨u, hu, hunplaced⟩ := read_of_nodesOf hbalance hjoined hnodes
  refine ⟨u, hu, ?_⟩
  have hu : u.unplaced = m₁ ++ (n₂ ++ m₃) := hunplaced
  rw [Sheet.spaceless] at hs₁ hs₂ hs₃
  rw [hu, ← hs, ← ht]
  simp only [Sheet.spaceless, sifted_append, hs₁, hs₂, hs₃, List.append_nil, List.nil_append]

end StylePrune.Css
