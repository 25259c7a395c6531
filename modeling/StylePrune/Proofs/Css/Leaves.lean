import StylePrune.Css.Selector
import StylePrune.Proofs.Css.Occurs

/-!
# Where the leaves of a selector come from

The tokens of a style sheet hold the leaves that the lexer gave, and faults for closing brackets
that close nothing. `Nesting.throughout_run` carries a property of leaves over nesting and
`Reading.selectors_nodes` over the reading of nodes; `selectors_read` puts them together. Of the last
leaf `endsBroken` says whether it is a string that the end of the text broke off.
-/

namespace StylePrune.Css

mutual

def Token.leaves : Token → List Leaf
  | .leaf _ l => [l]
  | .block _ _ content _ => leavesOf content
  | .function _ _ arguments _ => leavesOf arguments

/-- The leaves of some tokens, at every depth. -/
def leavesOf : List Token → List Leaf
  | [] => []
  | t :: rest => t.leaves ++ leavesOf rest

end

theorem mem_leavesOf {l : Leaf} {ts : List Token} : l ∈ leavesOf ts ↔ ∃ t ∈ ts, l ∈ t.leaves := by
  induction ts with
  | nil => simp [leavesOf]
  | cons t rest ih => rw [leavesOf, List.mem_append, ih]; simp

/-! ## Broken strings at the end -/

mutual

def Token.endsBroken : Token → Bool
  | .leaf _ l => l = .fault .eofInString
  | .block .. => false
  | .function _ _ arguments _ => endsBroken arguments

/-- Whether a string broken off by the end of the text ends some tokens. This is
`Serialize.endInBrokenString`, by recursion over the tokens and the arguments in them. -/
def endsBroken : List Token → Bool
  | [] => false
  | t :: rest => if rest.isEmpty then t.endsBroken else endsBroken rest

end

mutual

theorem Token.endInBrokenString_singleton : ∀ t : Token,
    Serialize.endInBrokenString [t] = t.endsBroken
  | .leaf _ l => by
    by_cases hl : l = .fault .eofInString
    · rw [hl, Serialize.endInBrokenString]
      rfl
    · rw [Token.endsBroken, decide_eq_false hl, Serialize.endInBrokenString,
        Serialize.endInBrokenString]
      · rintro _ ht -
        exact hl (Token.leaf.inj ht).2
      · rintro _ _ _ _ ht -
        cases ht
  | .block .. => by
    rw [Serialize.endInBrokenString, Serialize.endInBrokenString, Token.endsBroken]
    · rintro _ ht -
      cases ht
    · rintro _ _ _ _ ht -
      cases ht
  | .function _ _ arguments _ => by
    rw [Serialize.endInBrokenString, endInBrokenString_eq arguments, Token.endsBroken]

theorem endInBrokenString_eq : ∀ ts : List Token, Serialize.endInBrokenString ts = endsBroken ts
  | [] => by rw [Serialize.endInBrokenString, endsBroken]
  | [t] => Token.endInBrokenString_singleton t
  | t :: u :: rest => by
    have hrest := endInBrokenString_eq (u :: rest)
    rw [Serialize.endInBrokenString, hrest]
    · rfl
    · rintro _ - hnil
      cases hnil
    · rintro _ _ _ _ - hnil
      cases hnil

end

/-! ## Properties of leaves -/

/-- A property of leaves holds of every leaf in some tokens. -/
def Throughout (P : Leaf → Prop) (ts : List Token) : Prop := ∀ l ∈ leavesOf ts, P l

section Throughout

variable {P : Leaf → Prop}

theorem throughout_nil : Throughout P [] := by simp [Throughout, leavesOf]

theorem throughout_cons {t : Token} {ts : List Token} :
    Throughout P (t :: ts) ↔ (∀ l ∈ t.leaves, P l) ∧ Throughout P ts := by
  simp only [Throughout, leavesOf, List.mem_append, or_imp, forall_and]

theorem throughout_iff {ts : List Token} : Throughout P ts ↔ ∀ t ∈ ts, ∀ l ∈ t.leaves, P l := by
  simp only [Throughout, mem_leavesOf]
  exact ⟨fun h t ht l hl => h l ⟨t, ht, hl⟩, fun h l ⟨t, ht, hl⟩ => h t ht l hl⟩

theorem throughout_reverse {ts : List Token} : Throughout P ts.reverse ↔ Throughout P ts := by
  simp [throughout_iff]

theorem throughout_leaf {p : Position} {l : Leaf} {ts : List Token} (hl : P l)
    (h : Throughout P ts) : Throughout P (.leaf p l :: ts) :=
  throughout_cons.2 ⟨by simpa [Token.leaves] using hl, h⟩

theorem throughout_head {head : Head} {p : Position} {content ts : List Token} {closed : Bool}
    (hc : Throughout P content) (h : Throughout P ts) :
    Throughout P (head.toToken p content closed :: ts) :=
  throughout_cons.2 ⟨by cases head <;> exact hc, h⟩

/-! ## Nesting -/

theorem Nesting.throughout_finish : ∀ (frames : List Frame) (current : List Token),
    (∀ f ∈ frames, Throughout P f.before) → Throughout P current →
      Throughout P (Nesting.finish frames current)
  | [], _, _, h => throughout_reverse.2 h
  | frame :: frames, _, hf, h => by
    obtain ⟨hframe, hrest⟩ := List.forall_mem_cons.1 hf
    exact throughout_finish frames _ hrest (throughout_head (throughout_reverse.2 h) hframe)

/-- Nesting adds no leaf but those that mark a closing bracket with nothing to close. -/
theorem Nesting.throughout_run (hu : ∀ b, P (.fault (.unmatched b))) :
    ∀ (lexemes : List (Position × Lexeme)) (frames : List Frame) (current : List Token),
      (∀ x ∈ lexemes, ∀ l, x.2 = .leaf l → P l) → (∀ f ∈ frames, Throughout P f.before) →
      Throughout P current → Throughout P (Nesting.run frames current lexemes)
  | [], frames, current, _, hf, hc => by
    rw [Nesting.run]
    exact throughout_finish frames current hf hc
  | (p, lexeme) :: rest, frames, current, hl, hf, hc => by
    obtain ⟨hx, hrest⟩ := List.forall_mem_cons.1 hl
    have ih := fun frames current => throughout_run hu rest frames current hrest
    have opened : ∀ head, ∀ f ∈ (⟨p, head, current⟩ : Frame) :: frames, Throughout P f.before :=
      fun _ => List.forall_mem_cons.2 ⟨hc, hf⟩
    cases lexeme with
    | leaf l => exact ih _ _ hf (throughout_leaf (hx l rfl) hc)
    | opening b => exact ih _ _ (opened _) throughout_nil
    | functionHead name => exact ih _ _ (opened _) throughout_nil
    | closing b =>
      cases frames with
      | nil => exact ih _ _ hf (throughout_leaf (hu b) hc)
      | cons frame outer =>
        obtain ⟨hframe, houter⟩ := List.forall_mem_cons.1 hf
        rw [Nesting.run]
        split
        · exact ih _ _ houter (throughout_head (throughout_reverse.2 hc) hframe)
        · exact ih _ _ hf (throughout_leaf (hu b) hc)

/-! ## Reading nodes -/

theorem Token.isBlank_eq_false {t : Token}
    (hspace : ∀ p text, t = .leaf p (.whitespace text) → False)
    (hcomment : ∀ p text, t = .leaf p (.comment text) → False) : t.isBlank = false := by
  cases t with
  | leaf p l =>
    cases l with
    | whitespace text => exact (hspace _ _ rfl).elim
    | comment text => exact (hcomment _ _ rfl).elim
    | _ => rfl
  | block | function => rfl

theorem Token.eq_of_isLiteral {t : Token} {text : String} (h : t.isLiteral text = true) :
    ∃ p, t = .leaf p (.literal text.toList) := by
  cases t with
  | leaf p l =>
    cases l with
    | literal cs => exact ⟨p, by rw [of_decide_eq_true h]⟩
    | _ => cases h
  | block | function => cases h

/-- The tokens of a rule that is being read. -/
def Reading.Pending.tokens : Reading.Pending → List Token
  | .nothing => []
  | .rule _ _ before => before
  | .atRule _ before => before

/-- Every rule in some nodes has its selector from leaves with a property. -/
def Selectors (P : Leaf → Prop) (nodes : List Node) : Prop :=
  ∀ above, ∀ x ∈ placedFrom above nodes, Throughout P x.2.selector

theorem selectors_nil : Selectors P [] := fun _ _ h => by cases h

theorem selectors_cons {n : Node} {nodes : List Node} (hn : Selectors P [n])
    (h : Selectors P nodes) : Selectors P (n :: nodes) := fun above x hx => by
  rw [placedFrom, List.mem_append] at hx
  exact hx.elim (fun hx => hn above x (by simpa [placedFrom] using hx)) (h above x)

theorem selectors_none {n : Node} (h : ∀ above, n.placed above = []) : Selectors P [n] :=
  fun above x hx => by simp [placedFrom, h above] at hx

theorem selectors_rule {r : Rule} (h : Throughout P r.selector) : Selectors P [.rule r] :=
  fun above x hx => by
    simp only [placedFrom, Node.placed, List.append_nil, List.mem_singleton] at hx
    rw [hx]; exact h

theorem selectors_block {k : Text} {pre : List Token} {nodes : List Node} (h : Selectors P nodes) :
    Selectors P [.ruleBlock k pre nodes] := fun above x hx => by
  simp only [placedFrom, Node.placed, List.append_nil] at hx
  exact h _ x hx

/-- A node followed by those of a reading. -/
theorem selectors_map_cons {n : Node} {e : Except SyntaxError (List Node)} {ns : List Node}
    (hn : Selectors P [n]) (he : ∀ more, e = .ok more → Selectors P more)
    (h : e.map (n :: ·) = .ok ns) : Selectors P ns := by
  cases e with
  | error _ => cases h
  | ok more =>
    obtain rfl := Except.ok.inj h
    exact selectors_cons hn (he more rfl)

/-- What is known of a list of tokens that goes over to its ends and to the blocks in it, and tells
of what stands before a block that its leaves have a property. -/
structure Supplies (H : List Token → Prop) (P : Leaf → Prop) : Prop where
  tail : ∀ {t ts}, H (t :: ts) → H ts
  before : ∀ {before p content closed rest},
    H (before ++ .block p .curly content closed :: rest) → Throughout P before
  block : ∀ {p content closed rest}, H (.block p .curly content closed :: rest) → H content

theorem supplies_throughout : Supplies (Throughout P) P where
  tail h := (throughout_cons.1 h).2
  before h := throughout_iff.2 fun t ht =>
    throughout_iff.1 h t (List.mem_append_left _ ht)
  block h := (throughout_cons.1 h).1

theorem Supplies.behind {H : List Token → Prop} (hs : Supplies H P) : ∀ {before rest : List Token},
    H (before ++ rest) → H rest
  | [], _, h => h
  | _ :: _, _, h => hs.behind (hs.tail h)

/-- Reading makes every selector from tokens that stand before a block. -/
theorem Reading.selectors_nodes {H : List Token → Prop} (hs : Supplies H P) (top : Bool)
    (pending : Pending) (tokens : List Token) (ns : List Node)
    (h : Reading.nodes top pending tokens = .ok ns) (hp : H (pending.tokens.reverse ++ tokens)) :
    Selectors P ns := by
  fun_induction Reading.nodes top pending tokens generalizing ns with
  | case1 =>
    obtain rfl := Except.ok.inj h
    exact selectors_nil
  | case2 => cases h
  | case3 =>
    obtain rfl := Except.ok.inj h
    exact selectors_none fun _ => rfl
  | case4 => cases h
  | case5 top p content closed rest q last before ih =>
    refine selectors_map_cons (selectors_rule (hs.before hp)) (fun more hm => ?_) h
    exact ih more hm (hs.tail (hs.behind hp))
  | case6 top p content closed rest keyword before ihc ih =>
    have hblock := hs.behind hp
    refine selectors_map_cons ?_ (fun more hm => ih more hm (hs.tail hblock)) h
    split
    · exact selectors_none fun _ => rfl
    · split
      · exact selectors_block (ihc _ ‹_› (hs.block hblock))
      · exact selectors_none fun _ => rfl
  | case7 top rest p text _ ih | case8 top rest p text _ ih =>
    refine selectors_map_cons (selectors_none fun _ => rfl) (fun more hm => ?_) h
    exact ih more hm (hs.tail hp)
  | case9 top rest p keyword _ ih => exact ih ns h (hs.tail hp)
  | case10 top rest t _ _ _ _ _ ih => exact ih ns h (hs.tail hp)
  | case11 top rest t _ _ _ _ _ ih => exact ih ns h hp
  | case12 top p last before t rest _ ih =>
    refine ih ns h ?_
    rw [Pending.tokens, List.reverse_cons, List.append_assoc]
    exact hp
  | case13 top keyword before t rest _ _ ih =>
    refine selectors_map_cons (selectors_none fun _ => rfl) (fun more hm => ?_) h
    exact ih more hm (hs.tail (hs.behind hp))
  | case14 top keyword before t rest _ _ ih =>
    refine ih ns h ?_
    rw [Pending.tokens, List.reverse_cons, List.append_assoc]
    exact hp

theorem tokenize_inv {css : List Char} {ts : List Token} (h : tokenize css = .ok ts) :
    ∃ xs, lexemes css = .ok xs ∧ ts = Nesting.run [] [] xs := by
  rw [tokenize] at h
  cases hx : lexemes css with
  | error e => rw [hx] at h; cases h
  | ok xs =>
    rw [hx] at h
    exact ⟨xs, rfl, (Except.ok.inj h).symm⟩

/-- What a style sheet was read from. -/
theorem read_inv {css : List Char} {s : Sheet} (h : read css = .ok s) :
    checkBalance css = .ok () ∧
      ∃ ts, tokenize css = .ok ts ∧ Reading.nodes true .nothing ts = .ok s := by
  rw [read] at h
  split at h
  · cases h
  split at h
  · cases h
  · rename_i hb _ ts hts
    refine ⟨hb, ts, hts, ?_⟩
    cases hn : Reading.nodes true .nothing ts with
    | error e => rw [hn] at h; cases h
    | ok ns =>
      rw [hn] at h
      rw [Except.ok.inj h]

/-- A text of tokens is a style sheet or is refused for its syntax. -/
theorem read_ne_of_tokenize {css : List Char} {ts : List Token} (h : tokenize css = .ok ts)
    (digits : Nat) : read css ≠ .error (.integerTooLong digits) := by
  rw [read, h]
  cases checkBalance css with
  | error e => exact fun h => by cases h
  | ok _ =>
    dsimp only
    cases Reading.nodes true .nothing ts <;> exact fun h => by cases h

/-- Every selector of a style sheet is made of leaves that the lexer gave. -/
theorem selectors_read {css : List Char} {s : Sheet} (hu : ∀ b, P (.fault (.unmatched b)))
    (hl : ∀ xs, lexemes css = .ok xs → ∀ x ∈ xs, ∀ l, x.2 = .leaf l → P l)
    (h : read css = .ok s) : Selectors P s := by
  obtain ⟨-, ts, hts, hn⟩ := read_inv h
  obtain ⟨xs, hx, rfl⟩ := tokenize_inv hts
  refine Reading.selectors_nodes supplies_throughout true .nothing _ _ hn ?_
  exact Nesting.throughout_run hu xs [] [] (hl xs hx) (fun _ h => by cases h) throughout_nil

end Throughout

end StylePrune.Css
