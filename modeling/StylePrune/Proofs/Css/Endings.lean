import StylePrune.Proofs.Css.Comments
import StylePrune.Proofs.Css.Explicit

/-!
# What the end of a text breaks off

A string or an address without its end uses up the text (`exhausts_step`), so what the end of the
text breaks off comes last (`lexemesFrom_brokenLast`). Nesting keeps that, and what it closes itself
comes behind (`brokenLast_tokenize`): in the tokens of a text all that stands before an opening or a
written closing bracket is whole. So selectors are whole (`whole_selectors`), and no function is cut
off whose closing bracket is written (`nodesCut_of_isClear`).
-/

namespace StylePrune.Css

/-- Whether the end of the text did not break a leaf off. -/
def Leaf.isWhole : Leaf → Bool
  | .string _ ended | .url _ ended => ended
  | .fault .eofInString | .fault .eofInUrl => false
  | _ => true

def Lexeme.isWhole : Lexeme → Bool
  | leaf l => l.isWhole
  | _ => true

/-- Whether the end of the text did not break a part off or close it. -/
def Part.isWhole : Part → Bool
  | leaf _ l => l.isWhole
  | closing closed => closed
  | _ => true

/-- Nothing whole stands behind what is not. -/
def BrokenLast (whole : List Bool) : Prop := whole.Pairwise fun a b => b = true → a = true

/-! ## Lexemes -/

namespace Lexer

/-- Lexemes of which the last ones may be broken off: then they use up all `left` characters. -/
def Exhausts (out : List Lexeme) (used left : Nat) : Prop :=
  BrokenLast (out.map Lexeme.isWhole) ∧ (false ∈ out.map Lexeme.isWhole → left ≤ used)

theorem exhausts_whole {out : List Lexeme} {used left : Nat}
    (h : ∀ x ∈ out, x.isWhole = true) : Exhausts out used left := by
  have hall : ∀ whole ∈ out.map Lexeme.isWhole, whole = true := List.forall_mem_map.2 h
  refine ⟨List.pairwise_of_forall_mem_list fun a ha _ _ _ => hall a ha, fun hfalse => ?_⟩
  cases hall false hfalse

theorem exhausts_one {x : Lexeme} {n used left : Nat} {r : List Lexeme × Nat}
    (hx : x.isWhole = true) (h : one x n = .ok r) : Exhausts r.1 used left := by
  obtain rfl := Except.ok.inj h
  exact exhausts_whole fun y hy => by rwa [List.mem_singleton.1 hy]

theorem length_of_quoted_eof (q : Char) (cs : List Char) (h : (quoted q cs).2.1 = .eof) :
    cs.length ≤ (quoted q cs).2.2 := by
  fun_induction quoted q cs <;> simp_all

theorem length_of_urlTail_eof {cs : List Char} (h : (urlTail cs).1 = .eof) :
    cs.length ≤ (urlTail cs).2 := by
  have hsplit := congrArg List.length (List.takeWhile_append_dropWhile (p := isSpace) (l := cs))
  revert h
  fun_cases urlTail cs <;> simp_all [List.drop_eq_nil_iff]

theorem length_of_urlBody_eof (cs : List Char) (h : (urlBody cs).2.1 = .eof) :
    cs.length ≤ (urlBody cs).2.2 := by
  fun_induction urlBody cs with
  | case3 c rest _ _ stop n htail =>
    have hlength : rest.length ≤ (urlTail rest).2 := length_of_urlTail_eof (by rwa [htail])
    rw [htail] at hlength
    exact Nat.succ_le_succ hlength
  | _ => simp_all

theorem exhausts_url (cs : List Char) :
    Exhausts ((url cs).1.map .leaf) (url cs).2 cs.length := by
  have hlength := length_of_urlBody_eof (cs.drop (cs.takeWhile isSpace).length)
  fun_cases url cs with
  | case1 | case3 => exact exhausts_whole (by simp [Lexeme.isWhole, Leaf.isWhole])
  | case2 =>
    rename_i hbody
    rw [hbody] at hlength
    have hused := hlength rfl
    rw [List.length_drop] at hused
    exact ⟨by simp [BrokenLast, Lexeme.isWhole, Leaf.isWhole],
      fun _ => Nat.sub_le_iff_le_add'.1 hused⟩

theorem exhausts_identLike (cs : List Char) :
    Exhausts (identLike cs).1 (identLike cs).2 cs.length := by
  fun_cases identLike cs with
  | case2 value n _ rest _ _ c tail _ _ leaves k hurl | case3 value n _ rest _ _ _ leaves k hurl =>
    have hexhausts := exhausts_url rest
    rw [hurl] at hexhausts
    have hlength : cs.length - n = rest.length + 1 := by
      rw [← List.length_drop, ‹cs.drop n = _›, List.length_cons]
    refine hexhausts.imp_right fun h hbroken => ?_
    have hused := h hbroken
    simp only at hused ⊢
    omega
  | _ => exact exhausts_whole (by simp [Lexeme.isWhole, Leaf.isWhole])

theorem whole_numeric {cs : List Char} {n : Nat} {isInteger : Bool} {r : List Lexeme × Nat}
    (h : numeric cs n isInteger = .ok r) : ∀ x ∈ r.1, x.isWhole = true := by
  revert h
  fun_cases numeric cs n isInteger with
  | case1 => exact fun h => by cases h
  | _ =>
    intro h
    obtain rfl := Except.ok.inj h
    simp [Lexeme.isWhole, Leaf.isWhole]

theorem exhausts_string (q : Char) (rest : List Char) :
    Exhausts (stringLike q rest).1 (stringLike q rest).2 rest.length := by
  have hlength := length_of_quoted_eof q rest
  fun_cases stringLike q rest with
  | case1 | case2 => exact exhausts_whole (by simp [Lexeme.isWhole, Leaf.isWhole])
  | case3 value n hquoted =>
    rw [hquoted] at hlength
    exact ⟨by simp [BrokenLast, Lexeme.isWhole, Leaf.isWhole], fun _ => hlength rfl⟩

theorem exhausts_step {c : Char} {rest : List Char} {r : List Lexeme × Nat}
    (h : step c rest = .ok r) : Exhausts r.1 r.2 rest.length := by
  revert h
  fun_cases step c rest with
  | case4 =>
    rename_i hout
    intro h
    obtain rfl := Except.ok.inj h
    have hexhausts := exhausts_identLike (c :: rest)
    rw [hout] at hexhausts
    exact hexhausts.imp_right fun h hbroken => Nat.le_sub_one_of_lt (h hbroken)
  | case5 =>
    rename_i n isInteger _ _ _ _
    intro h
    cases hn : numeric (c :: rest) n isInteger with
    | error e => rw [hn] at h; cases h
    | ok r' =>
      rw [hn] at h
      obtain rfl := Except.ok.inj h
      exact (exhausts_whole (whole_numeric hn) : Exhausts r'.1 _ _)
  | case13 =>
    intro h
    obtain rfl := Except.ok.inj h
    exact exhausts_string c rest
  | _ => exact exhausts_one (by simp [Lexeme.isWhole, Leaf.isWhole])

/-- Lexemes that are broken off come last. -/
theorem lexemesFrom_brokenLast (p : Position) (cs : List Char) (xs : List (Position × Lexeme))
    (h : lexemesFrom p cs = .ok xs) : BrokenLast (xs.map fun x => x.2.isWhole) := by
  fun_induction lexemesFrom p cs generalizing xs with
  | case1 =>
    obtain rfl := Except.ok.inj h
    exact .nil
  | case2 | case3 => cases h
  | case4 p c rest out n hstep more hmore ih =>
    obtain rfl := Except.ok.inj h
    obtain ⟨hlast, hused⟩ : Exhausts out n rest.length := exhausts_step hstep
    rw [List.map_append, List.map_map, BrokenLast, List.pairwise_append]
    refine ⟨hlast, ih more hmore, fun a ha b hb _ => ?_⟩
    cases a with
    | true => rfl
    | false =>
      rw [List.drop_eq_nil_of_le (hused ha), lexemesFrom] at hmore
      rw [← Except.ok.inj hmore] at hb
      cases hb

end Lexer

/-! ## Nesting -/

/-- The parts of the lists that are open, outermost first, up to the innermost opening. -/
def openParts : List Frame → List Part
  | [] => []
  | f :: outer => openParts outer ++ tokenParts f.before.reverse ++ [.opening f.position f.head]

theorem tokenParts_append : ∀ xs ys : List Token,
    tokenParts (xs ++ ys) = tokenParts xs ++ tokenParts ys
  | [], _ => rfl
  | t :: xs, ys => by
    rw [List.cons_append, tokenParts, tokenParts_append xs, tokenParts, List.append_assoc]

theorem tokenParts_reverse_cons (t : Token) (before : List Token) :
    tokenParts (t :: before).reverse = tokenParts before.reverse ++ t.parts := by
  rw [List.reverse_cons, tokenParts_append, tokenParts, tokenParts, List.append_nil]

theorem parts_toToken (head : Head) (p : Position) (content : List Token) (closed : Bool) :
    (head.toToken p content closed).parts =
      .opening p head :: tokenParts content ++ [.closing closed] := by
  cases head <;> rfl

namespace Nesting

theorem tokenParts_finish : ∀ (frames : List Frame) (current : List Token),
    tokenParts (finish frames current) = openParts frames ++ tokenParts current.reverse ++
      List.replicate frames.length (.closing false)
  | [], current => by simp [finish, openParts]
  | f :: outer, current => by
    rw [finish, tokenParts_finish outer, tokenParts_reverse_cons, parts_toToken, openParts,
      List.length_cons, List.replicate_succ]
    simp only [List.append_assoc, List.cons_append, List.nil_append]

/-- Which of the parts that nesting has read are whole. -/
def wholeRead (frames : List Frame) (current : List Token) : List Bool :=
  (openParts frames ++ tokenParts current.reverse).map Part.isWhole

theorem wholeRead_cons (frames : List Frame) (t : Token) (current : List Token) :
    wholeRead frames (t :: current) = wholeRead frames current ++ t.parts.map Part.isWhole := by
  rw [wholeRead, tokenParts_reverse_cons, ← List.append_assoc, List.map_append, wholeRead]

theorem wholeRead_open (p : Position) (head : Head) (frames : List Frame) (current : List Token) :
    wholeRead (⟨p, head, current⟩ :: frames) [] = wholeRead frames current ++ [true] := by
  rw [wholeRead, openParts, List.reverse_nil, tokenParts, List.append_nil, List.map_append,
    wholeRead]
  rfl

theorem wholeRead_close (f : Frame) (outer : List Frame) (current : List Token) :
    wholeRead outer (f.head.toToken f.position current.reverse true :: f.before) =
      wholeRead (f :: outer) current ++ [true] := by
  rw [wholeRead_cons, parts_toToken, wholeRead, wholeRead, openParts]
  simp only [List.map_append, List.map_cons, List.append_assoc, List.cons_append, List.nil_append]
  rfl

/-- Nesting keeps what is whole in its order, and what it closes itself comes behind. -/
theorem whole_run : ∀ (xs : List (Position × Lexeme)) (frames : List Frame) (current : List Token),
    ∃ n, (tokenParts (run frames current xs)).map Part.isWhole =
      wholeRead frames current ++ xs.map (fun x => x.2.isWhole) ++ List.replicate n false
  | [], frames, current => by
    refine ⟨frames.length, ?_⟩
    rw [run, tokenParts_finish, List.map_append, List.map_replicate, List.map_nil, List.append_nil]
    rfl
  | (p, lexeme) :: rest, frames, current => by
    have advance : ∀ frames' current',
        wholeRead frames' current' = wholeRead frames current ++ [lexeme.isWhole] →
        ∃ n, (tokenParts (run frames' current' rest)).map Part.isWhole =
          wholeRead frames current ++ ((p, lexeme) :: rest).map (fun x => x.2.isWhole) ++
            List.replicate n false :=
      fun frames' current' hread => by
        obtain ⟨n, hn⟩ := whole_run rest frames' current'
        exact ⟨n, by rw [hn, hread, List.map_cons, List.append_assoc _ [_], List.singleton_append]⟩
    cases lexeme with
    | leaf l => exact advance _ _ (wholeRead_cons ..)
    | opening b | functionHead name => exact advance _ _ (wholeRead_open ..)
    | closing b =>
      cases frames with
      | nil => exact advance _ _ (wholeRead_cons ..)
      | cons f outer =>
        rw [run]
        split
        · exact advance _ _ (wholeRead_close ..)
        · exact advance _ _ (wholeRead_cons ..)

end Nesting

/-- In the tokens of a text what is broken off or not closed comes last. -/
theorem brokenLast_tokenize {css : List Char} {ts : List Token} (h : tokenize css = .ok ts) :
    BrokenLast ((tokenParts ts).map Part.isWhole) := by
  obtain ⟨xs, hxs, rfl⟩ := tokenize_inv h
  obtain ⟨n, hwhole⟩ := Nesting.whole_run xs [] []
  rw [hwhole, BrokenLast, List.pairwise_append]
  refine ⟨Lexer.lexemesFrom_brokenLast _ _ xs hxs, ?_, fun _ _ b hb h => ?_⟩
  · exact List.pairwise_replicate.2 (.inr id)
  · cases (List.eq_of_mem_replicate hb).symm.trans h

/-! ## Selectors -/

mutual

theorem Token.isWhole_of_mem_leaves {l : Leaf} : ∀ t : Token, l ∈ t.leaves →
    l.isWhole ∈ t.parts.map Part.isWhole
  | .leaf p l', h => by
    rw [List.mem_singleton.1 h]
    exact List.mem_singleton_self _
  | .block p b content closed, h | .function p name content closed, h => by
    have := isWhole_of_mem_leavesOf content h
    simp only [Token.parts, List.map_append, List.map_cons, List.mem_append, List.mem_cons]
    exact .inl (.inr this)

theorem isWhole_of_mem_leavesOf {l : Leaf} : ∀ ts : List Token, l ∈ leavesOf ts →
    l.isWhole ∈ (tokenParts ts).map Part.isWhole
  | t :: rest, h => by
    rw [leavesOf, List.mem_append] at h
    rw [tokenParts, List.map_append, List.mem_append]
    exact h.imp (Token.isWhole_of_mem_leaves t) (isWhole_of_mem_leavesOf rest)

end

mutual

theorem Token.endsBroken_eq_false : ∀ t : Token, (∀ l ∈ t.leaves, l.isWhole = true) →
    t.endsBroken = false
  | .leaf _ l, h => by
    refine decide_eq_false fun hl => ?_
    have hwhole := h l (List.mem_singleton_self l)
    rw [hl] at hwhole
    cases hwhole
  | .block .., _ => rfl
  | .function _ _ arguments _, h => endsBroken_eq_false arguments h

theorem endsBroken_eq_false : ∀ ts : List Token, (∀ l ∈ leavesOf ts, l.isWhole = true) →
    endsBroken ts = false
  | [], _ => rfl
  | t :: rest, h => by
    rw [endsBroken]
    split
    · exact Token.endsBroken_eq_false t fun l hl => h l (List.mem_append_left _ hl)
    · exact endsBroken_eq_false rest fun l hl => h l (List.mem_append_right _ hl)

end

/-- What stands in a block or function keeps that order, and it is whole if the closing bracket is
written. -/
theorem BrokenLast.content (head : Head) {p : Position} {content : List Token} {closed : Bool}
    (h : BrokenLast ((head.toToken p content closed).parts.map Part.isWhole)) :
    BrokenLast ((tokenParts content).map Part.isWhole) ∧
      (closed = true → ∀ l ∈ leavesOf content, l.isWhole = true) := by
  rw [parts_toToken, List.map_append, List.map_cons] at h
  obtain ⟨hopen, -, hclosing⟩ := List.pairwise_append.1 h
  refine ⟨(List.pairwise_cons.1 hopen).2, fun hclosed l hl => ?_⟩
  exact hclosing _ (List.mem_cons_of_mem _ (isWhole_of_mem_leavesOf content hl)) closed
    (List.mem_singleton_self _) hclosed

/-- Before a block of tokens nothing is broken off. -/
theorem supplies_brokenLast :
    Supplies (fun ts => BrokenLast ((tokenParts ts).map Part.isWhole))
      fun l => l.isWhole = true where
  tail h := by
    rw [tokenParts, List.map_append] at h
    exact (List.pairwise_append.1 h).2.1
  before {before p content closed rest} h l hl := by
    rw [tokenParts_append, List.map_append] at h
    exact (List.pairwise_append.1 h).2.2 _ (isWhole_of_mem_leavesOf before hl) true
      List.mem_cons_self rfl
  block h := by
    rw [tokenParts, List.map_append] at h
    exact (BrokenLast.content (.bracket .curly) (List.pairwise_append.1 h).1).1

/-- No string and no address in a selector is broken off by the end of the text. -/
theorem whole_selectors {css : List Char} {s : Sheet} (h : read css = .ok s) :
    Selectors (fun l => l.isWhole = true) s := by
  obtain ⟨-, ts, hts, hn⟩ := read_inv h
  exact Reading.selectors_nodes supplies_brokenLast true .nothing ts s hn (brokenLast_tokenize hts)

/-! ## Functions cut off -/

mutual

def Token.isCut : Token → Bool
  | .leaf .. => false
  | .block _ _ content _ => anyCut content
  | .function _ _ arguments _ => endsBroken arguments || anyCut arguments

/-- Whether at some depth the arguments of a function end in a string that the end of the text broke
off. -/
def anyCut : List Token → Bool
  | [] => false
  | t :: rest => t.isCut || anyCut rest

end

mutual

def Node.isCut : Node → Bool
  | .whitespace _ | .comment _ => false
  | .rule r => anyCut r.selector || anyCut r.content
  | .statement _ prelude => anyCut prelude
  | .rawBlock _ prelude content => anyCut prelude || anyCut content
  | .ruleBlock _ prelude nodes => anyCut prelude || nodesCut nodes

/-- Whether some function in a tree is cut off so. -/
def nodesCut : List Node → Bool
  | [] => false
  | n :: rest => n.isCut || nodesCut rest

end

mutual

theorem Token.isCut_eq_false : ∀ t : Token, BrokenLast (t.parts.map Part.isWhole) →
    t.isExplicit = true → t.isCut = false
  | .leaf .., _, _ => rfl
  | .block p b content closed, h, he => by
    rw [Token.isExplicit, Bool.and_eq_true] at he
    exact anyCut_eq_false content (BrokenLast.content (.bracket b) h).1 he.2
  | .function p name arguments closed, h, he => by
    rw [Token.isExplicit, Bool.and_eq_true] at he
    obtain ⟨hlast, hwhole⟩ := BrokenLast.content (.function name) h
    rw [Token.isCut, endsBroken_eq_false arguments (hwhole he.1),
      anyCut_eq_false arguments hlast he.2, Bool.or_false]

/-- No function is cut off whose closing bracket is written. -/
theorem anyCut_eq_false : ∀ ts : List Token, BrokenLast ((tokenParts ts).map Part.isWhole) →
    allExplicit ts = true → anyCut ts = false
  | [], _, _ => rfl
  | t :: rest, h, he => by
    rw [tokenParts, List.map_append] at h
    obtain ⟨ht, hrest, -⟩ := List.pairwise_append.1 h
    rw [allExplicit, Bool.and_eq_true] at he
    rw [anyCut, Token.isCut_eq_false t ht he.1, anyCut_eq_false rest hrest he.2, Bool.or_false]

end

theorem anyCut_iff {ts : List Token} : anyCut ts = false ↔ ∀ t ∈ ts, t.isCut = false := by
  induction ts with
  | nil => exact iff_of_true rfl nofun
  | cons t ts ih => rw [anyCut, Bool.or_eq_false_iff, ih, List.forall_mem_cons]

theorem anyCut_append {xs ys : List Token} :
    anyCut (xs ++ ys) = false ↔ anyCut xs = false ∧ anyCut ys = false := by
  simp only [anyCut_iff, List.forall_mem_append]

theorem nodesCut_map_cons {n : Node} {e : Except SyntaxError (List Node)} {ns : List Node}
    (hn : n.isCut = false) (he : ∀ more, e = .ok more → nodesCut more = false)
    (h : e.map (n :: ·) = .ok ns) : nodesCut ns = false := by
  cases e with
  | error _ => cases h
  | ok more =>
    obtain rfl := Except.ok.inj h
    rw [nodesCut, hn, he more rfl, Bool.or_false]

/-- Reading cuts no function off. -/
theorem Reading.nodesCut_nodes (top : Bool) (pending : Pending) (tokens : List Token)
    (ns : List Node) (h : Reading.nodes top pending tokens = .ok ns)
    (hcut : anyCut (pending.tokens.reverse ++ tokens) = false) : nodesCut ns = false := by
  have behind : ∀ {t : Token} {rest : List Token}, anyCut (t :: rest) = false →
      anyCut rest = false := fun h => (Bool.or_eq_false_iff.1 h).2
  fun_induction Reading.nodes top pending tokens generalizing ns with
  | case1 =>
    obtain rfl := Except.ok.inj h
    rfl
  | case2 | case4 => cases h
  | case3 top keyword before =>
    obtain rfl := Except.ok.inj h
    exact Bool.or_eq_false_iff.2 ⟨(anyCut_append.1 hcut).1, rfl⟩
  | case5 top p content closed rest q last before ih =>
    obtain ⟨hbefore, hblock⟩ := anyCut_append.1 hcut
    obtain ⟨hcontent, hrest⟩ := Bool.or_eq_false_iff.1 hblock
    refine nodesCut_map_cons ?_ (fun more hm => ih more hm hrest) h
    exact Bool.or_eq_false_iff.2 ⟨hbefore, hcontent⟩
  | case6 top p content closed rest keyword before ihc ih =>
    obtain ⟨hbefore, hblock⟩ := anyCut_append.1 hcut
    obtain ⟨hcontent, hrest⟩ := Bool.or_eq_false_iff.1 hblock
    refine nodesCut_map_cons ?_ (fun more hm => ih more hm hrest) h
    split
    · exact Bool.or_eq_false_iff.2 ⟨hbefore, hcontent⟩
    split
    · exact Bool.or_eq_false_iff.2 ⟨hbefore, ihc _ ‹_› hcontent⟩
    · exact Bool.or_eq_false_iff.2 ⟨hbefore, hcontent⟩
  | case7 top rest p text _ ih | case8 top rest p text _ ih =>
    exact nodesCut_map_cons rfl (fun more hm => ih more hm (behind hcut)) h
  | case9 top rest p keyword _ ih => exact ih ns h (behind hcut)
  | case10 top rest t _ _ _ _ _ ih => exact ih ns h (behind hcut)
  | case11 top rest t _ _ _ _ _ ih => exact ih ns h hcut
  | case12 top p last before t rest _ ih =>
    refine ih ns h ?_
    rw [Pending.tokens, List.reverse_cons, List.append_assoc]
    exact hcut
  | case13 top keyword before t rest _ _ ih =>
    obtain ⟨hbefore, hrest⟩ := anyCut_append.1 hcut
    refine nodesCut_map_cons ?_ (fun more hm => ih more hm (behind hrest)) h
    exact hbefore
  | case14 top keyword before t rest _ _ ih =>
    refine ih ns h ?_
    rw [Pending.tokens, List.reverse_cons, List.append_assoc]
    exact hcut

/-! ### Stripping comments -/

mutual

theorem Token.endsBroken_stripComments : ∀ t : Token, t.stripComments.endsBroken = t.endsBroken
  | .leaf _ l => by cases l <;> rfl
  | .block .. => rfl
  | .function _ _ arguments _ => endsBroken_stripTokens arguments

theorem endsBroken_stripTokens : ∀ ts : List Token, endsBroken (stripTokens ts) = endsBroken ts
  | [] => rfl
  | t :: rest => by
    rw [stripTokens, endsBroken, endsBroken, t.endsBroken_stripComments,
      endsBroken_stripTokens rest]
    cases rest <;> rfl

end

mutual

theorem Token.isCut_stripComments : ∀ t : Token, t.stripComments.isCut = t.isCut
  | .leaf _ l => by cases l <;> rfl
  | .block _ _ content _ => anyCut_stripTokens content
  | .function _ _ arguments _ => by
    rw [Token.stripComments, Token.isCut, Token.isCut, endsBroken_stripTokens,
      anyCut_stripTokens arguments]

theorem anyCut_stripTokens : ∀ ts : List Token, anyCut (stripTokens ts) = anyCut ts
  | [] => rfl
  | t :: rest => by
    rw [stripTokens, anyCut, anyCut, t.isCut_stripComments, anyCut_stripTokens rest]

end

mutual

theorem Node.isCut_stripTokens : ∀ n : Node, n.stripTokens.isCut = n.isCut
  | .whitespace _ | .comment _ => rfl
  | .rule _ | .statement .. | .rawBlock .. => by
    simp only [Node.stripTokens, Node.isCut, anyCut_stripTokens]
  | .ruleBlock _ _ nodes => by
    rw [Node.stripTokens, Node.isCut, Node.isCut, anyCut_stripTokens, nodesCut_stripNodes nodes]

theorem nodesCut_stripNodes : ∀ nodes : List Node, nodesCut (stripNodes nodes) = nodesCut nodes
  | [] => rfl
  | n :: rest => by
    rw [stripNodes, nodesCut, nodesCut, n.isCut_stripTokens, nodesCut_stripNodes rest]

end

mutual

theorem Node.isCut_removeWhere {p : Node → Bool} : ∀ n : Node, n.isCut = false →
    (n.removeWhere p).isCut = false
  | .ruleBlock _ _ nodes, h => by
    obtain ⟨hprelude, hnodes⟩ := Bool.or_eq_false_iff.1 h
    rw [Node.removeWhere, Node.isCut, hprelude, nodesCut_removeWhere nodes false hnodes]
    rfl
  | .whitespace _, h | .comment _, h | .rule _, h | .statement .., h | .rawBlock .., h => h

/-- A removal cuts no function off. -/
theorem nodesCut_removeWhere {p : Node → Bool} : ∀ (nodes : List Node) (after : Bool),
    nodesCut nodes = false → nodesCut (removeWhere p after nodes) = false
  | [], _, _ => rfl
  | n :: rest, after, h => by
    obtain ⟨hn, hrest⟩ := Bool.or_eq_false_iff.1 h
    have ih := fun after => nodesCut_removeWhere (p := p) rest after hrest
    rw [removeWhere_cons]
    split
    · exact ih false
    split
    · exact ih true
    · rw [nodesCut, n.isCut_removeWhere hn, ih false]
      rfl

end

/-- Stripping comments cuts no function off. -/
theorem nodesCut_stripComments {s : Sheet} (h : nodesCut s = false) :
    nodesCut s.stripComments = false := by
  rw [Sheet.stripComments, nodesCut_stripNodes]
  exact nodesCut_removeWhere s false h

/-- In a clear style sheet no function is cut off. -/
theorem nodesCut_of_isClear {css : List Char} {s : Sheet} (hc : isClear css = true)
    (h : read css = .ok s) : nodesCut s = false := by
  obtain ⟨hb, ts, hts, hn⟩ := read_inv h
  refine Reading.nodesCut_nodes true .nothing ts s hn ?_
  exact anyCut_eq_false ts (brokenLast_tokenize hts) ((checkBalance_iff_allExplicit hc hts).1 hb)

end StylePrune.Css
