import Mathlib.Data.List.Forall2
import StylePrune.Css.Generate
import StylePrune.Proofs.Css.Leaves
import StylePrune.Proofs.Css.Occurs

/-!
# Faults and where they are held

Tokens are grouped into rules and at-rules before any of these is judged: `drafts` groups one list
of tokens and looks into no block. A draft has a fault if it is a rule without a selector or without
a block. Reading fails with the first fault among the drafts of the whole text (`settles_nodes`),
and a fault among the drafts of a block is held by the at-rule around it, which keeps its tokens as
they are (`Draft.ReadsAs`).
-/

namespace StylePrune.Css

/-! ## Drafts of nodes -/

/-- A node as the tokens give it, before it is judged and before its block is read. -/
inductive Draft where
  | whitespace (text : List Char)
  | comment (text : List Char)
  | rule (position : Position) (selector content : List Token)
  /-- The text ends before the block of a rule; the place is that of the last token. -/
  | unended (position : Position)
  /-- An at-rule, with the tokens of its block if it has one. -/
  | atRule (keyword : Text) (prelude : List Token) (block : Option (List Token))

/-- The tokens before the first curly block, the tokens in it, and those behind it. -/
def splitAtBlock : List Token → Option (List Token × List Token × List Token)
  | [] => none
  | .block _ .curly content _ :: rest => some ([], content, rest)
  | t :: rest => (splitAtBlock rest).map fun (before, more) => (t :: before, more)

/-- The tokens up to the first curly block or semicolon, the tokens in the block if there is one,
and the tokens behind. -/
def splitAtEnd : List Token → List Token × Option (List Token) × List Token
  | [] => ([], none, [])
  | .block _ .curly content _ :: rest => ([], some content, rest)
  | t :: rest =>
    if t.isLiteral ";" then ([], none, rest)
    else
      let (before, more) := splitAtEnd rest
      (t :: before, more)

theorem length_splitAtBlock {ts before content rest : List Token}
    (h : splitAtBlock ts = some (before, content, rest)) : rest.length < ts.length := by
  fun_induction splitAtBlock ts generalizing before with
  | case1 => cases h
  | case2 =>
    obtain ⟨-, -, rfl⟩ := h
    exact Nat.lt_succ_self _
  | case3 t ts _ ih =>
    obtain ⟨⟨before', content', rest'⟩, hmore, h⟩ := Option.map_eq_some_iff.1 h
    obtain ⟨-, rfl, rfl⟩ := h
    exact Nat.lt_succ_of_lt (ih hmore)

theorem length_splitAtEnd (ts : List Token) : (splitAtEnd ts).2.2.length ≤ ts.length := by
  fun_induction splitAtEnd ts with
  | case1 => exact Nat.le_refl _
  | case2 | case3 => exact Nat.le_succ _
  | case4 t rest _ _ before more hmore ih =>
    rw [hmore] at ih
    exact Nat.le_succ_of_le ih

/-- The drafts of some tokens, which are those of a whole text if `top` holds. -/
def drafts (top : Bool) : List Token → List Draft
  | [] => []
  | .leaf _ (.whitespace text) :: rest => .whitespace text :: drafts top rest
  | .leaf _ (.comment text) :: rest => .comment text :: drafts top rest
  | .leaf _ (.atKeyword keyword) :: rest =>
    .atRule keyword (splitAtEnd rest).1 (splitAtEnd rest).2.1 :: drafts top (splitAtEnd rest).2.2
  | t :: rest =>
    if top && (t.isLiteral "<!--" || t.isLiteral "-->") then drafts top rest
    else
      match _ : splitAtBlock (t :: rest) with
      | some (before, content, more) => .rule t.position before content :: drafts top more
      | none => [.unended (rest.getLast?.getD t).position]
termination_by ts => ts.length
decreasing_by
  · simp
  · simp
  · exact Nat.lt_succ_of_le (length_splitAtEnd rest)
  · simp
  · exact length_splitAtBlock ‹_›

namespace Draft

/-- Why a draft is no node. -/
def fault? : Draft → Option SyntaxError
  | rule position selector _ =>
    if selector.all Token.isBlank then some (.noSelector position) else none
  | unended position => some (.noBlock position)
  | _ => none

/-- The node that a draft without fault is read as. A fault directly within the block of an at-rule
leaves the tokens of that block as they are; otherwise each draft within is read for itself. -/
inductive ReadsAs : Draft → Node → Prop
  | whitespace (text : List Char) : ReadsAs (.whitespace text) (.whitespace text)
  | comment (text : List Char) : ReadsAs (.comment text) (.comment text)
  | rule {position : Position} {selector content : List Token}
    (h : selector.all Token.isBlank = false) :
    ReadsAs (.rule position selector content) (.rule ⟨selector, content⟩)
  | statement (keyword : Text) (pre : List Token) :
    ReadsAs (.atRule keyword pre none) (.statement keyword pre)
  | declarations {keyword : Text} {pre content : List Token}
    (h : holdsDeclarations keyword = true) :
    ReadsAs (.atRule keyword pre (some content)) (.rawBlock keyword pre content)
  | damaged {keyword : Text} {pre content : List Token} (h : holdsDeclarations keyword = false)
    (hfault : ∃ d ∈ drafts false content, d.fault? ≠ none) :
    ReadsAs (.atRule keyword pre (some content)) (.rawBlock keyword pre content)
  | rules {keyword : Text} {pre content : List Token} {nodes : List Node}
    (h : holdsDeclarations keyword = false)
    (hnodes : List.Forall₂ ReadsAs (drafts false content) nodes) :
    ReadsAs (.atRule keyword pre (some content)) (.ruleBlock keyword pre nodes)

theorem ReadsAs.fault?_eq_none {d : Draft} {n : Node} (h : d.ReadsAs n) : d.fault? = none := by
  cases h with
  | rule h => rw [fault?, h, if_neg Bool.false_ne_true]
  | _ => rfl

end Draft

/-- What a reading gives for some drafts. -/
inductive Settles (ds : List Draft) : Except SyntaxError (List Node) → Prop
  /-- The first fault among them. -/
  | fault {e : SyntaxError} (h : ds.findSome? Draft.fault? = some e) : Settles ds (.error e)
  /-- A node for each. -/
  | nodes {nodes : List Node} (h : List.Forall₂ Draft.ReadsAs ds nodes) : Settles ds (.ok nodes)

theorem settles_cons {d : Draft} {n : Node} {ds : List Draft}
    {r : Except SyntaxError (List Node)} (hd : d.ReadsAs n) (h : Settles ds r) :
    Settles (d :: ds) (r.map (n :: ·)) := by
  cases h with
  | fault h => exact .fault (by rw [List.findSome?_cons, hd.fault?_eq_none, h])
  | nodes h => exact .nodes (.cons hd h)

/-! ## Reading the drafts -/

namespace Reading

/-- The drafts of the tokens that are read with a rule or at-rule pending. -/
def Pending.drafts (top : Bool) : Pending → List Token → List Draft
  | .nothing, ts => Css.drafts top ts
  | .rule position last before, ts =>
    match splitAtBlock ts with
    | some (more, content, rest) =>
      .rule position (before.reverse ++ more) content :: Css.drafts top rest
    | none => [.unended (ts.getLast?.getD last).position]
  | .atRule keyword before, ts =>
    .atRule keyword (before.reverse ++ (splitAtEnd ts).1) (splitAtEnd ts).2.1 ::
      Css.drafts top (splitAtEnd ts).2.2

/-- A rule that is pending has a selector that is no blank. -/
def Pending.IsProper : Pending → Prop
  | .rule _ _ before => before.all Token.isBlank = false
  | _ => True

theorem splitAtBlock_cons {t : Token} (h : ∀ p content closed, t ≠ .block p .curly content closed)
    (rest : List Token) : splitAtBlock (t :: rest) =
      (splitAtBlock rest).map fun (before, more) => (t :: before, more) := by
  rw [splitAtBlock]
  exact h

theorem drafts_rule {top : Bool} {p : Position} {last t : Token} {before rest : List Token}
    (h : ∀ p content closed, t ≠ .block p .curly content closed) :
    Pending.drafts top (.rule p last before) (t :: rest) =
      Pending.drafts top (.rule p t (t :: before)) rest := by
  simp only [Pending.drafts, splitAtBlock_cons h]
  cases splitAtBlock rest with
  | none => simp [List.getLast?_cons]
  | some split => simp

theorem drafts_atRule {top : Bool} {keyword : Text} {t : Token} {before rest : List Token}
    (h : ∀ p content closed, t ≠ .block p .curly content closed) (hend : t.isLiteral ";" = false) :
    Pending.drafts top (.atRule keyword before) (t :: rest) =
      Pending.drafts top (.atRule keyword (t :: before)) rest := by
  have hsplit : splitAtEnd (t :: rest) = (t :: (splitAtEnd rest).1, (splitAtEnd rest).2) := by
    rw [splitAtEnd, hend, if_neg Bool.false_ne_true]
    exact h
  simp [Pending.drafts, hsplit]

/-- Reading settles the drafts of its tokens. -/
theorem settles_nodes (top : Bool) (pending : Pending) (ts : List Token) (h : pending.IsProper) :
    Settles (pending.drafts top ts) (nodes top pending ts) := by
  fun_induction nodes top pending ts with
  | case1 =>
    rw [Pending.drafts, Css.drafts]
    exact .nodes .nil
  | case2 => exact .fault rfl
  | case3 top keyword before =>
    rw [Pending.drafts, splitAtEnd, Css.drafts, List.append_nil]
    exact .nodes (.cons (.statement ..) .nil)
  | case4 top p content closed rest =>
    rw [Pending.drafts, Css.drafts, if_neg (by simp [Token.isLiteral]), splitAtBlock]
    · exact .fault rfl
    all_goals exact fun _ _ e => by cases e
  | case5 top p content closed rest q last before ih =>
    rw [Pending.drafts, splitAtBlock]
    dsimp only
    rw [List.append_nil]
    exact settles_cons (.rule (by rw [List.all_reverse]; exact h)) (ih trivial)
  | case6 top p content closed rest keyword before ihc ih =>
    rw [Pending.drafts, splitAtEnd]
    refine settles_cons ?_ (ih trivial)
    rw [List.append_nil]
    split
    case isTrue hdeclarations => exact .declarations hdeclarations
    case isFalse hdeclarations =>
      have hdeclarations := Bool.eq_false_iff.2 hdeclarations
      split
      case h_1 nodes hnodes =>
        rw [hnodes] at ihc
        cases ihc trivial with
        | nodes hreads => exact .rules hdeclarations hreads
      case h_2 e he =>
        rw [he] at ihc
        cases ihc trivial with
        | fault hfault =>
          obtain ⟨d, hd, hsome⟩ := List.exists_of_findSome?_eq_some hfault
          exact .damaged hdeclarations ⟨d, hd, by simp [hsome]⟩
  | case7 top rest p text _ ih | case8 top rest p text _ ih =>
    rw [Pending.drafts, Css.drafts]
    exact settles_cons (by constructor) (ih trivial)
  | case9 top rest p keyword _ ih =>
    rw [Pending.drafts, Css.drafts]
    exact ih trivial
  | case10 top rest t hspace hcomment hat hmark hblock ih =>
    rw [Pending.drafts, Css.drafts, if_pos hmark]
    · exact ih trivial
    all_goals assumption
  | case11 top rest t hspace hcomment hat hmark hblock ih =>
    have hcurly : ∀ p content closed, t ≠ .block p .curly content closed :=
      fun p content closed e => hblock p content closed e
    have hstart : Css.drafts top (t :: rest) =
        Pending.drafts top (.rule t.position t [t]) rest := by
      rw [Css.drafts, if_neg hmark, splitAtBlock_cons hcurly, Pending.drafts]
      · cases splitAtBlock rest with
        | none => rfl
        | some split => rfl
      all_goals assumption
    have hblank : t.isBlank = false := Token.isBlank_eq_false hspace hcomment
    rw [Pending.drafts, hstart]
    exact ih (by rw [Pending.IsProper, List.all_cons, hblank]; rfl)
  | case12 top p last before t rest hblock ih =>
    rw [drafts_rule fun p content closed e => hblock p content closed e]
    refine ih ?_
    rw [Pending.IsProper, List.all_cons, h, Bool.and_false]
  | case13 top keyword before t rest hblock hend ih =>
    have hsplit : splitAtEnd (t :: rest) = ([], none, rest) := by
      rw [splitAtEnd, hend, if_pos rfl]
      exact hblock
    rw [Pending.drafts, hsplit, List.append_nil]
    exact settles_cons (.statement ..) (ih trivial)
  | case14 top keyword before t rest hblock hend ih =>
    rw [drafts_atRule (fun p content closed e => hblock p content closed e)
      (Bool.eq_false_iff.2 hend)]
    exact ih trivial

end Reading

/-! ## Drafts at any depth -/

namespace Draft

/-- A draft stands among some drafts, or within at-rules among them that hold rules and have no
fault of their own. -/
inductive Within (d : Draft) : List Draft → Prop
  | here {ds : List Draft} : d ∈ ds → Within d ds
  | inner {ds : List Draft} {keyword : Text} {pre content : List Token} :
      .atRule keyword pre (some content) ∈ ds → holdsDeclarations keyword = false →
      (∀ inner ∈ drafts false content, inner.fault? = none) → Within d (drafts false content) →
      Within d ds

theorem exists_of_mem {ds : List Draft} {nodes : List Node} (h : List.Forall₂ ReadsAs ds nodes)
    {d : Draft} (hd : d ∈ ds) : ∃ n ∈ nodes, d.ReadsAs n := by
  induction h with
  | nil => cases hd
  | @cons d' n ds nodes hreads _ ih =>
    rcases List.mem_cons.1 hd with rfl | hd
    · exact ⟨n, List.mem_cons_self, hreads⟩
    · obtain ⟨m, hm, hreads⟩ := ih hd
      exact ⟨m, List.mem_cons_of_mem _ hm, hreads⟩

/-- An at-rule without a fault of its own is read as a block of nodes. -/
theorem ReadsAs.rules_of_clean {keyword : Text} {pre content : List Token} {n : Node}
    (h : ReadsAs (.atRule keyword pre (some content)) n)
    (hkeyword : holdsDeclarations keyword = false)
    (hclean : ∀ inner ∈ drafts false content, inner.fault? = none) :
    ∃ nodes, n = .ruleBlock keyword pre nodes ∧
      List.Forall₂ ReadsAs (drafts false content) nodes := by
  cases h with
  | declarations h => exact absurd (h.symm.trans hkeyword) Bool.true_eq_false.mp
  | damaged _ hfault =>
    obtain ⟨d, hd, hfault⟩ := hfault
    exact absurd (hclean d hd) hfault
  | rules _ hnodes => exact ⟨_, rfl, hnodes⟩

/-- An at-rule with a fault of its own keeps the tokens of its block. -/
theorem ReadsAs.raw_of_fault {keyword : Text} {pre content : List Token} {n : Node}
    (h : ReadsAs (.atRule keyword pre (some content)) n)
    (hfault : ∃ inner ∈ drafts false content, inner.fault? ≠ none) :
    n = .rawBlock keyword pre content := by
  cases h with
  | declarations | damaged => rfl
  | rules _ hnodes =>
    obtain ⟨inner, hinner, hfault⟩ := hfault
    obtain ⟨n, -, hreads⟩ := exists_of_mem hnodes hinner
    exact absurd hreads.fault?_eq_none hfault

/-- What is read of a draft at any depth stands in the tree. -/
theorem Within.occurs {d : Draft} {ds : List Draft} (hd : d.Within ds) :
    ∀ {nodes : List Node}, List.Forall₂ ReadsAs ds nodes → ∃ n, d.ReadsAs n ∧ Occurs n nodes := by
  induction hd with
  | here hmem =>
    intro nodes h
    obtain ⟨n, hn, hreads⟩ := exists_of_mem h hmem
    exact ⟨n, hreads, .here hn⟩
  | inner hmem hkeyword hclean _ ih =>
    intro nodes h
    obtain ⟨block, hblock, hreads⟩ := exists_of_mem h hmem
    obtain ⟨inside, rfl, hinside⟩ := hreads.rules_of_clean hkeyword hclean
    obtain ⟨n, hn, hoccurs⟩ := ih hinside
    exact ⟨n, hn, .within hblock hoccurs⟩

end Draft

/-! ## Reading a text -/

/-- What is read of a text whose brackets pair up. -/
theorem read_eq {css : List Char} {ts : List Token} (hb : checkBalance css = .ok ())
    (ht : tokenize css = .ok ts) :
    read css = (Reading.nodes true .nothing ts).mapError .broken := by
  rw [read, hb, ht]

theorem settles_read {css : List Char} {ts : List Token} (hb : checkBalance css = .ok ())
    (ht : tokenize css = .ok ts) :
    (∃ e, (drafts true ts).findSome? Draft.fault? = some e ∧ read css = .error (.broken e)) ∨
      ∃ s, List.Forall₂ Draft.ReadsAs (drafts true ts) s ∧ read css = .ok s := by
  have h := Reading.settles_nodes true .nothing ts trivial
  rw [Reading.Pending.drafts] at h
  rw [read_eq hb ht]
  generalize Reading.nodes true .nothing ts = result at h ⊢
  cases h with
  | fault h => exact .inl ⟨_, h, rfl⟩
  | nodes h => exact .inr ⟨_, h, rfl⟩

theorem exists_fault_iff (ds : List Draft) :
    (∃ e, ds.findSome? Draft.fault? = some e) ↔ ∃ d ∈ ds, d.fault? ≠ none := by
  rw [← Option.isSome_iff_exists, List.isSome_findSome?, List.any_eq_true]
  simp only [ne_eq, Option.ne_none_iff_isSome]

/-- A text is refused just if its brackets do not pair up or a draft of its top level has a fault,
and then the first of these is the error. Faults within blocks refuse nothing: every draft of a text
that is read stands in the tree as the node that it is read as, at any depth that only at-rules
without a fault of their own lead to. There an at-rule with a fault directly in its block keeps all
tokens of the block, which are written back as they are, and one without holds a node for each
draft. -/
theorem faults_contained (css : List Char) :
    ((∃ e, read css = .error (.broken e)) ↔ (∃ i, checkBalance css = .error i) ∨
      ∃ ts, tokenize css = .ok ts ∧ ∃ d ∈ drafts true ts, d.fault? ≠ none) ∧
    (∀ i, checkBalance css = .error i → read css = .error (.broken (.unbalanced i))) ∧
    (∀ ts e, checkBalance css = .ok () → tokenize css = .ok ts →
      (drafts true ts).findSome? Draft.fault? = some e → read css = .error (.broken e)) ∧
    ∀ s, read css = .ok s → ∃ ts, tokenize css = .ok ts ∧
      List.Forall₂ Draft.ReadsAs (drafts true ts) s ∧
      (∀ d : Draft, d.Within (drafts true ts) → ∃ n, d.ReadsAs n ∧ Occurs n s) ∧
      ∀ keyword pre content, (Draft.atRule keyword pre (some content)).Within (drafts true ts) →
        holdsDeclarations keyword = false →
          ((∃ d ∈ drafts false content, d.fault? ≠ none) →
            Occurs (.rawBlock keyword pre content) s ∧
              (Node.rawBlock keyword pre content).generate false =
                atRuleHead false keyword pre ++ braced (Serialize.tokens content)) ∧
          ((∀ d ∈ drafts false content, d.fault? = none) → ∃ nodes,
            Occurs (.ruleBlock keyword pre nodes) s ∧
              List.Forall₂ Draft.ReadsAs (drafts false content) nodes) := by
  refine ⟨⟨?_, ?_⟩, fun i hi => by rw [read, hi], fun ts e hb ht he => ?_, fun s hs => ?_⟩
  · rintro ⟨e, he⟩
    cases hb : checkBalance css with
    | error i => exact .inl ⟨i, rfl⟩
    | ok =>
      cases ht : tokenize css with
      | error long =>
        rw [read, hb, ht] at he
        cases he
      | ok ts =>
        rcases settles_read hb ht with ⟨e', hfault, -⟩ | ⟨s, -, hs⟩
        · exact .inr ⟨ts, rfl, (exists_fault_iff _).1 ⟨e', hfault⟩⟩
        · rw [hs] at he
          cases he
  · rintro (⟨i, hi⟩ | ⟨ts, ht, d, hd, hfault⟩)
    · exact ⟨_, by rw [read, hi]⟩
    · cases hb : checkBalance css with
      | error i => exact ⟨_, by rw [read, hb]⟩
      | ok =>
        rcases settles_read hb ht with ⟨e, -, he⟩ | ⟨s, hreads, -⟩
        · exact ⟨e, he⟩
        · obtain ⟨n, -, hn⟩ := Draft.exists_of_mem hreads hd
          exact absurd hn.fault?_eq_none hfault
  · rcases settles_read hb ht with ⟨e', he', hread⟩ | ⟨s, hreads, -⟩
    · rw [Option.some.inj (he.symm.trans he')]
      exact hread
    · obtain ⟨d, hd, hfault⟩ := (exists_fault_iff _).1 ⟨e, he⟩
      obtain ⟨n, -, hn⟩ := Draft.exists_of_mem hreads hd
      exact absurd hn.fault?_eq_none hfault
  · obtain ⟨hb, ts, ht, -⟩ := read_inv hs
    rcases settles_read hb ht with ⟨e, -, he⟩ | ⟨s', hreads, hs'⟩
    · rw [he] at hs
      cases hs
    · obtain rfl := Except.ok.inj (hs.symm.trans hs')
      refine ⟨ts, ht, hreads, fun d hd => hd.occurs hreads, ?_⟩
      intro keyword pre content hd hkeyword
      obtain ⟨n, hn, hoccurs⟩ := hd.occurs hreads
      refine ⟨fun hfault => ?_, fun hclean => ?_⟩
      · obtain rfl := hn.raw_of_fault hfault
        exact ⟨hoccurs, rfl⟩
      · obtain ⟨nodes, rfl, hnodes⟩ := hn.rules_of_clean hkeyword hclean
        exact ⟨nodes, hoccurs, hnodes⟩

/-- A rule without a selector leaves the block around it unread, but not the block around that. -/
example : (match read "@media a\x7b@media b\x7bc\x7b\x7d\x7b\x7d\x7dd\x7b\x7d\x7d".toList with
    | .ok [.ruleBlock _ _ [.rawBlock _ _ content, .rule _]] => content.length == 3
    | _ => false) = true := by decide +kernel

end StylePrune.Css
