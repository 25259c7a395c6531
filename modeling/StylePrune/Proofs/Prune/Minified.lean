import StylePrune.Proofs.Css.Compacted
import StylePrune.Proofs.Css.Occurs
import StylePrune.Proofs.Prune.Passes
import StylePrune.Proofs.Selectors.Signs

/-!
# The selectors of a minified style sheet

Minified text is one rule or at-rule after the other (`Layout`), and the selector lists in it are
those of the rules that stay, each written as the tokens `minified`. `signs_minified`: these read as
the selector list of the rule does when its comments are taken for white space. So the meaning of a
selector is kept just where no comment alone stands between two tokens that white space would part
(`minified_selectors`).
-/

namespace StylePrune

open Css (Node Rule Token Enclosing textOf compactedAfter compacted compactEach)
open Css.Compact (Tight selectorTight argumentTight)

namespace Selectors

/-! ## Comments turned into spaces -/

theorem isComment_stripComments (t : Token) : isComment t.stripComments = false := by
  cases t with
  | leaf p l => cases l <;> rfl
  | block | function => rfl

theorem side_stripComments {t : Token} (h : t.isBlank = false) : side t.stripComments = side t := by
  cases t with
  | leaf p l =>
    cases l with
    | comment => cases h
    | _ => rfl
  | block | function => rfl

mutual

theorem sign_stripComments (parting : Bool) : ∀ t : Token, t.isBlank = false →
    sign parting t.stripComments = sign true t
  | .leaf p l, h => by
    cases l with
    | comment => cases h
    | _ => rfl
  | .block _ .curly _ _, _ => rfl
  | .block _ .paren content _, _ | .block _ .square content _, _ => by
    rw [Token.stripComments, sign, sign, signsAfter_stripTokens] <;> exact fun h => by cases h
  | .function _ _ arguments _, _ => by
    rw [Token.stripComments, sign, sign, signsAfter_stripTokens]

theorem signsAfter_stripTokens (parting : Bool) : ∀ (ts : List Token) (square : Bool)
    (before : Side) (blank : Bool),
    signsAfter parting square before blank (Css.stripTokens ts) =
      signsAfter true square before blank ts
  | [], _, _, _ => rfl
  | t :: rest, square, before, blank => by
    rw [Css.stripTokens, signsAfter, signsAfter, Token.isBlank_stripComments]
    cases hblank : t.isBlank with
    | true =>
      rw [if_pos rfl, if_pos rfl, signsAfter_stripTokens parting rest, isComment_stripComments]
      simp
    | false =>
      rw [if_neg Bool.false_ne_true, if_neg Bool.false_ne_true, side_stripComments hblank,
        sign_stripComments parting t hblank, signsAfter_stripTokens parting rest]

end

/-! ## The compact form -/

/-- Whether only commas and combinators are tight. -/
def onlyMarks (tight : Tight) : Bool := tight.all fun c => (Sign.ofText? [.char c]).isSome

theorem side_of_isTight {tight : Tight} (hmarks : onlyMarks tight = true) {t : Token}
    (h : t.isTight tight = true) : side t = .mark := by
  cases t with
  | leaf p l =>
    obtain ⟨c, htext, hc⟩ := Css.char_of_isTight h
    exact if_pos (htext ▸ List.all_eq_true.1 hmarks c hc)
  | block | function => cases h

theorem isBlank_compact (t : Token) : t.compact.isBlank = t.isBlank := by cases t <;> rfl

theorem side_compact (t : Token) : side t.compact = side t := by cases t <;> rfl

/-- A space that is put before a token is white space before it. -/
theorem signsAfter_space (parting square : Bool) (before : Side) (put : Bool) (ts : List Token) :
    signsAfter parting square before false ((if put then [Css.space] else []) ++ ts) =
      signsAfter parting square before put ts := by
  cases put with
  | false => rfl
  | true =>
    have hspace : Css.space.isBlank = true := rfl
    rw [if_pos rfl, List.singleton_append, signsAfter, if_pos hspace]
    cases parting <;> rfl

mutual

theorem sign_compact (parting : Bool) : ∀ t : Token, sign parting t.compact = sign true t
  | .leaf .. => rfl
  | .block _ .curly _ _ => rfl
  | .block _ .paren content _ => by
    rw [Token.compact, sign, sign, Css.compactedContent, if_neg (by decide),
      signsAfter_compacted parting content (by decide)] <;> exact fun h => by cases h
  | .block _ .square content _ => by
    rw [Token.compact, sign, sign, Css.compactedContent, if_neg (by decide),
      signsAfter_compacted parting content (by decide)] <;> exact fun h => by cases h
  | .function _ _ arguments _ => by
    rw [Token.compact, sign, sign, Css.compactedContent, if_neg (by decide),
      signsAfter_compacted parting arguments (by decide)]

/-- The compact form keeps every blank that tells something, and comments become such blanks. -/
theorem signsAfter_compactedAfter (parting : Bool) : ∀ (ts : List Token) {tight : Tight}
    {square : Bool} {before : Side} {loose : Bool} (blank : Bool), onlyMarks tight = true →
    (before ≠ .mark → loose = true) →
    signsAfter parting square before false (compactedAfter tight loose blank (compactEach ts)) =
      signsAfter true square before blank ts
  | [], _, _, _, _, _, _, _ => rfl
  | t :: rest, tight, square, before, loose, blank, hmarks, hloose => by
    rw [compactEach, compactedAfter, isBlank_compact, signsAfter.eq_2 true]
    cases hblank : t.isBlank with
    | true =>
      rw [if_pos rfl, if_pos rfl, signsAfter_compactedAfter parting rest true hmarks hloose]
      simp
    | false =>
      have hside : side t ≠ .mark → t.compact.isTight tight = false := fun h =>
        Bool.eq_false_iff.2 fun htight => h (side_compact t ▸ side_of_isTight hmarks htight)
      rw [if_neg Bool.false_ne_true, if_neg Bool.false_ne_true, signsAfter_space, signsAfter,
        isBlank_compact, hblank, if_neg Bool.false_ne_true, side_compact, sign_compact parting t,
        signsAfter_compactedAfter parting rest false hmarks fun h => by rw [hside h]; rfl]
      congr 2
      cases htells : tells square before (side t) with
      | false => simp
      | true =>
        obtain ⟨hbefore, hafter⟩ := sides_of_tells htells
        simp [hloose hbefore, hside hafter]

theorem signsAfter_compacted (parting : Bool) (ts : List Token) {tight : Tight} {square : Bool}
    (hmarks : onlyMarks tight = true) :
    signsAfter parting square .mark false (compacted tight (compactEach ts)) =
      signsAfter true square .mark false ts :=
  signsAfter_compactedAfter parting ts false hmarks fun h => absurd rfl h

end

end Selectors

namespace Prune

open Selectors (signs partedSigns commentJoins)

/-- The tokens that minified text has for a selector list. -/
def minified (selector : List Token) : List Token :=
  compacted selectorTight (compactEach (Css.stripTokens selector))

/-- Minified selectors read as the source does with its comments taken for white space. -/
theorem signs_minified (selector : List Token) :
    signs (minified selector) = partedSigns selector := by
  rw [signs, minified, Selectors.signsAfter_compacted false _ (by decide),
    Selectors.signsAfter_stripTokens, partedSigns]

/-! ## Where selectors are written -/

/-- A minified text is rules and at-rules, one directly after the other; the lists are the selectors
of its rules, in order. -/
inductive Layout : Text → List (List Token) → Prop
  | nil : Layout [] []
  | rule (selector : List Token) (body : Text) {text selectors} (rest : Layout text selectors) :
    Layout (textOf selector ++ Css.braced body ++ text) (selector :: selectors)
  | statement (head : Text) {text selectors} (rest : Layout text selectors) :
    Layout (.char '@' :: head ++ .char ';' :: text) selectors
  | rawBlock (head body : Text) {text selectors} (rest : Layout text selectors) :
    Layout (.char '@' :: head ++ Css.braced body ++ text) selectors
  | ruleBlock (head : Text) {body inner text selectors} (within : Layout body inner)
    (rest : Layout text selectors) :
    Layout (.char '@' :: head ++ Css.braced body ++ text) (inner ++ selectors)

theorem Layout.append {text text' : Text} {selectors selectors' : List (List Token)}
    (h : Layout text selectors) (h' : Layout text' selectors') :
    Layout (text ++ text') (selectors ++ selectors') := by
  induction h with
  | nil => exact h'
  | rule selector body _ ih =>
    rw [List.append_assoc]
    exact .rule selector body ih
  | statement head _ ih => simpa using Layout.statement head ih
  | rawBlock head body _ ih =>
    rw [List.append_assoc]
    exact .rawBlock head body ih
  | @ruleBlock head body inner _ _ hbody _ _ ih =>
    rw [List.append_assoc, List.append_assoc inner]
    exact .ruleBlock head hbody ih

/-- The head of an at-rule starts with its mark. -/
theorem atRuleHead_eq (keyword : Text) (prelude : List Token) :
    ∃ head, Css.atRuleHead true keyword prelude = .char '@' :: head := by
  rw [Css.atRuleHead, if_pos rfl]
  dsimp only
  split <;> exact ⟨_, rfl⟩

/-- The minified text of some nodes without their comments. -/
def minifiedText (after : Bool) (nodes : List Node) : Text :=
  Css.generateAll true (Css.stripNodes (Css.removeWhere Node.isComment after nodes))

theorem isBlank_eq (n : Node) : n.isBlank = (n.isWhitespace || n.isComment) := by
  cases n <;> rfl

mutual

theorem layout_node : ∀ (n : Node) (above : List Enclosing), n.isComment = false →
    Layout ((n.removeWhere Node.isComment).stripTokens.generate true)
      ((n.placed above).map fun x => minified x.2.selector)
  | .whitespace _, _, _ => .nil
  | .comment _, _, h => by cases h
  | .rule r, above, _ => by
    have h := Layout.rule (minified r.selector) (Css.Compact.block (Css.stripTokens r.content)) .nil
    rw [List.append_nil, minified, ← Css.tokens_eq_textOf] at h
    exact h
  | .statement keyword prelude, _, _ => by
    obtain ⟨head, hhead⟩ := atRuleHead_eq keyword (Css.stripTokens prelude)
    have h := Layout.statement head .nil
    rw [← hhead] at h
    exact h
  | .rawBlock keyword prelude content, _, _ => by
    obtain ⟨head, hhead⟩ := atRuleHead_eq keyword (Css.stripTokens prelude)
    have h := Layout.rawBlock head (Css.Compact.block (Css.stripTokens content)) .nil
    rw [← hhead, List.append_nil] at h
    exact h
  | .ruleBlock keyword prelude nodes, above, _ => by
    obtain ⟨head, hhead⟩ := atRuleHead_eq keyword (Css.stripTokens prelude)
    have h := Layout.ruleBlock head (layout_nodes nodes (above ++ [⟨keyword, prelude⟩]) false) .nil
    rw [← hhead, List.append_nil, List.append_nil] at h
    exact h

/-- Minified nodes are laid out with the selectors of their rules. -/
theorem layout_nodes : ∀ (nodes : List Node) (above : List Enclosing) (after : Bool),
    Layout (minifiedText after nodes)
      ((Css.placedFrom above nodes).map fun x => minified x.2.selector)
  | [], _, _ => .nil
  | n :: rest, above, after => by
    have hrest := fun after => layout_nodes rest above after
    simp only [minifiedText] at hrest
    rw [minifiedText, Css.removeWhere, Css.placedFrom, List.map_append]
    split
    case isTrue hgone =>
      have hspace := (Bool.and_eq_true_iff.1 hgone).2
      rw [Node.placed_blank (by rw [isBlank_eq, hspace, Bool.true_or])]
      exact hrest false
    dsimp only
    rw [Node.isComment_removeWhere]
    split
    case isTrue hcomment =>
      rw [Node.placed_blank (by rw [isBlank_eq, hcomment, Bool.or_true])]
      exact hrest true
    case isFalse hcomment =>
      exact (layout_node n above (Bool.eq_false_iff.2 hcomment)).append (hrest false)

end

/-! ## The selectors in the output -/

theorem css_minified {u : Usage} {size : Nat} {s : Css.Sheet} {result : PruneResult}
    (h : pruneSheet u true size s = .ok result) :
    Text.ofString result.css = minifiedText false (sheet u s) := by
  rw [css_written h]
  rfl

/-- The output of minifying is laid out with one selector list for each rule that stays, in order.
Each reads as the source does with its comments taken for white space, which is the reading of the
source just where no comment stands alone between two tokens that white space would part. -/
theorem minified_selectors {css : String} {scan : Scan} {options : PruneOptions} {s : Css.Sheet}
    {result : PruneResult} (hs : Css.read css.toList = .ok s) (hm : options.minify = true)
    (h : pruneCss css scan options = .ok result) :
    ∃ u, usageOf scan options = .ok u ∧
      Layout (Text.ofString result.css)
        (((rules s).filter (keeps u)).map fun r => minified r.selector) ∧
      ∀ r ∈ (rules s).filter (keeps u),
        signs (minified r.selector) = partedSigns r.selector ∧
        (signs (minified r.selector) = signs r.selector ↔ commentJoins r.selector = false) := by
  cases hu : usageOf scan options with
  | error e =>
    rw [pruneCss, hu] at h
    cases h
  | ok u =>
    rw [pruneCss_eq hu hs, hm] at h
    refine ⟨u, rfl, ?_, fun r _ => ⟨signs_minified _, ?_⟩⟩
    · have hlayout := layout_nodes (sheet u s) [] false
      rw [← css_minified h] at hlayout
      have hplaced := placed_sheet u s
      rw [Css.Sheet.placed] at hplaced
      rw [hplaced] at hlayout
      rw [rules_eq, List.filter_map, List.map_map]
      exact hlayout
    · rw [signs_minified, Selectors.partedSigns_eq_iff]

/-- Comments beside white space, beside a combinator and at the start of a block. -/
def idleComments : String := ".a /**/ .b/**/> .c[/**/d ]\x7b\x7d"

theorem minified_selectors_idle :
    ∃ s u result, Css.read idleComments.toList = .ok s ∧
      pruneCss idleComments { classes := ["a"] } { minify := true } = .ok result ∧
      result.css = ".a .b>.c[d]\x7b\x7d" ∧
      Layout (Text.ofString result.css)
        (((rules s).filter (keeps u)).map fun r => minified r.selector) ∧
      ((rules s).filter (keeps u)).length = 1 ∧
      ∀ r ∈ (rules s).filter (keeps u), signs (minified r.selector) = signs r.selector := by
  have hread : (Css.read idleComments.toList).toOption.any (fun s =>
      ((rules s).filter (keeps ⟨["a"], []⟩)).length == 1 &&
        ((rules s).filter (keeps ⟨["a"], []⟩)).all fun r => !commentJoins r.selector) = true := by
    decide +kernel
  have hcss : (pruneCss idleComments { classes := ["a"] } { minify := true }).toOption.any
      (fun result => result.css == ".a .b>.c[d]\x7b\x7d") = true := by decide +kernel
  cases hs : Css.read idleComments.toList with
  | error e => rw [hs] at hread; cases hread
  | ok s =>
    cases hp : pruneCss idleComments { classes := ["a"] } { minify := true } with
    | error e => rw [hp] at hcss; cases hcss
    | ok result =>
      rw [hs] at hread
      rw [hp] at hcss
      obtain ⟨hone, hjoins⟩ := (Bool.and_eq_true _ _).mp hread
      obtain ⟨u, hu, hlayout, hsigns⟩ := minified_selectors hs rfl hp
      obtain rfl := Except.ok.inj hu
      refine ⟨s, _, result, rfl, rfl, beq_iff_eq.1 hcss, hlayout, beq_iff_eq.1 hone,
        fun r hr => (hsigns r hr).2.2 ?_⟩
      exact Bool.not_eq_true' _ ▸ List.all_eq_true.1 hjoins r hr

/-- A comment alone between two classes is no descendant combinator, but its space is one. -/
theorem minified_selectors_parted :
    ∃ s result t, Css.read ".a/**/.b\x7bc:d\x7d".toList = .ok s ∧
      pruneCss ".a/**/.b\x7bc:d\x7d" { classes := ["a", "b"] } { minify := true } = .ok result ∧
      result.css = ".a .b\x7bc:d\x7d" ∧ Css.read result.css.toList = .ok t ∧
      (rules t).map (fun r => signs r.selector) ≠ (rules s).map fun r => signs r.selector := by
  have hcss : (pruneCss ".a/**/.b\x7bc:d\x7d" { classes := ["a", "b"] } { minify := true }
      ).toOption.any (fun result => result.css == ".a .b\x7bc:d\x7d") = true := by decide +kernel
  have hsource : (Css.read ".a/**/.b\x7bc:d\x7d".toList).toOption.any (fun s =>
      (rules s).map (fun r => (signs r.selector).length) == [4]) = true := by decide +kernel
  have houtput : (Css.read ".a .b\x7bc:d\x7d".toList).toOption.any (fun t =>
      (rules t).map (fun r => (signs r.selector).length) == [5]) = true := by decide +kernel
  cases hp : pruneCss ".a/**/.b\x7bc:d\x7d" { classes := ["a", "b"] } { minify := true } with
  | error e => rw [hp] at hcss; cases hcss
  | ok result =>
    rw [hp] at hcss
    have hresult : result.css = ".a .b\x7bc:d\x7d" := beq_iff_eq.1 hcss
    cases hs : Css.read ".a/**/.b\x7bc:d\x7d".toList with
    | error e => rw [hs] at hsource; cases hsource
    | ok s =>
      cases ht : Css.read ".a .b\x7bc:d\x7d".toList with
      | error e => rw [ht] at houtput; cases houtput
      | ok t =>
        rw [hs] at hsource
        rw [ht] at houtput
        refine ⟨s, result, t, rfl, rfl, hresult, by rw [hresult, ht], fun h => ?_⟩
        have hlengths := congrArg (List.map List.length) h
        rw [List.map_map, List.map_map] at hlengths
        exact absurd ((beq_iff_eq.1 houtput).symm.trans (hlengths.trans (beq_iff_eq.1 hsource)))
          (by decide)

end Prune

end StylePrune
