import StylePrune.Proofs.Css.Parted
import StylePrune.Proofs.Css.RootMarked
import StylePrune.Proofs.Prune.Answers
import StylePrune.Proofs.Prune.RootProperties
import StylePrune.Proofs.Prune.Safelist
import StylePrune.Proofs.Prune.Together

/-!
# Pruning a pruned style sheet

What is written of a tree whose tokens are steady is read back as the tree in its written form
(`Writable.unplaced_of_read`). That form changes none of the tests that pruning makes but the search
of selectors for `:root`, which looks into comments too. So pruning gives back what pruning wrote,
unless it minified a rule that stayed for a comment only (`pruneCss_again`).
-/

namespace StylePrune.Css

/-! ## Steady tokens -/

/-- Whether tokens are written so that they are read back: all brackets are written, nothing is
damaged, and no neighbours clash. When they are to be minified, neighbours must not clash without
the blanks between them either. -/
def isSteady (minify : Bool) (ts : List Token) : Bool :=
  allExplicit ts && (lexemesOf ts).all Lexeme.isFirm &&
    allNeighbours (fun a b => !a.clash b) (lexemesOf ts) &&
      (!minify || isApart ts && eachRoomy ts)

/-- The form in which a tree is written. -/
def writtenForm (minify : Bool) : Form := if minify then tightForm else plainForm

/-- Tokens that are legible in the form in which they are written. -/
def Steady (minify : Bool) (ts : List Token) : Prop := if minify then Roomy ts else Legible ts

variable {minify : Bool} {ts : List Token} {ns : List Node}

theorem Steady.legible (h : Steady minify ts) : Legible ts := by
  cases minify with
  | false => exact h
  | true => exact Roomy.legible h

theorem hereditary_steady : Hereditary (Steady minify) := by
  cases minify with
  | false => exact hereditary_legible
  | true => exact hereditary_roomy

theorem lawful_writtenForm : (writtenForm minify).Lawful := by
  cases minify with
  | false => exact plain_lawful
  | true => exact tight_lawful

theorem writtenForm_shows : (writtenForm minify).Shows (Steady minify) := by
  cases minify with
  | false => exact plain_shows
  | true => exact tight_shows

theorem steady_tokenize {css : List Char} (h : tokenize css = .ok ts)
    (hsteady : isSteady minify ts = true) : Steady minify ts := by
  simp only [isSteady, Bool.and_eq_true] at hsteady
  obtain ⟨⟨⟨hexplicit, hfirm⟩, hclash⟩, hroomy⟩ := hsteady
  rw [allNeighbours_iff] at hclash
  have hlegible := legible_tokenize h hexplicit (List.all_eq_true.1 hfirm) (by simpa using hclash)
  cases minify with
  | false => exact hlegible
  | true =>
    obtain ⟨hapart, heach⟩ := Bool.and_eq_true_iff.1 hroomy
    exact ⟨hlegible, isApart_iff.1 hapart, heach⟩

theorem parts_legible (h : Parts (Steady minify) ns) : Parts Legible ns :=
  fun m hm => ⟨(h m hm).1.legible, (h m hm).2.legible⟩

/-! ## What is written is read back -/

theorem written_eq (h : Parts Legible ns) :
    written minify ns = textOf (nodesTokens (formed (writtenForm minify) ns)) := by
  cases minify with
  | false => exact (generateAll_plain h).symm
  | true => exact generateAll_tight ns

/-- A tree that reading gives and that can be written so that it is read back. -/
structure Writable (minify : Bool) (ns : List Node) : Prop where
  readable : areReadable true ns = true
  parts : Parts (Steady minify) ns

theorem Writable.removeWhere (h : Writable minify ns) (p : Node → Bool) :
    Writable minify (Css.removeWhere p false ns) :=
  ⟨readable_removeWhere ns true false h.readable, parts_removeWhere h.parts false⟩

theorem writable_read {css : List Char} {s : Sheet} (h : read css = .ok s)
    (hsteady : ∀ ts, tokenize css = .ok ts → isSteady minify ts = true) : Writable minify s := by
  obtain ⟨-, ts, hts, hn⟩ := read_inv h
  exact ⟨Reading.readable_nodes true .nothing ts s hn trivial,
    Reading.parts_nodes hereditary_steady true .nothing ts s hn
      (steady_tokenize hts (hsteady ts hts))⟩

namespace Writable

variable (h : Writable minify ns)
include h

theorem legible : Legible (nodesTokens (formed (writtenForm minify) ns)) :=
  legible_formed lawful_writtenForm writtenForm_shows h.readable h.parts

theorem nodes_eq : Reading.nodes true .nothing (nodesTokens (formed (writtenForm minify) ns)) =
    .ok (formed (writtenForm minify) ns) :=
  nodes_formed lawful_writtenForm h.readable

/-- Written again, the written form gives the same text. -/
theorem written_formed :
    written minify (formed (writtenForm minify) ns) = written minify ns := by
  have hparts : Parts Legible (formed (writtenForm minify) ns) :=
    Reading.parts_nodes hereditary_legible true .nothing _ _ h.nodes_eq h.legible
  rw [written_eq hparts, formed_formed lawful_writtenForm, written_eq (parts_legible h.parts)]

variable {text : String} (htext : Text.ofString text = written minify ns)
include htext

theorem exists_tokenize : ∃ ts, tokenize text.toList = .ok ts ∧
    unplacedTokens ts = unplacedTokens (nodesTokens (formed (writtenForm minify) ns)) := by
  rw [written_eq (parts_legible h.parts)] at htext
  obtain ⟨ts, hts, heq⟩ := bare_tokenize (bare_legible h.legible htext.symm)
  exact ⟨ts, hts, by rw [heq, tokensOf_lexemesOf h.legible.explicit]⟩

/-- What is written is read back in the written form. -/
theorem unplaced_of_read {s : Sheet} (hs : read text.toList = .ok s) :
    s.unplaced = Sheet.unplaced (formed (writtenForm minify) ns) := by
  obtain ⟨ts, hts, heq⟩ := h.exists_tokenize htext
  obtain ⟨-, ts', hts', hn⟩ := read_inv hs
  obtain rfl := Except.ok.inj (hts.symm.trans hts')
  have hread := Reading.nodes_unplaced true .nothing ts
  rw [hn, heq, Reading.nodes_unplaced true .nothing, h.nodes_eq] at hread
  exact (Option.some.inj hread).symm

end Writable

/-! ## What pruning looks at -/

/-- A rule with its comments turned into spaces. -/
def Rule.stripComments (r : Rule) : Rule := ⟨stripTokens r.selector, stripTokens r.content⟩

theorem outline_stripTokens (ts : List Token) : outline (stripTokens ts) = outline ts := by
  induction ts with
  | nil => rfl
  | cons t ts ih =>
    cases h : t.isBlank with
    | true =>
      rw [stripTokens, outline_blank (by rw [Token.isBlank_stripComments, h]), ih,
        outline_blank h]
    | false =>
      have hbare : t.stripComments.bare = t.bare := by
        cases t with
        | leaf p l =>
          cases l with
          | comment => cases h
          | _ => rfl
        | block | function => rfl
      rw [stripTokens, outline_cons (by rw [Token.isBlank_stripComments, h]), hbare, ih,
        outline_cons h]

theorem split_stripTokens (ts : List Token) :
    Rule.selectors.split (stripTokens ts) = (Rule.selectors.split ts).map stripTokens := by
  induction ts with
  | nil => rfl
  | cons t ts ih =>
    rw [stripTokens, Rule.selectors.split, Rule.selectors.split, Token.isLiteral_stripComments, ih]
    split
    · rfl
    · cases Rule.selectors.split ts <;> rfl

mutual

theorem classNamesOf_stripComments : ∀ (t : Token) (dotted : Bool),
    classNamesOf dotted t.stripComments = classNamesOf dotted t
  | .leaf p l, _ => by cases l <;> rfl
  | .block _ .paren content _, _ => by
    rw [Token.stripComments, classNamesOf, classNamesOf, classNamesAfter_stripTokens content]
  | .block _ .square _ _, _ | .block _ .curly _ _, _ => rfl
  | .function _ _ arguments _, _ => by
    rw [Token.stripComments, classNamesOf, classNamesOf, classNamesAfter_stripTokens arguments]

theorem classNamesAfter_stripTokens : ∀ (ts : List Token) (dotted : Bool),
    classNamesAfter dotted (stripTokens ts) = classNamesAfter dotted ts
  | [], _ => rfl
  | t :: rest, dotted => by
    rw [stripTokens, classNamesAfter, classNamesOf_stripComments t, Token.isLiteral_stripComments,
      classNamesAfter_stripTokens rest, classNamesAfter]

end

theorem selectors_stripComments (r : Rule) :
    r.stripComments.selectors.map classNames = r.selectors.map classNames := by
  rw [Rule.selectors, Rule.selectors, Rule.stripComments, split_stripTokens, List.filter_map,
    List.map_map]
  have hsolid (ts : List Token) :
      (stripTokens ts).any (fun t => !t.isBlank) = ts.any fun t => !t.isBlank := by
    induction ts with
    | nil => rfl
    | cons t ts ih =>
      rw [stripTokens, List.any_cons, Token.isBlank_stripComments, ih, List.any_cons]
  refine (List.map_congr_left fun ts _ => classNamesAfter_stripTokens ts false).trans ?_
  exact congrArg _ (List.filter_congr fun ts _ => hsolid ts)

theorem CustomProperties.find_outline (ts : List Token) (expecting : Expecting) :
    find expecting (outline ts) = find expecting ts := by
  induction ts generalizing expecting with
  | nil => rfl
  | cons t ts ih =>
    cases h : t.isBlank with
    | true => rw [outline_blank h, ih, find_blank h]
    | false =>
      rw [outline_cons h]
      cases expecting with
      | colon | rest => simp only [find, Token.isBlank_bare, Token.isLiteral_bare, ih]
      | declaration =>
        simp only [find, Token.isBlank_bare, Token.isLiteral_bare, ih]
        rcases t with ⟨p, l⟩ | _ | _
        · cases l with
          | ident name => rcases name with _ | ⟨q, _ | ⟨q', name⟩⟩ <;> rfl
          | _ => rfl
        · rfl
        · rfl

/-- What a block declares can be told from its outline. -/
theorem declaresCustomProperty_congr {ts us : List Token} (h : outline ts = outline us) :
    declaresCustomProperty ts = declaresCustomProperty us := by
  rw [declaresCustomProperty, ← CustomProperties.find_outline, h, CustomProperties.find_outline]
  rfl

/-! ## Rules of a tree -/

mutual

theorem Node.mem_placed {r : Rule} : ∀ (n : Node) (above : List Enclosing),
    r ∈ (n.placed above).map (·.2) ↔ .rule r = n ∨ Occurs (.rule r) n.children
  | .rule r', above => by
    simp [Node.placed, Node.children, not_occurs_nil]
  | .ruleBlock keyword prelude children, above => by
    rw [Node.placed, mem_placedFrom children]
    simp [Node.children]
  | .whitespace _, _ | .comment _, _ | .statement .., _ | .rawBlock .., _ => by
    simp [Node.placed, Node.children, not_occurs_nil]

theorem mem_placedFrom {r : Rule} : ∀ (ns : List Node) (above : List Enclosing),
    r ∈ (placedFrom above ns).map (·.2) ↔ Occurs (.rule r) ns
  | [], _ => iff_of_false List.not_mem_nil not_occurs_nil
  | n :: rest, above => by
    rw [placedFrom, List.map_append, List.mem_append, Node.mem_placed n, mem_placedFrom rest,
      occurs_cons, or_assoc]

end

end StylePrune.Css

namespace StylePrune

open Css (Sheet Node Rule Occurs Form Writable writtenForm)

namespace Prune

variable {u : Usage} {s : Sheet} {r r' : Rule} {f : Form}

theorem mem_rules : r ∈ rules s ↔ Occurs (.rule r) s := by
  rw [rules_eq]
  exact Css.mem_placedFrom s []

/-! ## Rules in their written form -/

/-- A rule stays where one stays that names the same classes and declares the same properties, if
its selector shows `:root` as well. -/
theorem keeps_of_root (hnames : r'.selectors.map Css.classNames = r.selectors.map Css.classNames)
    (hcontent : Css.declaresCustomProperty r'.content = Css.declaresCustomProperty r.content)
    (hroot : Css.rootMark <:+: r.selectorText → Css.rootMark <:+: r'.selectorText)
    (h : keeps u r = true) : keeps u r' = true := by
  have hused (r : Rule) : r.selectors.any (selectorUsed u) =
      (r.selectors.map Css.classNames).any fun names => names.isEmpty || names.any u.uses := by
    rw [List.any_map]
    rfl
  rw [keeps, hused, declaresRootProperties, Bool.or_eq_true, Bool.and_eq_true, occursIn_iff]
    at h ⊢
  rw [hnames, hcontent]
  exact h.imp_left (And.imp_left hroot)

theorem selectorText_plain (h : Css.Legible r.selector) :
    (Rule.mk (Css.parted r.selector) (Css.parted r.content)).selectorText = r.selectorText := by
  have hparted : Css.Legible (Css.parted r.selector) := Css.plain_shows.selector h
  have hagain : Css.parted (Css.parted r.selector) = Css.parted r.selector :=
    Css.partedAfter_again r.selector none
  rw [Rule.selectorText, ← Css.textOf_parted hparted, hagain, Css.textOf_parted h,
    Rule.selectorText]

/-- A selector that shows `:root` without its comments shows it when it is minified. -/
theorem infix_minified (h : Css.Roomy r.selector)
    (hroot : Css.rootMark <:+: r.stripComments.selectorText) :
    Css.rootMark <:+: (Rule.mk (Css.tightSelector r.selector)
      (Css.tightContent r.content)).selectorText := by
  have hsound := h.legible.sound
  rw [Css.infix_selectorText_iff (Css.sound_stripTokens _ hsound)] at hroot
  rw [Css.infix_selectorText_iff (Css.tight_shows.selector h).sound]
  exact Css.showsRoot_of_marksRoot _
    (Css.marksRoot_tightSelector (Css.marksRoot_of_stripTokens _ hsound hroot))

/-- A rule that stays does so in its written form, if it stays without its comments where these are
left out. -/
theorem keeps_written {minify : Bool} (h : Css.Steady minify r.selector) (hk : keeps u r = true)
    (hbare : minify = true → keeps u r.stripComments = true) :
    keeps u ⟨(writtenForm minify).selector r.selector, (writtenForm minify).content r.content⟩ =
      true := by
  have hlawful := @Css.lawful_writtenForm minify
  have hnames := Css.selectors_formed hlawful r
  have hcontent := Css.declaresCustomProperty_congr (hlawful.content.outline r.content)
  cases minify with
  | false =>
    refine keeps_of_root hnames hcontent (fun hroot => ?_) hk
    exact (selectorText_plain h).symm ▸ hroot
  | true =>
    refine keeps_of_root (hnames.trans (Css.selectors_stripComments r).symm) ?_ (infix_minified h)
      (hbare rfl)
    exact hcontent.trans (Css.declaresCustomProperty_congr (Css.outline_stripTokens r.content)).symm

/-! ## Trees in their written form -/

/-- What is left of a tree is what was there, thinned out, and it is neither unused nor emptied. -/
theorem exists_of_occurs_sheet {n : Node} (h : Occurs n (sheet u s)) :
    isEmptied n = false ∧ ∀ r, n = .rule r → keeps u r = true ∧ r ∈ rules s := by
  obtain ⟨hemptied, n', hn', rfl⟩ := Css.exists_of_occurs_removeWhere _ h
  obtain ⟨hunused, m, hm, rfl⟩ := Css.exists_of_occurs_removeWhere _ hn'
  refine ⟨hemptied, fun r hr => ?_⟩
  cases m with
  | rule r' =>
    obtain rfl := Node.rule.inj hr
    exact ⟨by simpa [Node.removeWhere, isUnused] using hunused, mem_rules.2 hm⟩
  | _ => cases hr

/-- Of a pruned tree in a lawful form nothing is taken out, if its rules stay in that form. -/
theorem sheet_formed (h : f.Lawful)
    (hkeeps : ∀ r, Occurs (.rule r) (sheet u s) →
      keeps u ⟨f.selector r.selector, f.content r.content⟩ = true) :
    sheet u (Css.formed f (sheet u s)) = Css.formed f (sheet u s) := by
  have hrules : removeRules u (Css.formed f (sheet u s)) = Css.formed f (sheet u s) := by
    refine Css.removeWhere_of_forall _ fun m hm => ?_
    rcases Css.occurs_formed h.siblings hm with hspace | ⟨n, hn, rfl⟩
    · cases m with
      | whitespace => rfl
      | _ => cases hspace
    · cases n with
      | rule r => simp [Node.formed, isUnused, hkeeps r hn]
      | _ => rfl
  rw [sheet, hrules]
  refine Css.removeWhere_of_forall _ fun m hm => ?_
  rcases Css.occurs_formed h.siblings hm with hspace | ⟨n, hn, rfl⟩
  · cases m with
    | whitespace => exact Bool.and_false _
    | _ => cases hspace
  · rw [isEmptied, isPreserved, Node.name_formed, Node.isEmptyBlock_formed h]
    exact (exists_of_occurs_sheet hn).1

/-- Only classes of the tree are named in a lawful form of what is left of it. -/
theorem named_of_formed (h : f.Lawful) {name : Text} (hn : Named (Css.formed f (sheet u s)) name) :
    Named s name := by
  obtain ⟨x, hx, hname⟩ := hn
  have hmem : Occurs (.rule x.2) (Css.formed f (sheet u s)) :=
    (Css.mem_placedFrom _ []).1 (List.mem_map_of_mem hx)
  rcases Css.occurs_formed h.siblings hmem with hspace | ⟨n, hn, heq⟩
  · cases hspace
  · cases n with
    | rule r =>
      have hsame : (Rule.mk (f.selector r.selector) (f.content r.content)).classNames =
          r.classNames := by
        rw [Rule.classNames, List.flatMap_def, Css.selectors_formed h, Rule.classNames,
          List.flatMap_def]
      rw [Node.rule.inj heq, hsame] at hname
      have hr := ((exists_of_occurs_sheet hn).2 r rfl).2
      rw [rules_eq] at hr
      obtain ⟨y, hy, rfl⟩ := List.mem_map.1 hr
      exact ⟨y, hy, hname⟩
    | _ => cases heq

end Prune

variable {u : Usage} {s s' : Sheet} {minify : Bool} {size : Nat} {result : PruneResult}

/-- A tree that was read of what pruning wrote is pruned to the same text. -/
theorem pruneSheet_again {css css' : List Char} (h : pruneSheet u minify size s = .ok result)
    (hw : Writable minify (Prune.sheet u s)) (hs : Css.read css = .ok s)
    (hs' : Css.read css' = .ok s')
    (hform : s'.unplaced = Sheet.unplaced (Css.formed (writtenForm minify) (Prune.sheet u s)))
    (hfixed : Prune.sheet u (Css.formed (writtenForm minify) (Prune.sheet u s)) =
      Css.formed (writtenForm minify) (Prune.sheet u s)) (size' : Nat) :
    ∃ again, pruneSheet u minify size' s' = .ok again ∧ again.css = result.css := by
  have htext : Css.written minify (Prune.sheet u s') = Text.ofString result.css := by
    rw [← Css.written_unplaced, ← Prune.sheet_unplaced, hform, Prune.sheet_unplaced, hfixed,
      Css.written_unplaced, hw.written_formed, css_written h]
  have hok : (pruneSheet u minify size' s').isOk = true := by
    refine pruneSheet_isOk.2 ⟨fun name hname => ?_, by rw [htext, Text.isPlain_ofString]⟩
    have hnamed := (Prune.mem_classNamesOf hs' name).1 hname
    rw [Prune.named_iff, hform, ← Prune.named_iff] at hnamed
    have hbefore := (Prune.mem_classNamesOf hs name).2
      (Prune.named_of_formed Css.lawful_writtenForm hnamed)
    exact (pruneSheet_isOk.1 (by rw [h]; rfl)).1 name hbefore
  cases hagain : pruneSheet u minify size' s' with
  | error e => rw [hagain] at hok; cases hok
  | ok again =>
    exact ⟨again, rfl, Prune.ofString_injective ((css_written hagain).trans htext)⟩

/-- What pruning wrote of a tree is pruned to the same text. -/
theorem pruneCss_written {css : String} {scan : Scan} {options : PruneOptions}
    (hu : usageOf scan options = .ok u) (hs : Css.read css.toList = .ok s)
    (h : pruneSheet u options.minify size s = .ok result)
    (hsteady : ∀ ts, Css.tokenize css.toList = .ok ts → Css.isSteady options.minify ts = true)
    (hbare : options.minify = true →
      ∀ r ∈ Prune.rules s, Prune.keeps u r = true → Prune.keeps u r.stripComments = true) :
    ∃ again, pruneCss result.css scan options = .ok again ∧ again.css = result.css := by
  have hw : Writable options.minify (Prune.sheet u s) :=
    ((Css.writable_read hs hsteady).removeWhere (Prune.isUnused u)).removeWhere Prune.isEmptied
  have hfixed := Prune.sheet_formed (@Css.lawful_writtenForm options.minify) fun r hr => by
    obtain ⟨hkept, hrule⟩ := (Prune.exists_of_occurs_sheet hr).2 r rfl
    exact Prune.keeps_written (hw.parts _ hr).1 hkept fun hm => hbare hm r hrule hkept
  obtain ⟨ts, hts, -⟩ := hw.exists_tokenize (css_written h)
  cases hs' : Css.read result.css.toList with
  | ok s' =>
    rw [pruneCss_eq hu hs']
    exact pruneSheet_again h hw hs hs' (hw.unplaced_of_read (css_written h) hs') hfixed _
  | error e =>
    cases e with
    | broken e => exact ⟨_, pruneCss_broken hu hs', rfl⟩
    | integerTooLong digits => exact absurd hs' (Css.read_ne_of_tokenize hts digits)

/-- Pruning is idempotent on style sheets whose tokens are steady, with one exception: a rule that
stays must stay without its comments too if the result is minified. A text that is no style sheet is
given back as it is, so nothing is asked of it. -/
theorem pruneCss_again {css : String} {scan : Scan} {options : PruneOptions} {result : PruneResult}
    (h : pruneCss css scan options = .ok result)
    (hsteady : ∀ s ts, Css.read css.toList = .ok s → Css.tokenize css.toList = .ok ts →
      Css.isSteady options.minify ts = true)
    (hbare : options.minify = true → ∀ s u, Css.read css.toList = .ok s →
      usageOf scan options = .ok u →
        ∀ r ∈ Prune.rules s, Prune.keeps u r = true → Prune.keeps u r.stripComments = true) :
    ∃ again, pruneCss result.css scan options = .ok again ∧ again.css = result.css := by
  obtain ⟨u, hu⟩ : ∃ u, usageOf scan options = .ok u := by
    cases hu : usageOf scan options with
    | ok u => exact ⟨u, rfl⟩
    | error e => rw [pruneCss, hu] at h; cases h
  cases hs : Css.read css.toList with
  | ok s =>
    rw [pruneCss_eq hu hs] at h
    exact pruneCss_written hu hs h (fun ts => hsteady s ts hs) fun hm => hbare hm s u hs hu
  | error e =>
    cases e with
    | broken e =>
      obtain rfl := Except.ok.inj ((pruneCss_broken hu hs).symm.trans h)
      exact ⟨_, h, rfl⟩
    | integerTooLong digits => rw [pruneCss, hu, hs] at h; cases h

/-- Minified text is minified already. Its comments are gone, and the rule that had `:root` in one
of them shows it without. -/
theorem pruneCss_again_minified :
    ∃ result again,
      pruneCss ("a > .b , .c\x7bd : e;--f:'g' \x7d/*h*/\n" ++
        "@media x \x7b .i\x7b\x7d .j:root/*:root*/\x7b--k:1px+2\x7d \x7d")
        { classes := ["b"] } { minify := true } = .ok result ∧
      pruneCss result.css { classes := ["b"] } { minify := true } = .ok again ∧
      again.css = result.css ∧
      result.css = "a>.b,.c\x7bd:e;--f:\"g\"\x7d@media x\x7b.j:root\x7b--k:1px+2\x7d\x7d" := by
  generalize hcss : "a > .b , .c\x7bd : e;--f:'g' \x7d/*h*/\n" ++
    "@media x \x7b .i\x7b\x7d .j:root/*:root*/\x7b--k:1px+2\x7d \x7d" = css
  have hsteady : (Css.tokenize css.toList).toOption.all (Css.isSteady true) = true := by
    subst hcss
    decide +kernel
  have hbare : (Css.read css.toList).toOption.all (fun s => (Prune.rules s).all fun r =>
      !Prune.keeps ⟨["b"], []⟩ r || Prune.keeps ⟨["b"], []⟩ r.stripComments) = true := by
    subst hcss
    decide +kernel
  have hpruned : (pruneCss css { classes := ["b"] } { minify := true }).map (·.css) =
      .ok "a>.b,.c\x7bd:e;--f:\"g\"\x7d@media x\x7b.j:root\x7b--k:1px+2\x7d\x7d" := by
    subst hcss
    decide +kernel
  obtain ⟨result, hresult, htext⟩ := Outcome.map_eq_ok.1 hpruned
  obtain ⟨again, hagain, hsame⟩ := pruneCss_again hresult
    (fun s ts _ hts => by
      rw [hts] at hsteady
      exact hsteady)
    (fun _ s u hs hu r hr hk => by
      obtain rfl : Usage.mk ["b"] [] = u := Except.ok.inj hu
      rw [hs] at hbare
      have hall := List.all_eq_true.1 hbare r hr
      rw [hk] at hall
      exact hall)
  exact ⟨result, again, hresult, hagain, hsame, htext⟩

/-- A rule that stayed for a comment goes when the minified text is pruned. -/
theorem pruneCss_again_comment :
    ∃ result again,
      pruneCss ".x/*:root*/\x7b--b:1\x7d" {} { minify := true } = .ok result ∧
      pruneCss result.css {} { minify := true } = .ok again ∧
      result.css = ".x\x7b--b:1\x7d" ∧ again.css = "" := by
  have hfirst : (pruneCss ".x/*:root*/\x7b--b:1\x7d" {} { minify := true }).map (·.css) =
      .ok ".x\x7b--b:1\x7d" := by decide +kernel
  have hsecond : (pruneCss ".x\x7b--b:1\x7d" {} { minify := true }).map (·.css) = .ok "" := by
    decide +kernel
  obtain ⟨result, hresult, hcss⟩ := Outcome.map_eq_ok.1 hfirst
  obtain ⟨again, hagain, hempty⟩ := Outcome.map_eq_ok.1 hsecond
  exact ⟨result, again, hresult, hcss ▸ hagain, hcss, hempty⟩

/-- A string that the end of the text breaks off takes in the semicolon that is put behind it. -/
example : (pruneCss "@import \"y;" {} {}).map (·.css) = .ok "@import \"y;;" := by
  decide +kernel

end StylePrune
