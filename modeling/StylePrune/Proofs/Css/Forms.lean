import StylePrune.Css.Selector
import StylePrune.Proofs.Css.Headed

/-!
# Written forms of a tree

A tree is written in a form: each list of tokens in it is rewritten, and so are the nodes that stand
side by side. A form is lawful if rewriting changes blanks only, and changes nothing when it is done
again. Then the rewritten tree is read back from its tokens (`nodes_formed`), its rules name the
same classes (`selectors_formed`), and its blocks are as empty as they were (`isEmptyBlock_formed`).
If its parts are legible, so is the tree (`legible_formed`).
-/

namespace StylePrune.Css

/-- How the parts of a tree are rewritten. -/
structure Form where
  selector : List Token → List Token
  prelude : List Token → List Token
  content : List Token → List Token
  /-- The nodes of one list. -/
  siblings : List Node → List Node

section

variable (f : Form)

mutual

def Node.formed : Node → Node
  | .rule r => .rule ⟨f.selector r.selector, f.content r.content⟩
  | .statement keyword prelude => .statement keyword (f.prelude prelude)
  | .rawBlock keyword prelude content =>
    .rawBlock keyword (f.prelude prelude) (f.content content)
  | .ruleBlock keyword prelude children =>
    .ruleBlock keyword (f.prelude prelude) (f.siblings (formedEach children))
  | .whitespace text => .whitespace text
  | .comment text => .comment text

def formedEach : List Node → List Node
  | [] => []
  | n :: rest => n.formed :: formedEach rest

end

/-- The tree in some form. -/
def formed (ns : List Node) : List Node := f.siblings (formedEach f ns)

end

/-- Tokens are rewritten in their blanks only, and once. -/
structure Tidies (g : List Token → List Token) : Prop where
  outline : ∀ ts, outline (g ts) = outline ts
  again : ∀ ts, g (g ts) = g ts

/-- Nodes of one list are rewritten in their blanks only, and once, so that no two of them are white
space that stands side by side. -/
structure Arranges (g : List Node → List Node) : Prop where
  mem : ∀ {ns m}, m ∈ g ns → m ∈ ns ∨ m.isWhitespace = true
  legible : ∀ {ns}, (∀ n ∈ ns, Legible n.tokens) → ∀ m ∈ g ns, Legible m.tokens
  again : ∀ ns, g (g ns) = g ns
  blank : ∀ ns, (g ns).all Node.isBlank = ns.all Node.isBlank
  apart : ∀ ns, (g ns).IsChain fun m n => (m.isWhitespace && n.isWhitespace) = false

structure Form.Lawful (f : Form) : Prop where
  selector : Tidies f.selector
  prelude : Tidies f.prelude
  content : Tidies f.content
  siblings : Arranges f.siblings
  /-- A selector starts with the same token as before. -/
  starts : ∀ t ts, t.isBlank = false → (f.selector (t :: ts)).head?.map Token.bare = some t.bare
  /-- A selector list is parted where it was before. -/
  split : ∀ ts, Rule.selectors.split (f.selector ts) = (Rule.selectors.split ts).map f.selector
  classNames : ∀ ts, classNames (f.selector ts) = classNames ts

/-- Parts of a tree with a property are legible in a form. -/
structure Form.Shows (f : Form) (P : List Token → Prop) : Prop where
  legible : ∀ {ts}, P ts → Legible ts
  selector : ∀ {ts}, P ts → Legible (f.selector ts)
  prelude : ∀ {keyword ts}, P (atKeyword keyword :: ts) →
    Legible (atKeyword keyword :: f.prelude ts)
  content : ∀ {ts}, P ts → Legible (f.content ts)

variable {f : Form} {g : List Token → List Token}

theorem formedEach_eq (ns : List Node) : formedEach f ns = ns.map (Node.formed f) := by
  induction ns with
  | nil => rfl
  | cons n ns ih => rw [formedEach, ih, List.map_cons]

@[simp] theorem Node.isBlank_formed (n : Node) : (n.formed f).isBlank = n.isBlank := by
  cases n <;> rfl

@[simp] theorem Node.isWhitespace_formed (n : Node) :
    (n.formed f).isWhitespace = n.isWhitespace := by
  cases n <;> rfl

theorem Node.name_formed (n : Node) : (n.formed f).name = n.name := by cases n <;> rfl

theorem Node.formed_whitespace {n : Node} (h : n.isWhitespace = true) : n.formed f = n := by
  cases n with
  | whitespace => rfl
  | _ => cases h

theorem exists_of_mem_formed (h : Arranges f.siblings) {ns : List Node} {m : Node}
    (hm : m ∈ formed f ns) : m.isWhitespace = true ∨ ∃ n ∈ ns, m = n.formed f := by
  rw [formed, formedEach_eq] at hm
  rcases h.mem hm with hm | hm
  · obtain ⟨n, hn, rfl⟩ := List.mem_map.1 hm
    exact .inr ⟨n, hn, rfl⟩
  · exact .inl hm

theorem areReadable_siblings {s : List Node → List Node} (h : Arranges s) {top : Bool}
    {ns : List Node} (hns : areReadable top ns = true) : areReadable top (s ns) = true := by
  rw [areReadable_iff] at hns ⊢
  intro m hm
  rcases h.mem hm with hm | hspace
  · exact hns m hm
  · cases m with
    | whitespace => rfl
    | _ => cases hspace

/-! ## The same tree -/

theorem formedEach_of_forall {ns : List Node} (h : ∀ n ∈ ns, n.formed f = n) :
    formedEach f ns = ns := by
  rw [formedEach_eq]
  exact (List.map_congr_left h).trans (List.map_id' ns)

theorem formed_again (h : Arranges f.siblings) {ns : List Node}
    (heach : ∀ n ∈ ns, (n.formed f).formed f = n.formed f) :
    formed f (formed f ns) = formed f ns := by
  have hfixed : formedEach f (formed f ns) = formed f ns := by
    refine formedEach_of_forall fun m hm => ?_
    rcases exists_of_mem_formed h hm with hspace | ⟨n, hn, rfl⟩
    · exact Node.formed_whitespace hspace
    · exact heach n hn
  rw [formed, hfixed, formed, h.again]

mutual

theorem Node.formed_formed (h : f.Lawful) : ∀ n : Node, (n.formed f).formed f = n.formed f
  | .whitespace _ | .comment _ => rfl
  | .rule r => by simp only [Node.formed, h.selector.again, h.content.again]
  | .statement .. => by simp only [Node.formed, h.prelude.again]
  | .rawBlock .. => by simp only [Node.formed, h.prelude.again, h.content.again]
  | .ruleBlock keyword prelude children => by
    have hchildren := formed_again h.siblings (formedEach_formed h children)
    rw [formed, formed] at hchildren
    simp only [Node.formed, h.prelude.again, hchildren]

theorem formedEach_formed (h : f.Lawful) : ∀ (ns : List Node), ∀ n ∈ ns,
    (n.formed f).formed f = n.formed f
  | [] => List.forall_mem_nil _
  | n :: rest => List.forall_mem_cons.2 ⟨Node.formed_formed h n, formedEach_formed h rest⟩

end

/-- A form changes nothing in a tree that has it. -/
theorem formed_formed (h : f.Lawful) (ns : List Node) : formed f (formed f ns) = formed f ns :=
  formed_again h.siblings (formedEach_formed h ns)

/-! ## Nodes of the tree -/

theorem exists_of_occurs_formed (h : Arranges f.siblings) {m : Node} {ms : List Node}
    (hm : Occurs m ms) : ∀ ns, ms = formed f ns →
      m.isWhitespace = true ∨ ∃ n, Occurs n ns ∧ m = n.formed f := by
  induction hm with
  | here hm =>
    rintro ns rfl
    rcases exists_of_mem_formed h hm with hspace | ⟨n, hn, e⟩
    · exact .inl hspace
    · exact .inr ⟨n, .here hn, e⟩
  | within hblock _ ih =>
    rintro ns rfl
    rcases exists_of_mem_formed h hblock with hspace | ⟨n, hn, e⟩
    · cases hspace
    · cases n with
      | ruleBlock keyword prelude children =>
        rcases ih children (Node.ruleBlock.inj e).2.2 with hspace | ⟨n', hn', e'⟩
        · exact .inl hspace
        · exact .inr ⟨n', .within hn hn', e'⟩
      | _ => cases e

/-- What stands in the rewritten tree is rewritten from what stood in the tree, or white space. -/
theorem occurs_formed (h : Arranges f.siblings) {m : Node} {ns : List Node}
    (hm : Occurs m (formed f ns)) :
    m.isWhitespace = true ∨ ∃ n, Occurs n ns ∧ m = n.formed f :=
  exists_of_occurs_formed h hm ns rfl

theorem Tidies.all (h : Tidies g) {p : Token → Bool} (hbare : ∀ t : Token, p t.bare = p t)
    (hblank : ∀ t : Token, t.isBlank = true → p t = true) (ts : List Token) :
    (g ts).all p = ts.all p := by
  rw [← all_outline hbare hblank (g ts), h.outline, all_outline hbare hblank]

/-- Blocks are as empty as before. -/
theorem Node.isEmptyBlock_formed (h : f.Lawful) (n : Node) :
    (n.formed f).isEmptyBlock = n.isEmptyBlock := by
  cases n with
  | rawBlock keyword prelude content =>
    exact h.content.all Token.isBlank_bare (fun _ ht => ht) content
  | ruleBlock keyword prelude children =>
    have heach : (formedEach f children).all isBlank = children.all isBlank := by
      simp [formedEach_eq, List.all_map, Function.comp_def]
    exact (h.siblings.blank _).trans heach
  | _ => rfl

/-! ## Classes -/

theorem any_outline (ts : List Token) : (outline ts).isEmpty = !ts.any (!·.isBlank) := by
  induction ts with
  | nil => rfl
  | cons t ts ih =>
    cases h : t.isBlank with
    | true => rw [outline_blank h, ih, List.any_cons, h]; rfl
    | false => rw [outline_cons h, List.any_cons, h]; rfl

/-- The selectors of a rule name the same classes. -/
theorem selectors_formed (h : f.Lawful) (r : Rule) :
    (Rule.mk (f.selector r.selector) (f.content r.content)).selectors.map classNames =
      r.selectors.map classNames := by
  have hblank (ts : List Token) :
      (f.selector ts).any (fun t => !t.isBlank) = ts.any fun t => !t.isBlank := by
    have hempty := any_outline (f.selector ts)
    rw [h.selector.outline, any_outline] at hempty
    exact (Bool.not_inj hempty).symm
  rw [Rule.selectors, Rule.selectors, h.split, List.filter_map, List.map_map]
  refine (List.map_congr_left fun ts _ => h.classNames ts).trans ?_
  exact congrArg _ (List.filter_congr fun ts _ => hblank ts)

/-! ## Reading the tree back -/

theorem isPrelude_rewritten (h : Tidies g) (ts : List Token) : isPrelude (g ts) = isPrelude ts :=
  h.all (fun t => by simp)
    (fun t ht => by simp [Token.isCurly_of_isBlank ht, Token.isLiteral_of_isBlank ht]) ts

theorem isReadable_rule (h : f.Lawful) {top : Bool} {r : Rule}
    (hr : Node.isReadable top (.rule r) = true) :
    Node.isReadable top ((Node.rule r).formed f) = true := by
  obtain ⟨selector, content⟩ := r
  obtain ⟨hstart, hcurly⟩ := Bool.and_eq_true_iff.1 hr
  refine Bool.and_eq_true_iff.2 ⟨?_, ?_⟩
  · cases selector with
    | nil => cases hstart
    | cons t ts =>
      have ht : t.startsRule top = true := hstart
      have hblank : t.isBlank = false := by
        simp only [Token.startsRule, Bool.and_eq_true, Bool.not_eq_true'] at ht
        exact ht.1.1
      obtain ⟨u, hu, hbare⟩ := Option.map_eq_some_iff.1 (h.starts t ts hblank)
      rw [hu, Option.any_some, ← Token.startsRule_bare, hbare, Token.startsRule_bare, ht]
  · rw [h.selector.all (fun t => by simp) (fun t ht => by simp [Token.isCurly_of_isBlank ht])]
    exact hcurly

mutual

theorem Node.isReadable_formed (h : f.Lawful) : ∀ (n : Node) (top : Bool),
    n.isReadable top = true → (n.formed f).isReadable top = true
  | .whitespace _, _, _ | .comment _, _, _ => rfl
  | .rule r, top, hr => isReadable_rule h hr
  | .statement keyword prelude, top, hn => (isPrelude_rewritten h.prelude prelude).trans hn
  | .rawBlock keyword prelude content, top, hn => by
    have hok : (Reading.nodes false .nothing (f.content content)).isOk =
        (Reading.nodes false .nothing content).isOk := by
      rw [Reading.isOk_nodes false rfl, Reading.isOk_nodes false rfl, ← Reading.accepts_outline,
        h.content.outline, Reading.accepts_outline]
    rw [Node.formed, Node.isReadable, isPrelude_rewritten h.prelude, hok]
    exact hn
  | .ruleBlock keyword prelude children, top, hn => by
    obtain ⟨hhead, hchildren⟩ := Bool.and_eq_true_iff.1 hn
    rw [Node.formed, Node.isReadable, isPrelude_rewritten h.prelude, hhead]
    exact areReadable_siblings h.siblings (readable_formedEach h children false hchildren)

theorem readable_formedEach (h : f.Lawful) : ∀ (ns : List Node) (top : Bool),
    areReadable top ns = true → areReadable top (formedEach f ns) = true
  | [], _, _ => rfl
  | n :: rest, top, hns => by
    obtain ⟨hn, hrest⟩ := Bool.and_eq_true_iff.1 hns
    rw [formedEach, areReadable, Node.isReadable_formed h n top hn,
      readable_formedEach h rest top hrest]
    rfl

end

/-- A rewritten tree is read back from its tokens. -/
theorem nodes_formed (h : f.Lawful) {top : Bool} {ns : List Node}
    (hns : areReadable top ns = true) :
    Reading.nodes top .nothing (nodesTokens (formed f ns)) = .ok (formed f ns) :=
  Reading.nodes_nodesTokens top _
    (areReadable_siblings h.siblings (readable_formedEach h ns top hns))

/-! ## Legible trees -/

open Lexer (isQuiet hasEnd beside_of_isQuiet beside_of_hasEnd beside_delimiter beside_space)

theorem last_mem {ts : List Token} {t : Token} (h : t ∈ ts.getLast?) : t.last ∈ lexemesOf ts := by
  have hlast := getLast?_lexemesOf ts
  rw [h] at hlast
  exact List.mem_of_getLast? hlast

/-- Behind legible tokens other ones stand that start with a bracket or a semicolon. -/
theorem Legible.append_quiet {ts us : List Token} (ht : Legible ts) (hu : Legible us)
    (hquiet : ∀ u ∈ us.head?, isQuiet u.first = true ∧ u.first.isSpace = false) :
    Legible (ts ++ us) := by
  refine legible_append.2 ⟨ht, hu, fun t hlast u hhead => ?_⟩
  obtain ⟨hg, hf⟩ := ht.kept _ (last_mem hlast)
  exact beside_of_isQuiet hg hf (hquiet u hhead).1 (.inr (hquiet u hhead).2)

theorem legible_semicolon : Legible [semicolon] :=
  legible_leaf.2 ⟨.inr (.inr (.inr (.inr ⟨';', rfl, by decide, by decide⟩))), rfl⟩

theorem Legible.curly {ts content : List Token} (ht : Legible ts) (hc : Legible content) :
    Legible (ts ++ [curly content]) := by
  refine ht.append_quiet (legible_block.2 ⟨rfl, hc⟩) fun u hu => ?_
  obtain rfl := Option.some.inj hu
  exact ⟨rfl, rfl⟩

theorem Legible.semicolon {ts : List Token} (ht : Legible ts) : Legible (ts ++ [semicolon]) := by
  refine ht.append_quiet legible_semicolon fun u hu => ?_
  obtain rfl := Option.some.inj hu
  exact ⟨rfl, rfl⟩

/-- A node starts with white space just if it is white space. -/
theorem Node.isSpace_first {top : Bool} {n : Node} (h : n.isReadable top = true) {u : Token}
    {more : List Token} (hu : u ∈ (n.tokens ++ more).head?) : u.first.isSpace = n.isWhitespace := by
  cases n with
  | rule r =>
    obtain ⟨_ | ⟨t, ts⟩, content⟩ := r
    · cases h
    · obtain rfl : t = u := Option.some.inj hu
      have hstart : t.startsRule top = true := (Bool.and_eq_true_iff.1 h).1
      simp only [Token.startsRule, Bool.and_eq_true, Bool.not_eq_true'] at hstart
      cases t with
      | leaf p l =>
        cases l with
        | whitespace => cases hstart.1.1
        | _ => rfl
      | block | function => rfl
  | _ =>
    obtain rfl := Option.some.inj hu
    rfl

/-- Any node may stand behind another one, but for white space behind white space. -/
theorem Node.beside_last {n : Node} {t : Token} (ht : t ∈ n.tokens.getLast?) {b : Lexeme}
    (hb : n.isWhitespace = true → b.isSpace = false) : Beside t.last b := by
  have behind {ts : List Token} {u : Token} (h : t ∈ (ts ++ [u]).getLast?) : t = u := by
    rw [List.getLast?_concat] at h
    exact (Option.some.inj h).symm
  cases n with
  | whitespace text =>
    obtain rfl := Option.some.inj ht
    exact beside_space (hb rfl) text
  | comment text =>
    obtain rfl := Option.some.inj ht
    exact beside_of_hasEnd rfl b
  | statement =>
    obtain rfl := behind ht
    exact beside_delimiter (by decide) rfl
  | rule | rawBlock | ruleBlock =>
    obtain rfl := behind ht
    exact beside_of_hasEnd rfl b

theorem legible_nodesTokens {top : Bool} {ns : List Node} (hr : areReadable top ns = true)
    (h : ∀ n ∈ ns, Legible n.tokens)
    (hapart : ns.IsChain fun m n => (m.isWhitespace && n.isWhitespace) = false) :
    Legible (nodesTokens ns) := by
  induction ns with
  | nil => exact legible_nil
  | cons n ns ih =>
    obtain ⟨hn, hns⟩ := List.forall_mem_cons.1 h
    obtain ⟨-, hrest⟩ := Bool.and_eq_true_iff.1 hr
    obtain ⟨hnext, hchain⟩ := List.isChain_cons.1 hapart
    refine legible_append.2 ⟨hn, ih hrest hns hchain, fun t ht u hu => n.beside_last ht ?_⟩
    intro hspace
    cases ns with
    | nil => cases hu
    | cons m ms =>
      have hm := hnext m rfl
      rw [hspace, Bool.true_and] at hm
      rw [Node.isSpace_first (Bool.and_eq_true_iff.1 hrest).1 hu, hm]

variable {P : List Token → Prop}

theorem Arranges.legible_siblings {s : List Node → List Node} (h : Arranges s) {top : Bool}
    {ns : List Node} (hr : areReadable top ns = true) (hn : ∀ n ∈ ns, Legible n.tokens) :
    Legible (nodesTokens (s ns)) :=
  legible_nodesTokens (areReadable_siblings h hr) (h.legible hn) (h.apart ns)

mutual

theorem Node.legible_formed (h : f.Lawful) (hs : f.Shows P) : ∀ (n : Node) (top : Bool),
    n.isReadable top = true → P n.head → P n.body → Parts P n.children → Legible (n.formed f).tokens
  | .whitespace _, _, _, hhead, _, _ | .comment _, _, _, hhead, _, _ => hs.legible hhead
  | .rule r, _, _, hhead, hbody, _ => (hs.selector hhead).curly (hs.content hbody)
  | .statement .., _, _, hhead, _, _ => (hs.prelude hhead).semicolon
  | .rawBlock .., _, _, hhead, hbody, _ => (hs.prelude hhead).curly (hs.content hbody)
  | .ruleBlock _ _ children, _, hn, hhead, _, hchildren => by
    have hr := (Bool.and_eq_true_iff.1 hn).2
    exact (hs.prelude hhead).curly (h.siblings.legible_siblings
      (readable_formedEach h children false hr)
      (legible_formedEach h hs children false hr hchildren))

theorem legible_formedEach (h : f.Lawful) (hs : f.Shows P) : ∀ (ns : List Node) (top : Bool),
    areReadable top ns = true → Parts P ns → ∀ n ∈ formedEach f ns, Legible n.tokens
  | [], _, _, _ => List.forall_mem_nil _
  | n :: rest, top, hr, hp => by
    obtain ⟨hn, hrest⟩ := Bool.and_eq_true_iff.1 hr
    obtain ⟨⟨hhead, hbody⟩, hchildren, hparts⟩ := parts_cons.1 hp
    exact List.forall_mem_cons.2 ⟨Node.legible_formed h hs n top hn hhead hbody hchildren,
      legible_formedEach h hs rest top hrest hparts⟩

end

/-- A tree with legible parts is legible. -/
theorem legible_formed (h : f.Lawful) (hs : f.Shows P) {top : Bool} {ns : List Node}
    (hr : areReadable top ns = true) (hp : Parts P ns) : Legible (nodesTokens (formed f ns)) :=
  h.siblings.legible_siblings (readable_formedEach h ns top hr)
    (legible_formedEach h hs ns top hr hp)

end StylePrune.Css
