import StylePrune.Css.Generate
import StylePrune.Css.Walk
import StylePrune.Proofs.Css.Occurs
import StylePrune.Proofs.Css.Unplaced
import StylePrune.Proofs.Text.Utf8

/-!
# Trees up to white space

`sifted p` takes the nodes that satisfy `p` out of a tree and leaves the white space beside them
where it is. Up to white space (`Sheet.spaceless`) that is what a removal does, for a test that does
not look at white space (`spaceless_removeWhere`). Sifting twice is sifting once with the wider test
(`sifted_of_imp`), and a test that stays true of a thinned node may be applied at any time before
the last one (`sifted_early`).

The rules of a tree are those of the tree without its white space (`placed_eq`), and so is whether
what is written can be encoded: what is written of one tree and then another is plain just if both
parts are (`isPlain_written`).
-/

namespace StylePrune.Css

/-! ## Sifting -/

mutual

/-- A node without the nodes below it that satisfy `p`. -/
def Node.sifted (p : Node → Bool) : Node → Node
  | .ruleBlock keyword prelude nodes => .ruleBlock keyword prelude (sifted p nodes)
  | n => n

/-- Nodes without those that satisfy `p`, each judged without the nodes below it that do. -/
def sifted (p : Node → Bool) : List Node → List Node
  | [] => []
  | n :: rest => if p (n.sifted p) then sifted p rest else n.sifted p :: sifted p rest

end

/-- A tree without its white space nodes. -/
def Sheet.spaceless (s : Sheet) : Sheet := sifted Node.isWhitespace s

theorem sifted_append (p : Node → Bool) (xs ys : List Node) :
    sifted p (xs ++ ys) = sifted p xs ++ sifted p ys := by
  induction xs with
  | nil => rfl
  | cons n xs ih =>
    rw [List.cons_append, sifted, sifted, ih]
    split <;> rfl

theorem Node.isWhitespace_sifted (p : Node → Bool) (n : Node) :
    (n.sifted p).isWhitespace = n.isWhitespace := by
  cases n <;> rfl

theorem Node.isBlank_sifted (p : Node → Bool) (n : Node) : (n.sifted p).isBlank = n.isBlank := by
  cases n <;> rfl

theorem all_isBlank_sifted (p : Node → Bool) : ∀ {nodes : List Node},
    nodes.all Node.isBlank = true → (sifted p nodes).all Node.isBlank = true
  | [], _ => rfl
  | n :: rest, h => by
    rw [List.all_cons, Bool.and_eq_true] at h
    have hrest := all_isBlank_sifted p h.2
    rw [sifted]
    split
    · exact hrest
    · rw [List.all_cons, Node.isBlank_sifted, h.1, hrest]
      rfl

theorem all_isBlank_spaceless (nodes : List Node) :
    (sifted Node.isWhitespace nodes).all Node.isBlank = nodes.all Node.isBlank := by
  induction nodes with
  | nil => rfl
  | cons n rest hrest =>
    rw [sifted, Node.isWhitespace_sifted, List.all_cons]
    split
    · rename_i hw
      have hb : n.isBlank = true := by cases n <;> simp_all [Node.isWhitespace, Node.isBlank]
      rw [hrest, hb]
      rfl
    · rw [List.all_cons, Node.isBlank_sifted, hrest]

/-! ## Removals -/

/-- A test that white space fails and that does not look at the white space below a node. -/
structure Spaceblind (p : Node → Bool) : Prop where
  blank : ∀ n, n.isWhitespace = true → p n = false
  below : ∀ n, p (n.sifted Node.isWhitespace) = p n

mutual

theorem Node.spaceless_removeWhere {p : Node → Bool} (hp : Spaceblind p) : ∀ n : Node,
    (n.removeWhere p).sifted Node.isWhitespace = (n.sifted Node.isWhitespace).sifted p
  | .ruleBlock k pre nodes => by
    have ih := spaceless_removeWhere hp nodes false
    simp only [Node.removeWhere, Node.sifted, ih]
  | .whitespace _ | .comment _ | .rule _ | .statement .. | .rawBlock .. => rfl

/-- A removal is a sifting, up to white space. -/
theorem spaceless_removeWhere {p : Node → Bool} (hp : Spaceblind p) :
    ∀ (nodes : List Node) (after : Bool),
      sifted Node.isWhitespace (removeWhere p after nodes) =
        sifted p (sifted Node.isWhitespace nodes)
  | [], _ => rfl
  | n :: rest, after => by
    have hn := Node.spaceless_removeWhere hp n
    have hrest := spaceless_removeWhere hp rest
    have hsame : (n.removeWhere p).isWhitespace = n.isWhitespace := by cases n <;> rfl
    have hjudge : p ((n.sifted Node.isWhitespace).sifted p) = p (n.removeWhere p) := by
      rw [← hn, hp.below]
    rw [removeWhere, sifted, Node.isWhitespace_sifted]
    cases hw : n.isWhitespace with
    | true =>
      have hkept : p (n.removeWhere p) = false := hp.blank _ (hsame.trans hw)
      cases after with
      | true => simpa using hrest false
      | false => simp [hkept, sifted, Node.isWhitespace_sifted, hsame, hw, hrest]
    | false =>
      simp only [Bool.and_false, Bool.false_eq_true, if_false, sifted, hjudge]
      cases p (n.removeWhere p) with
      | true => simpa using hrest true
      | false => simp [sifted, Node.isWhitespace_sifted, hw, hn, hrest]

end

/-! ## Sifting twice -/

/-- A test that does not look at the nodes below a node. -/
structure Shallow (p : Node → Bool) : Prop where
  same : ∀ q n, p (Node.sifted q n) = p n

mutual

theorem Node.sifted_of_imp {p q : Node → Bool} (hp : Shallow p) (hq : Shallow q)
    (h : ∀ n, p n = true → q n = true) : ∀ n : Node, (n.sifted p).sifted q = n.sifted q
  | .ruleBlock k pre nodes => by
    have ih := sifted_of_imp hp hq h nodes
    simp only [Node.sifted, ih]
  | .whitespace _ | .comment _ | .rule _ | .statement .. | .rawBlock .. => rfl

/-- Sifting with a test and then with a wider one is sifting with the wider one. -/
theorem sifted_of_imp {p q : Node → Bool} (hp : Shallow p) (hq : Shallow q)
    (h : ∀ n, p n = true → q n = true) :
    ∀ nodes : List Node, sifted q (sifted p nodes) = sifted q nodes
  | [] => rfl
  | n :: rest => by
    have hn := Node.sifted_of_imp hp hq h n
    have hrest := sifted_of_imp hp hq h rest
    rw [sifted, sifted, hp.same, hq.same]
    cases hpn : p n with
    | true => simpa [h n hpn] using hrest
    | false => simp only [Bool.false_eq_true, if_false, sifted, hn, hq.same, hrest]

end

mutual

theorem Node.sifted_early {p e : Node → Bool} (hp : Shallow p)
    (he : ∀ q n, e n = true → e (Node.sifted q n) = true) :
    ∀ n : Node, ((n.sifted e).sifted p).sifted e = (n.sifted p).sifted e
  | .ruleBlock k pre nodes => by
    have ih := sifted_early hp he nodes
    simp only [Node.sifted, ih]
  | .whitespace _ | .comment _ | .rule _ | .statement .. | .rawBlock .. => rfl

/-- A test that stays true of a thinned node takes out nothing early that it would not take out
later. -/
theorem sifted_early {p e : Node → Bool} (hp : Shallow p)
    (he : ∀ q n, e n = true → e (Node.sifted q n) = true) :
    ∀ nodes : List Node, sifted e (sifted p (sifted e nodes)) = sifted e (sifted p nodes)
  | [] => rfl
  | n :: rest => by
    have hn := Node.sifted_early hp he n
    have hrest := sifted_early hp he rest
    rw [sifted, sifted, hp.same]
    cases hen : e (n.sifted e) with
    | true =>
      have hlate : e ((n.sifted p).sifted e) = true := by
        rw [← hn]
        exact he e _ (he p _ hen)
      cases p n with
      | true => simpa using hrest
      | false => simpa [sifted, hlate] using hrest
    | false =>
      simp only [Bool.false_eq_true, if_false, sifted, hp.same]
      cases p n with
      | true => simpa using hrest
      | false => simp only [Bool.false_eq_true, if_false, sifted, hn, hrest]

end

/-! ## White space and what is written -/

theorem isPlain_braced (t : Text) : (braced t).isPlain = t.isPlain := by
  have hopen : Text.isPlain (.char '\x7b' :: t) = Text.isPlain t := rfl
  rw [braced, Text.isPlain_append, hopen]
  exact Bool.and_true _

mutual

/-- White space holds no surrogate. -/
theorem Node.isPlain_spaceless (minify : Bool) : ∀ n : Node,
    ((n.sifted Node.isWhitespace).generate minify).isPlain = (n.generate minify).isPlain
  | .ruleBlock k pre nodes => by
    rw [Node.sifted, Node.generate, Node.generate, Text.isPlain_append, Text.isPlain_append,
      isPlain_braced, isPlain_braced, isPlain_spaceless minify nodes]
  | .whitespace _ | .comment _ | .rule _ | .statement .. | .rawBlock .. => rfl

theorem isPlain_spaceless (minify : Bool) : ∀ nodes : List Node,
    (generateAll minify (sifted Node.isWhitespace nodes)).isPlain =
      (generateAll minify nodes).isPlain
  | [] => rfl
  | n :: rest => by
    have hn := Node.isPlain_spaceless minify n
    have hrest := isPlain_spaceless minify rest
    rw [sifted, Node.isWhitespace_sifted, generateAll, Text.isPlain_append]
    split
    · have hblank : (n.generate minify).isPlain = true := by
        cases n with
        | whitespace text => cases minify <;> first | rfl | exact Text.isPlain_ofChars text
        | _ => simp_all [Node.isWhitespace]
      rw [hblank, hrest, Bool.true_and]
    · rw [generateAll, Text.isPlain_append, hn, hrest]

end

theorem generateAll_append (minify : Bool) (xs ys : List Node) :
    generateAll minify (xs ++ ys) = generateAll minify xs ++ generateAll minify ys := by
  induction xs with
  | nil => rfl
  | cons n xs ih => rw [List.cons_append, generateAll, generateAll, ih, List.append_assoc]

mutual

theorem Node.sifted_stripTokens : ∀ n : Node,
    n.stripTokens.sifted Node.isWhitespace = (n.sifted Node.isWhitespace).stripTokens
  | .ruleBlock k pre nodes => by
    simp only [Node.stripTokens, Node.sifted, spaceless_stripNodes nodes]
  | .whitespace _ | .comment _ | .rule _ | .statement .. | .rawBlock .. => rfl

theorem spaceless_stripNodes : ∀ nodes : List Node,
    sifted Node.isWhitespace (stripNodes nodes) = stripNodes (sifted Node.isWhitespace nodes)
  | [] => rfl
  | n :: rest => by
    have hsame : n.stripTokens.isWhitespace = n.isWhitespace := by cases n <;> rfl
    rw [stripNodes, sifted, sifted, Node.isWhitespace_sifted, Node.isWhitespace_sifted, hsame,
      spaceless_stripNodes rest]
    split
    · rfl
    · rw [Node.sifted_stripTokens n, stripNodes]

end

theorem stripNodes_append (xs ys : List Node) :
    stripNodes (xs ++ ys) = stripNodes xs ++ stripNodes ys := by
  induction xs with
  | nil => rfl
  | cons n xs ih => rw [List.cons_append, stripNodes, stripNodes, ih, List.cons_append]

theorem spaceblind_isComment : Spaceblind Node.isComment where
  blank n h := by cases n <;> first | rfl | cases h
  below n := by cases n <;> rfl

theorem spaceless_stripComments (s : Sheet) :
    s.stripComments.spaceless = stripNodes (sifted Node.isComment s.spaceless) := by
  rw [Sheet.stripComments, Sheet.spaceless, spaceless_stripNodes,
    spaceless_removeWhere spaceblind_isComment]
  rfl

/-- The text of a tree, without its comments if it is minified. -/
def written (minify : Bool) (s : Sheet) : Text :=
  generateAll minify (if minify then s.stripComments else s)

theorem written_unplaced (minify : Bool) (s : Sheet) :
    written minify s.unplaced = written minify s := by
  rw [written, written]
  cases minify with
  | false => exact generateAll_unplaced false s
  | true =>
    rw [if_pos rfl, if_pos rfl, Sheet.unplaced, stripComments_unplaced]
    exact generateAll_unplaced true _

/-- The text of one tree and then another is plain just if the texts of both are; the white space
in the trees plays no part. -/
theorem isPlain_written {minify : Bool} {s t u : Sheet}
    (h : u.spaceless = s.spaceless ++ t.spaceless) :
    (written minify u).isPlain = ((written minify s).isPlain && (written minify t).isPlain) := by
  have hwritten : ∀ s : Sheet, (written minify s).isPlain =
      (generateAll minify (if minify then stripNodes (sifted Node.isComment s.spaceless)
        else s.spaceless)).isPlain := by
    intro s
    rw [written, ← isPlain_spaceless]
    cases minify with
    | false => rfl
    | true => exact congrArg _ (congrArg _ (spaceless_stripComments s))
  rw [hwritten, hwritten, hwritten, h]
  cases minify with
  | false => simp only [Bool.false_eq_true, if_false, generateAll_append, Text.isPlain_append]
  | true =>
    simp only [if_true, sifted_append, stripNodes_append, generateAll_append, Text.isPlain_append]

/-! ## White space and the rules -/

mutual

theorem Node.placed_spaceless : ∀ (n : Node) (above : List Enclosing),
    (n.sifted Node.isWhitespace).placed above = n.placed above
  | .ruleBlock k pre nodes, above => by
    rw [Node.sifted, Node.placed, Node.placed, placedFrom_spaceless nodes]
  | .whitespace _, _ | .comment _, _ | .rule _, _ | .statement .., _ | .rawBlock .., _ => rfl

theorem placedFrom_spaceless : ∀ (nodes : List Node) (above : List Enclosing),
    placedFrom above (sifted Node.isWhitespace nodes) = placedFrom above nodes
  | [], _ => rfl
  | n :: rest, above => by
    have hn := Node.placed_spaceless n above
    have hrest := placedFrom_spaceless rest above
    rw [sifted, Node.isWhitespace_sifted, placedFrom]
    split
    · have hblank : n.isBlank = true := by cases n <;> simp_all [Node.isWhitespace, Node.isBlank]
      rw [Node.placed_blank hblank, hrest, List.nil_append]
    · rw [placedFrom, hn, hrest]

end

theorem placedFrom_append (xs ys : List Node) (above : List Enclosing) :
    placedFrom above (xs ++ ys) = placedFrom above xs ++ placedFrom above ys := by
  induction xs with
  | nil => rfl
  | cons n xs ih => rw [List.cons_append, placedFrom, placedFrom, ih, List.append_assoc]

/-- What goes through lists one member after the other goes through parts of them one after the
other. -/
theorem flatMap_of_append {α β γ : Type} {f : List α → List β}
    (happend : ∀ xs ys, f (xs ++ ys) = f xs ++ f ys) (hnil : f [] = []) (g : γ → List α)
    (parts : List γ) : f (parts.flatMap g) = parts.flatMap fun p => f (g p) := by
  induction parts with
  | nil => exact hnil
  | cons p parts ih => rw [List.flatMap_cons, happend, ih, List.flatMap_cons]

theorem placed_eq (s : Sheet) : s.placed.map unplacedRule = placedFrom [] s.unplaced.spaceless := by
  rw [Sheet.spaceless, placedFrom_spaceless]
  exact (placed_unplaced s).symm

end StylePrune.Css
