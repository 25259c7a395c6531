import StylePrune.Css.Selector
import StylePrune.Proofs.Selectors.Matching

/-!
# How selectors are written

`Spelled` relates selectors to the tokens they are written with: a class is a dot and right after it
a name, comments may stand between simple selectors, and blanks around combinators and around the
selectors of a list. `Selector.Spelled.naming`: the classes found among the tokens of a selector are
those that it names.
-/

namespace StylePrune.Selectors

open Css (Token classNamesAfter classNamesOf)
open Css.Lexer (asciiLower)

def Blanks (ts : List Token) : Prop := ∀ t ∈ ts, t.isBlank = true

def Comments (ts : List Token) : Prop := ∀ t ∈ ts, ∃ p text, t = .leaf p (.comment text)

/-- Tokens of a simple selector that names no class. -/
structure Plain (ts : List Token) : Prop where
  solid : ∀ t ∈ ts, t.isBlank = false
  undotted : ∀ t ∈ ts, t.isLiteral "." = false
  nameless : classNamesAfter false ts = []

/-- A combinator with the blanks around it; blanks alone are the descendant combinator. -/
inductive Combinator.Spelled : Combinator → List Token → Prop
  | descendant {p text pre post} (before : Blanks pre) (after : Blanks post) :
    Spelled .descendant (pre ++ .leaf p (.whitespace text) :: post)
  | child {p pre post} (before : Blanks pre) (after : Blanks post) :
    Spelled .child (pre ++ .leaf p (.literal ['>']) :: post)
  | next {p pre post} (before : Blanks pre) (after : Blanks post) :
    Spelled .next (pre ++ .leaf p (.literal ['+']) :: post)
  | subsequent {p pre post} (before : Blanks pre) (after : Blanks post) :
    Spelled .subsequent (pre ++ .leaf p (.literal ['~']) :: post)

mutual

inductive Simple.Spelled : Simple → List Token → Prop
  | type {p name} : Simple.Spelled (.type name) [.leaf p (.ident name)]
  | universal {p} : Simple.Spelled .universal [.leaf p (.literal ['*'])]
  | cls {p q name} : Simple.Spelled (.cls name) [.leaf p (.literal ['.']), .leaf q (.ident name)]
  | attr {p content closed} : Simple.Spelled (.attr content) [.block p .square content closed]
  | other {ts} (plain : Plain ts) : Simple.Spelled (.other ts) ts
  | any {p q name closed gap arguments list}
    (keyword : asciiLower name = Text.ofString "is" ∨ asciiLower name = Text.ofString "where")
    (comments : Comments gap) (spelled : ListSpelled list arguments) :
    Simple.Spelled (.any list)
      (.leaf p (.literal [':']) :: gap ++ [.function q name arguments closed])
  | none {p q name closed gap arguments list} (keyword : asciiLower name = Text.ofString "not")
    (comments : Comments gap) (spelled : ListSpelled list arguments) :
    Simple.Spelled (.none list)
      (.leaf p (.literal [':']) :: gap ++ [.function q name arguments closed])

inductive PartsSpelled : List Simple → List Token → Prop
  | one {p ts} (spelled : Simple.Spelled p ts) : PartsSpelled [p] ts
  | more {p ts gap rest us} (spelled : Simple.Spelled p ts) (comments : Comments gap)
    (more : PartsSpelled rest us) : PartsSpelled (p :: rest) (ts ++ gap ++ us)

inductive Selector.Spelled : Selector → List Token → Prop
  | compound {parts ts} (spelled : PartsSpelled parts ts) : Selector.Spelled (.compound parts) ts
  | combined {left k parts ts gap us} (leftSpelled : Selector.Spelled left ts)
    (combinator : Combinator.Spelled k gap) (spelled : PartsSpelled parts us) :
    Selector.Spelled (.combined left k parts) (ts ++ gap ++ us)

inductive ListSpelled : List Selector → List Token → Prop
  | none {gap} (blanks : Blanks gap) : ListSpelled [] gap
  | one {c pre ts post} (before : Blanks pre) (spelled : Selector.Spelled c ts)
    (after : Blanks post) : ListSpelled [c] (pre ++ ts ++ post)
  | more {c pre ts post p rest us} (before : Blanks pre) (spelled : Selector.Spelled c ts)
    (after : Blanks post) (more : ListSpelled rest us) :
    ListSpelled (c :: rest) (pre ++ ts ++ post ++ .leaf p (.literal [',']) :: us)

end

theorem blanks_nil : Blanks [] := fun _ h => by cases h

theorem comments_nil : Comments [] := fun _ h => by cases h

/-- A list of one selector, written without blanks. -/
theorem ListSpelled.single {c : Selector} {ts : List Token} (h : c.Spelled ts) :
    ListSpelled [c] ts := by
  have := ListSpelled.one blanks_nil h blanks_nil
  rwa [List.nil_append, List.append_nil] at this

/-- Two simple selectors without a comment between them. -/
theorem PartsSpelled.cons {p : Simple} {ts us : List Token} {parts : List Simple}
    (h : p.Spelled ts) (more : PartsSpelled parts us) : PartsSpelled (p :: parts) (ts ++ us) := by
  have := PartsSpelled.more h comments_nil more
  rwa [List.append_nil] at this

/-! ## Tokens that name classes -/

/-- Some classes are named by the tokens, whatever follows them. -/
def Naming (ts : List Token) (names : List Text) : Prop :=
  ∀ rest, classNamesAfter false (ts ++ rest) = names ++ classNamesAfter false rest

theorem Naming.eq {ts : List Token} {names : List Text} (h : Naming ts names) :
    classNamesAfter false ts = names := by
  have := h []
  rwa [List.append_nil, classNamesAfter, List.append_nil] at this

theorem naming_nil : Naming [] [] := fun _ => rfl

theorem Naming.append {ts us : List Token} {xs ys : List Text} (ht : Naming ts xs)
    (hu : Naming us ys) : Naming (ts ++ us) (xs ++ ys) := fun rest => by
  rw [List.append_assoc, ht, hu, List.append_assoc]

theorem Naming.cons {t : Token} {ts : List Token} {names : List Text}
    (ht : t.isLiteral "." = false) (h : Naming ts names) :
    Naming (t :: ts) (classNamesOf false t ++ names) := fun rest => by
  rw [List.cons_append, classNamesAfter, ht, h, List.append_assoc]

/-- Tokens that are no dots and name nothing alone. -/
theorem naming_nameless : ∀ {ts : List Token},
    (∀ t ∈ ts, t.isLiteral "." = false ∧ classNamesOf false t = []) → Naming ts []
  | [], _ => naming_nil
  | t :: ts, h => by
    obtain ⟨⟨hdot, hname⟩, hrest⟩ := List.forall_mem_cons.1 h
    have := (naming_nameless hrest).cons hdot
    rwa [hname] at this

theorem naming_blanks {ts : List Token} (h : Blanks ts) : Naming ts [] := by
  refine naming_nameless fun t ht => ?_
  have hb := h t ht
  cases t with
  | leaf p l => cases l <;> first | exact ⟨rfl, rfl⟩ | cases hb
  | _ => cases hb

theorem Comments.blanks {ts : List Token} (h : Comments ts) : Blanks ts := fun t ht => by
  obtain ⟨p, text, rfl⟩ := h t ht
  rfl

theorem Plain.naming : ∀ {ts : List Token}, Plain ts → Naming ts []
  | [], _ => naming_nil
  | t :: ts, h => by
    obtain ⟨hdot, hrest⟩ := List.forall_mem_cons.1 h.undotted
    have hnames := h.nameless
    rw [classNamesAfter, hdot, List.append_eq_nil_iff] at hnames
    have plain : Plain ts := ⟨fun u hu => h.solid u (.tail _ hu), hrest, hnames.2⟩
    have := plain.naming.cons hdot
    rwa [hnames.1] at this

theorem Combinator.Spelled.naming {k : Combinator} {ts : List Token} (h : k.Spelled ts) :
    Naming ts [] := by
  cases h with
  | _ before after =>
    exact (naming_blanks before).append ((naming_blanks after).cons rfl)

/-- A pseudo-class names the classes of its argument. -/
theorem naming_function {p q : Css.Position} {name : Text} {gap arguments : List Token}
    {closed : Bool} {names : List Text} (hg : Comments gap) (ha : Naming arguments names) :
    Naming (.leaf p (.literal [':']) :: gap ++ [.function q name arguments closed]) names := by
  have hf : Naming [.function q name arguments closed] names := by
    have := naming_nil.cons (t := .function q name arguments closed) rfl
    rwa [classNamesOf, ha.eq, List.append_nil] at this
  exact ((naming_blanks hg.blanks).cons rfl).append hf

mutual

theorem Simple.Spelled.naming : ∀ {p : Simple} {ts : List Token}, p.Spelled ts → Naming ts p.names
  | _, _, .type => naming_nameless (by simp [Token.isLiteral, classNamesOf])
  | _, _, .universal => naming_nameless (by simp [Token.isLiteral, classNamesOf])
  | _, _, .cls => fun rest => by
    simp [classNamesAfter, classNamesOf, Token.isLiteral, Simple.names]
  | _, _, .attr => naming_nameless (by simp [Token.isLiteral, classNamesOf])
  | _, _, .other plain => plain.naming
  | _, _, .any _ comments spelled => by
    rw [Simple.names]
    exact naming_function comments spelled.naming
  | _, _, .none _ comments spelled => by
    rw [Simple.names]
    exact naming_function comments spelled.naming

theorem PartsSpelled.naming : ∀ {parts : List Simple} {ts : List Token}, PartsSpelled parts ts →
    Naming ts (namesOfParts parts)
  | _, _, .one spelled => by
    rw [namesOfParts, namesOfParts, List.append_nil]
    exact spelled.naming
  | _, _, .more spelled comments more => by
    have := spelled.naming.append (naming_blanks comments.blanks)
    rw [List.append_nil] at this
    exact this.append more.naming

/-- The classes found among the tokens of a selector are those that it names. -/
theorem Selector.Spelled.naming : ∀ {c : Selector} {ts : List Token}, c.Spelled ts →
    Naming ts c.names
  | _, _, .compound spelled => by
    rw [Selector.names]
    exact spelled.naming
  | _, _, .combined left combinator spelled => by
    have := left.naming.append combinator.naming
    rw [List.append_nil] at this
    exact this.append spelled.naming

theorem ListSpelled.naming : ∀ {list : List Selector} {ts : List Token}, ListSpelled list ts →
    Naming ts (namesOfList list)
  | _, _, .none blanks => naming_blanks blanks
  | _, _, .one before spelled after =>
    ((naming_blanks before).append spelled.naming).append (naming_blanks after)
  | _, _, .more before spelled after more => by
    have := ((naming_blanks before).append spelled.naming).append (naming_blanks after)
    rw [List.append_nil, List.nil_append] at this
    exact this.append (more.naming.cons rfl)

end

end StylePrune.Selectors
