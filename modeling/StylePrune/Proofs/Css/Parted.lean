import StylePrune.Proofs.Css.Forms

/-!
# The plain form

A tree is written with a comment between two tokens that would run together (`parted`), and white
space that stands side by side is written as one (`joinSpaces`). That is a lawful form
(`plain_lawful`) in which legible parts stay legible (`plain_shows`), and what is written of a tree
is the text of its tokens in this form (`generateAll_plain`).
-/

namespace StylePrune.Css

open Serialize (Kind kind runsTogether separator tokensAfter)

/-- What keeps a token from running together with the one before it. -/
def gap (previous : Option Kind) (t : Token) : List Token :=
  if previous.any (runsTogether · (kind t)) then [.leaf .start (.comment [])] else []

mutual

def Token.parted : Token → Token
  | .leaf p l => .leaf p l
  | .block p b content closed => .block p b (partedAfter none content) closed
  | .function p name arguments closed => .function p name (partedAfter none arguments) closed

/-- Tokens with what keeps them from running together, behind one of some kind. -/
def partedAfter (previous : Option Kind) : List Token → List Token
  | [] => []
  | t :: rest => gap previous t ++ t.parted :: partedAfter (some (kind t)) rest

end

/-- Tokens with what keeps them from running together. -/
def parted (ts : List Token) : List Token := partedAfter none ts

/-- A node before others; white space goes together. -/
def joinSpace : Node → List Node → List Node
  | .whitespace a, .whitespace b :: rest => .whitespace (a ++ b) :: rest
  | n, ns => n :: ns

/-- Nodes with white space that stands side by side put together. -/
def joinSpaces : List Node → List Node
  | [] => []
  | n :: rest => joinSpace n (joinSpaces rest)

def plainForm : Form := ⟨parted, parted, parted, joinSpaces⟩

/-! ## Tokens -/

section

variable (t : Token)

@[simp] theorem Token.bare_parted : t.parted.bare = t.bare := by cases t <;> rfl

@[simp] theorem Token.isBlank_parted : t.parted.isBlank = t.isBlank := by
  rw [← Token.isBlank_bare, Token.bare_parted, Token.isBlank_bare]

@[simp] theorem Token.isLiteral_parted (text : String) :
    t.parted.isLiteral text = t.isLiteral text := by
  rw [← Token.isLiteral_bare, Token.bare_parted, Token.isLiteral_bare]

@[simp] theorem kind_parted : kind t.parted = kind t := by
  rcases t with _ | ⟨p, b, content, closed⟩ | _
  · rfl
  · cases b <;> rfl
  · rfl

@[simp] theorem Token.first_parted : t.parted.first = t.first := by cases t <;> rfl

@[simp] theorem Token.last_parted : t.parted.last = t.last := by cases t <;> rfl

end

/-- There is a gap before some tokens only, and it is a comment. -/
theorem gap_cases (previous : Option Kind) (t : Token) :
    gap previous t = [] ∨ (∃ k, previous = some k ∧ runsTogether k (kind t) = true) ∧
      gap previous t = [.leaf .start (.comment [])] := by
  rw [gap]
  split
  · rename_i h
    exact .inr ⟨(Option.any_eq_true ..).1 h, rfl⟩
  · exact .inl rfl

theorem gap_of_not (previous : Option Kind) {t : Token}
    (h : ∀ k, runsTogether k (kind t) = false) : gap previous t = [] := by
  rw [gap, if_neg]
  cases previous with
  | none => exact Bool.false_ne_true
  | some k => exact Bool.eq_false_iff.1 (h k)

theorem outline_gap (previous : Option Kind) (t : Token) (ts : List Token) :
    outline (gap previous t ++ ts) = outline ts := by
  rcases gap_cases previous t with h | ⟨-, h⟩
  · rw [h, List.nil_append]
  · rw [h]
    exact outline_blank rfl ts

theorem outline_partedAfter (previous : Option Kind) (ts : List Token) :
    outline (partedAfter previous ts) = outline ts := by
  induction ts generalizing previous with
  | nil => rfl
  | cons t ts ih =>
    rw [partedAfter, outline_gap]
    cases h : t.isBlank with
    | true => rw [outline_blank h, outline_blank (by simp [h]), ih]
    | false => rw [outline_cons h, outline_cons (by simp [h]), ih, Token.bare_parted]

/-- Nothing runs together with a comment. -/
theorem runsTogether_other (k : Kind) : runsTogether k .other = false := by
  unfold runsTogether
  split <;> rfl

theorem gap_gap (previous : Option Kind) (t : Token) (rest : List Token) :
    partedAfter previous (gap previous t ++ rest) =
      gap previous t ++
        partedAfter (if (gap previous t).isEmpty then previous else some .other) rest := by
  rcases gap_cases previous t with h | ⟨-, h⟩
  · rw [h]
    rfl
  · have hcomment : gap previous (.leaf .start (.comment [])) = [] :=
      gap_of_not previous runsTogether_other
    rw [h, List.singleton_append, partedAfter, hcomment]
    rfl

mutual

theorem Token.parted_parted : ∀ t : Token, t.parted.parted = t.parted
  | .leaf .. => rfl
  | .block p b content closed => by
    simp only [Token.parted, partedAfter_again content none]
  | .function p name arguments closed => by
    simp only [Token.parted, partedAfter_again arguments none]

theorem partedAfter_again : ∀ (ts : List Token) (previous : Option Kind),
    partedAfter previous (partedAfter previous ts) = partedAfter previous ts
  | [], _ => rfl
  | t :: rest, previous => by
    rw [partedAfter, gap_gap, partedAfter, kind_parted, partedAfter_again rest,
      Token.parted_parted t]
    rcases gap_cases previous t with h | ⟨-, h⟩
    · have hgap : gap previous t.parted = [] := by
        rw [gap, kind_parted]
        exact h
      rw [h, List.isEmpty_nil, if_pos rfl, hgap]
      rfl
    · rw [h]
      rfl

end

theorem tidies_parted : Tidies parted where
  outline := outline_partedAfter none
  again ts := partedAfter_again ts none

/-! ## Selectors -/

theorem isLiteral_iff {t : Token} {text : String} :
    t.isLiteral text = true ↔ kind t = .literal text.toList := by
  constructor
  · intro h
    obtain ⟨p, rfl⟩ := Token.eq_of_isLiteral h
    rfl
  · intro h
    rcases t with ⟨p, l⟩ | ⟨p, b, content, closed⟩ | _
    · cases l with
      | literal cs => exact decide_eq_true (Kind.literal.inj h)
      | _ => cases h
    · cases b <;> cases h
    · cases h

/-- Nothing runs together with a comma, and a comma with nothing. -/
theorem runsTogether_comma (k : Kind) : runsTogether k (.literal [',']) = false := by
  unfold runsTogether
  split <;> rfl

open Rule.selectors (split)

/-- A selector list that is parted is parted at its commas as before. -/
theorem split_partedAfter (previous : Option Kind) (ts : List Token) :
    ∃ s more, split ts = s :: more ∧
      split (partedAfter previous ts) = partedAfter previous s :: more.map parted := by
  induction ts generalizing previous with
  | nil => exact ⟨[], [], rfl, rfl⟩
  | cons t ts ih =>
    obtain ⟨s, more, hs, hparted⟩ := ih (some (kind t))
    rw [partedAfter]
    by_cases hcomma : t.isLiteral "," = true
    · have hkind : kind t = .literal [','] := isLiteral_iff.1 hcomma
      have hgap : gap previous t = [] := gap_of_not previous fun k => hkind ▸ runsTogether_comma k
      have hbehind : partedAfter (some (kind t)) s = parted s := by
        cases s with
        | nil => rfl
        | cons u us => rw [parted, partedAfter, partedAfter, hkind]; rfl
      refine ⟨[], s :: more, by rw [split, if_pos hcomma, hs], ?_⟩
      rw [hgap, List.nil_append, split, Token.isLiteral_parted, if_pos hcomma, hparted, hbehind]
      rfl
    · refine ⟨t :: s, more, by rw [split, if_neg hcomma, hs], ?_⟩
      have hnode : split (t.parted :: partedAfter (some (kind t)) ts) =
          (t.parted :: partedAfter (some (kind t)) s) :: more.map parted := by
        rw [split, Token.isLiteral_parted, if_neg hcomma, hparted]
      rcases gap_cases previous t with h | ⟨-, h⟩
      · rw [h, List.nil_append, hnode, partedAfter, h, List.nil_append]
      · rw [h, List.singleton_append, split, if_neg (by decide), hnode, partedAfter, h,
          List.singleton_append]

theorem split_parted (ts : List Token) : split (parted ts) = (split ts).map parted := by
  obtain ⟨s, more, hs, hparted⟩ := split_partedAfter none ts
  rw [parted, hparted, hs]
  rfl

/-- A token that would run together with a dot is no name. -/
theorem classNamesOf_behind_dot {t : Token} (h : runsTogether (.literal ['.']) (kind t) = true)
    (dotted : Bool) : classNamesOf dotted t = classNamesOf false t := by
  rcases t with ⟨p, l⟩ | ⟨p, b, content, closed⟩ | _
  · cases l with
    | ident => cases h
    | _ => rfl
  · cases b <;> rfl
  · rfl

mutual

theorem classNamesOf_parted : ∀ (t : Token) (dotted : Bool),
    classNamesOf dotted t.parted = classNamesOf dotted t
  | .leaf .., _ => rfl
  | .block _ .paren content _, _ => by
    rw [Token.parted, classNamesOf, classNamesOf,
      classNamesAfter_partedAfter content none false fun h => by cases h]
  | .block _ .square _ _, _ | .block _ .curly _ _, _ => rfl
  | .function _ _ arguments _, _ => by
    rw [Token.parted, classNamesOf, classNamesOf,
      classNamesAfter_partedAfter arguments none false fun h => by cases h]

theorem classNamesAfter_partedAfter : ∀ (ts : List Token) (previous : Option Kind) (dotted : Bool),
    (dotted = true → previous = some (.literal ['.'])) →
      classNamesAfter dotted (partedAfter previous ts) = classNamesAfter dotted ts
  | [], _, _, _ => rfl
  | t :: rest, previous, dotted, hdot => by
    have hrest := classNamesAfter_partedAfter rest (some (kind t)) (t.isLiteral ".")
      fun h => congrArg some (isLiteral_iff.1 h)
    rw [partedAfter]
    rcases gap_cases previous t with h | ⟨⟨k, hk, hrun⟩, h⟩
    · rw [h, List.nil_append, classNamesAfter, classNamesAfter, classNamesOf_parted t,
        Token.isLiteral_parted, hrest]
    · have hbehind : classNamesOf dotted t = classNamesOf false t := by
        cases dotted with
        | false => rfl
        | true =>
          obtain rfl := Option.some.inj (hk.symm.trans (hdot rfl))
          exact classNamesOf_behind_dot hrun true
      rw [h, List.singleton_append, classNamesAfter, classNamesAfter, classNamesAfter,
        classNamesOf_parted t, Token.isLiteral_parted, hrest, hbehind]
      rfl

end

/-! ## White space side by side -/

theorem joinSpace_of_apart {n : Node} {ns : List Node}
    (h : ∀ m ∈ ns.head?, (n.isWhitespace && m.isWhitespace) = false) :
    joinSpace n ns = n :: ns := by
  unfold joinSpace
  split
  · cases h _ rfl
  · rfl

theorem joinSpaces_of_apart {ns : List Node}
    (h : ns.IsChain fun m n => (m.isWhitespace && n.isWhitespace) = false) :
    joinSpaces ns = ns := by
  induction ns with
  | nil => rfl
  | cons n ns ih =>
    obtain ⟨hhead, hchain⟩ := List.isChain_cons.1 h
    rw [joinSpaces, ih hchain, joinSpace_of_apart hhead]

/-- A node is put before others, or into the white space that they start with. -/
theorem joinSpace_cases (n : Node) (ns : List Node) :
    ((∀ m ∈ ns.head?, (n.isWhitespace && m.isWhitespace) = false) ∧ joinSpace n ns = n :: ns) ∨
      ∃ a b rest, n = .whitespace a ∧ ns = .whitespace b :: rest ∧
        joinSpace n ns = .whitespace (a ++ b) :: rest := by
  cases n with
  | whitespace a =>
    rcases ns with _ | ⟨m, rest⟩
    · exact .inl ⟨fun m hm => (by cases hm), rfl⟩
    · cases m with
      | whitespace b => exact .inr ⟨a, b, rest, rfl, rfl, rfl⟩
      | _ => exact .inl ⟨fun m hm => Option.some.inj hm ▸ rfl, rfl⟩
  | _ => exact .inl ⟨fun m hm => rfl, rfl⟩

theorem apart_joinSpaces (ns : List Node) :
    (joinSpaces ns).IsChain fun m n => (m.isWhitespace && n.isWhitespace) = false := by
  induction ns with
  | nil => exact .nil
  | cons n ns ih =>
    rw [joinSpaces]
    rcases joinSpace_cases n (joinSpaces ns) with ⟨hhead, h⟩ | ⟨a, b, rest, rfl, hrest, h⟩
    · rw [h]
      exact List.isChain_cons.2 ⟨hhead, ih⟩
    · rw [hrest] at ih
      rw [h]
      exact List.isChain_cons.2 (List.isChain_cons.1 ih)

theorem legible_joinSpaces {ns : List Node} (h : ∀ n ∈ ns, Legible n.tokens) :
    ∀ m ∈ joinSpaces ns, Legible m.tokens := by
  induction ns with
  | nil => exact List.forall_mem_nil _
  | cons n ns ih =>
    obtain ⟨hn, hns⟩ := List.forall_mem_cons.1 h
    rw [joinSpaces]
    rcases joinSpace_cases n (joinSpaces ns) with ⟨-, hjoin⟩ | ⟨a, b, rest, rfl, hrest, hjoin⟩
    · rw [hjoin]
      exact List.forall_mem_cons.2 ⟨hn, ih hns⟩
    · have hall := ih hns
      rw [hrest, List.forall_mem_cons] at hall
      rw [hjoin]
      refine List.forall_mem_cons.2 ⟨legible_leaf.2 ⟨⟨?_, ?_⟩, rfl⟩, hall.2⟩
      · exact List.append_ne_nil_of_left_ne_nil (legible_leaf.1 hn).1.1 b
      · rw [List.all_append, (legible_leaf.1 hn).1.2, (legible_leaf.1 hall.1).1.2]
        rfl

theorem arranges_joinSpaces : Arranges joinSpaces where
  mem {ns m} hm := by
    induction ns with
    | nil => cases hm
    | cons n ns ih =>
      rw [joinSpaces] at hm
      rcases joinSpace_cases n (joinSpaces ns) with ⟨-, h⟩ | ⟨a, b, rest, rfl, hrest, h⟩
      · rw [h] at hm
        rcases List.mem_cons.1 hm with rfl | hm
        · exact .inl List.mem_cons_self
        · exact (ih hm).imp_left (List.mem_cons_of_mem _)
      · rw [h] at hm
        rw [hrest] at ih
        rcases List.mem_cons.1 hm with rfl | hm
        · exact .inr rfl
        · exact (ih (List.mem_cons_of_mem _ hm)).imp_left (List.mem_cons_of_mem _)
  legible := legible_joinSpaces
  again ns := joinSpaces_of_apart (apart_joinSpaces ns)
  blank ns := by
    induction ns with
    | nil => rfl
    | cons n ns ih =>
      rw [joinSpaces, List.all_cons, ← ih]
      rcases joinSpace_cases n (joinSpaces ns) with ⟨-, h⟩ | ⟨a, b, rest, rfl, hrest, h⟩
      · rw [h, List.all_cons]
      · rw [h, hrest]
        rfl
  apart := apart_joinSpaces

theorem plain_lawful : plainForm.Lawful where
  selector := tidies_parted
  prelude := tidies_parted
  content := tidies_parted
  siblings := arranges_joinSpaces
  starts t ts _ := congrArg some t.bare_parted
  split := split_parted
  classNames ts := classNamesAfter_partedAfter ts none false fun h => by cases h

/-! ## Legible tokens -/

open Lexer (beside_of_isQuiet beside_of_hasEnd)

theorem legible_comment : Legible [.leaf .start (.comment [])] :=
  legible_leaf.2 ⟨⟨List.forall_mem_nil _, by decide⟩, rfl⟩

/-- What stands beside some tokens stands beside them when they are parted. -/
theorem beside_partedAfter {a : Lexeme} (hg : a.Granted) (hf : a.isFirm = true)
    {previous : Option Kind} {ts : List Token} (h : ∀ u ∈ ts.head?, Beside a u.first) :
    ∀ u ∈ (partedAfter previous ts).head?, Beside a u.first := by
  cases ts with
  | nil => exact h
  | cons t rest =>
    rw [partedAfter]
    rcases gap_cases previous t with hgap | ⟨-, hgap⟩
    · rw [hgap]
      rintro u hu
      obtain rfl := Option.some.inj hu
      rw [Token.first_parted]
      exact h t rfl
    · rw [hgap]
      rintro u hu
      obtain rfl := Option.some.inj hu
      exact beside_of_isQuiet hg hf rfl (.inr rfl)

open Lexer (startsQuoted)

theorem startsQuoted_parted {ts : List Token} (h : startsQuoted (lexemesOf ts) = true) :
    startsQuoted (lexemesOf (parted ts)) = true := by
  rcases ts with _ | ⟨⟨p, l⟩ | _ | _, rest⟩
  · cases h
  · cases l with
    | string => rfl
    | whitespace text =>
      rcases rest with _ | ⟨⟨q, m⟩ | _ | _, rest⟩
      · cases h
      · cases m with
        | string => rfl
        | fault => exact h
        | _ => cases h
      · cases h
      · cases h
    | fault => exact h
    | _ => cases h
  · cases h
  · cases h

mutual

theorem Token.legible_parted : ∀ t : Token, Legible [t] → Legible [t.parted]
  | .leaf .., h => h
  | .block _ _ content _, h => by
    obtain ⟨hclosed, hcontent⟩ := legible_block.1 h
    exact legible_block.2 ⟨hclosed, legible_partedAfter content none hcontent⟩
  | .function _ _ arguments _, h => by
    obtain ⟨hclosed, hname, hquoted, harguments⟩ := legible_function.1 h
    exact legible_function.2 ⟨hclosed, hname, fun hurl => startsQuoted_parted (hquoted hurl),
      legible_partedAfter arguments none harguments⟩

theorem legible_partedAfter : ∀ (ts : List Token) (previous : Option Kind), Legible ts →
    Legible (partedAfter previous ts)
  | [], _, h => h
  | t :: rest, previous, h => by
    obtain ⟨ht, hrest, hbeside⟩ := legible_cons.1 h
    obtain ⟨hg, hf⟩ := ht.kept _ (last_mem rfl)
    have hparted : Legible (t.parted :: partedAfter (some (kind t)) rest) :=
      legible_cons.2 ⟨Token.legible_parted t ht, legible_partedAfter rest _ hrest, by
        rw [Token.last_parted]
        exact beside_partedAfter hg hf hbeside⟩
    rw [partedAfter]
    rcases gap_cases previous t with hgap | ⟨-, hgap⟩
    · rw [hgap]
      exact hparted
    · rw [hgap]
      exact legible_cons.2 ⟨legible_comment, hparted, fun u _ => beside_of_hasEnd rfl _⟩

end

theorem plain_shows : plainForm.Shows Legible where
  legible h := h
  selector h := legible_partedAfter _ none h
  content h := legible_partedAfter _ none h
  prelude h := by
    obtain ⟨hkeyword, hts, hbeside⟩ := legible_cons.1 h
    obtain ⟨hg, hf⟩ := hkeyword.kept _ (last_mem rfl)
    exact legible_cons.2
      ⟨hkeyword, legible_partedAfter _ none hts, beside_partedAfter hg hf hbeside⟩

/-! ## Texts -/

mutual

theorem Token.endsBroken_of_legible : ∀ t : Token, Legible [t] → t.endsBroken = false
  | .leaf p l, h => by
    cases l with
    | fault f =>
      obtain rfl := beq_iff_eq.1 (legible_leaf.1 h).2
      rfl
    | _ => rfl
  | .block .., _ => rfl
  | .function _ _ arguments _, h => endsBroken_of_legible arguments (legible_function.1 h).2.2.2

theorem endsBroken_of_legible : ∀ ts : List Token, Legible ts → endsBroken ts = false
  | [], _ => rfl
  | t :: rest, h => by
    obtain ⟨ht, hrest, -⟩ := legible_cons.1 h
    rw [endsBroken, Token.endsBroken_of_legible t ht, endsBroken_of_legible rest hrest]
    split <;> rfl

end

/-- A token that is legible is no backslash. -/
theorem kind_ne_backslash {t : Token} (h : Legible [t]) : kind t ≠ .literal ['\\'] := by
  intro hkind
  have hliteral : t.isLiteral "\\" = true := isLiteral_iff.2 hkind
  obtain ⟨p, rfl⟩ := Token.eq_of_isLiteral hliteral
  cases (legible_leaf.1 h).2

theorem textOf_gap {k : Kind} (hk : k ≠ .literal ['\\']) (t : Token) (ts : List Token) :
    textOf (gap (some k) t ++ ts) = separator k (kind t) ++ textOf ts := by
  unfold separator
  rw [gap, Option.any_some, textOf_append, if_neg hk]
  cases runsTogether k (kind t) <;> rfl

mutual

theorem Token.text_parted : ∀ t : Token, Legible [t] → t.parted.text = Serialize.token t
  | .leaf .., _ => rfl
  | .block _ b content _, h => by
    rw [Token.parted, Token.text, Serialize.token,
      textOf_partedAfter content none (legible_block.1 h).2 fun _ hk => by cases hk]
  | .function _ name arguments _, h => by
    have harguments := (legible_function.1 h).2.2.2
    rw [Token.parted, Token.text, Serialize.token, endInBrokenString_eq,
      endsBroken_of_legible arguments harguments, if_neg Bool.false_ne_true,
      textOf_partedAfter arguments none harguments fun _ hk => by cases hk]

/-- What is written of legible tokens is the text of the parted tokens. -/
theorem textOf_partedAfter : ∀ (ts : List Token) (previous : Option Kind), Legible ts →
    (∀ k ∈ previous, k ≠ .literal ['\\']) →
      textOf (partedAfter previous ts) = tokensAfter previous ts
  | [], _, _, _ => rfl
  | t :: rest, previous, h, hp => by
    obtain ⟨ht, hrest, -⟩ := legible_cons.1 h
    have hbehind : textOf (t.parted :: partedAfter (some (kind t)) rest) =
        Serialize.token t ++ tokensAfter (some (kind t)) rest := by
      rw [textOf, Token.text_parted t ht, textOf_partedAfter rest _ hrest fun k hk => by
        obtain rfl := Option.some.inj hk
        exact kind_ne_backslash ht]
    cases previous with
    | none => exact hbehind
    | some k =>
      have hwritten : tokensAfter (some k) (t :: rest) =
          separator k (kind t) ++ Serialize.token t ++ tokensAfter (some (kind t)) rest := rfl
      rw [partedAfter, textOf_gap (hp k rfl), hbehind, hwritten, List.append_assoc]

end

theorem textOf_parted {ts : List Token} (h : Legible ts) :
    textOf (parted ts) = Serialize.tokens ts :=
  textOf_partedAfter ts none h fun _ hk => by cases hk

theorem textOf_joinSpaces (ns : List Node) :
    textOf (nodesTokens (joinSpaces ns)) = textOf (nodesTokens ns) := by
  induction ns with
  | nil => rfl
  | cons n ns ih =>
    rw [joinSpaces, nodesTokens, textOf_append, ← ih]
    rcases joinSpace_cases n (joinSpaces ns) with ⟨-, h⟩ | ⟨a, b, rest, rfl, hrest, h⟩
    · rw [h, nodesTokens, textOf_append]
    · rw [h, hrest]
      simp [nodesTokens, Node.tokens, textOf, Token.text, Serialize.leaf, Text.ofChars_append]

theorem textOf_keyword {keyword : Text} {prelude : List Token}
    (h : Legible (atKeyword keyword :: prelude)) :
    textOf (atKeyword keyword :: parted prelude) = atRuleHead false keyword prelude := by
  rw [textOf, textOf_parted (legible_cons.1 h).2.1]
  rfl

mutual

theorem Node.generate_plain : ∀ n : Node, Legible n.head → Legible n.body →
    Parts Legible n.children → textOf (n.formed plainForm).tokens = n.generate false
  | .whitespace _, _, _, _ | .comment _, _, _, _ => List.append_nil _
  | .rule r, hhead, hbody, _ => by
    have hselector : textOf (parted r.selector) = _ := textOf_parted hhead
    have hcontent : textOf (parted r.content) = _ := textOf_parted hbody
    rw [Node.formed, Node.tokens, textOf_append, textOf_curly, plainForm, hselector, hcontent]
    rfl
  | .statement keyword prelude, hhead, _, _ => by
    rw [Node.formed, Node.tokens, textOf_append]
    exact congrArg (· ++ _) (textOf_keyword hhead)
  | .rawBlock keyword prelude content, hhead, hbody, _ => by
    have hcontent : textOf (parted content) = _ := textOf_parted hbody
    rw [Node.formed, Node.tokens, textOf_append, textOf_curly, plainForm, hcontent,
      textOf_keyword hhead]
    rfl
  | .ruleBlock keyword prelude children, hhead, _, hchildren => by
    have hjoined := textOf_joinSpaces (formedEach plainForm children)
    rw [generateEach_plain children hchildren] at hjoined
    rw [Node.formed, Node.tokens, textOf_append, textOf_curly]
    exact congrArg₂ (· ++ braced ·) (textOf_keyword hhead) hjoined

theorem generateEach_plain : ∀ ns : List Node, Parts Legible ns →
    textOf (nodesTokens (formedEach plainForm ns)) = generateAll false ns
  | [], _ => rfl
  | n :: rest, h => by
    obtain ⟨⟨hhead, hbody⟩, hchildren, hrest⟩ := parts_cons.1 h
    rw [formedEach, nodesTokens, textOf_append, Node.generate_plain n hhead hbody hchildren,
      generateEach_plain rest hrest, generateAll]

end

/-- What is written of a tree with legible parts is the text of its plain form. -/
theorem generateAll_plain {ns : List Node} (h : Parts Legible ns) :
    textOf (nodesTokens (formed plainForm ns)) = generateAll false ns :=
  (textOf_joinSpaces _).trans (generateEach_plain ns h)

end StylePrune.Css
