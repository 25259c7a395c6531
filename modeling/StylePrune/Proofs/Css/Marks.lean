import StylePrune.Proofs.Css.Compacted
import StylePrune.Proofs.Css.Endings

/-!
# What the two forms of a tree write

`nodeMarks` lists what is written of a tree, in order: the pieces that both forms write, the white
space and the separators that only the plain form writes, and the places at which the compact form
may write a space. `plain_nodeMarks` and `compact_nodeMarks` say that each form writes these marks
and no more. So the two forms differ in blanks alone, but for the closing bracket of a function that
an unended string leaves open (`pieces_eq_iff`, `missing_mem_nodeMarks`). A clear style sheet has no
such function (`pieces_eq_of_isClear`).
-/

namespace StylePrune.Css

open Css.Compact (Tight Piece selectorTight declarationTight argumentTight)

/-! ## Marks -/

/-- Where tokens stand in a list. -/
inductive Place where
  | selector
  | declaration
  /-- In the prelude of an at-rule or between brackets. -/
  | arguments

/-- The delimiters that need no space beside them there. -/
def Place.tight : Place → Tight
  | selector => selectorTight
  | declaration => declarationTight
  | arguments => argumentTight

/-- What is written at some point of a tree. -/
inductive Mark where
  | piece (text : Text)
  /-- White space, or a comment among tokens. -/
  | blank (leaf : Leaf)
  /-- What keeps two neighbours from running together. -/
  | separator (text : Text)
  /-- Blanks between two neighbours of one list. -/
  | gap (place : Place) (left right : Token)
  /-- The start of what is written of the prelude of an at-rule. -/
  | lead
  /-- The closing bracket of a function whose arguments end in a broken string. -/
  | missing

namespace Mark

def plain : Mark → Text
  | piece text | separator text => text
  | blank l => Serialize.leaf l
  | gap .. | lead | missing => []

def compact : Mark → Text
  | piece text => text
  | gap place left right =>
    if left.isTight place.tight || right.isTight place.tight then [] else [.char ' ']
  | lead => [.char ' ']
  | missing => [.char ')']
  | blank _ | separator _ => []

/-- What the plain form writes there, if that is no blank and no separator. -/
def plainPiece? : Mark → Option Text
  | piece text => some text
  | _ => none

/-- What the compact form writes there, if that is no space. -/
def compactPiece? : Mark → Option Text
  | piece text => some text
  | missing => some [.char ')']
  | _ => none

end Mark

/-- What the statement is that the tokens start with: a nested rule if a curly block ends it, and a
declaration if a semicolon or the end of the tokens does. -/
def statementPlace : List Token → Place
  | [] => .declaration
  | t :: rest =>
    if t.isLiteral ";" then .declaration
    else if t.isCurly then .selector
    else statementPlace rest

def separatorMarks (previous : Option Serialize.Kind) (t : Token) : List Mark :=
  match previous with
  | none => []
  | some k => [.separator (Serialize.separator k (Serialize.kind t))]

/-- `left` is the neighbour before the token, if it has one, and `blank` says whether blanks stand
between the two. -/
def gapMarks (place : Place) (left : Option Token) (blank : Bool) (right : Token) : List Mark :=
  match left with
  | none => []
  | some left => if blank then [.gap place left right] else []

mutual

def Token.marks : Token → List Mark
  | .leaf p l => [if (Token.leaf p l).isBlank then .blank l else .piece (Serialize.leaf l)]
  | .block _ b content _ =>
    .piece [.char b.opener] ::
      (if b = .curly then listMarks true none (statementPlace content) none false content
        else listMarks false none .arguments none false content) ++
      [.piece [.char b.closer]]
  | .function _ name arguments _ =>
    .piece (Serialize.identifier name ++ [.char '(']) ::
      listMarks false none .arguments none false arguments ++
      [if endsBroken arguments then .missing else .piece [.char ')']]

/-- The marks of a list of tokens, or of the statements in a block. `left` is the last token of the
list or statement that is no blank, and `blank` says whether there were blanks since. -/
def listMarks (inBlock : Bool) (previous : Option Serialize.Kind) (place : Place)
    (left : Option Token) (blank : Bool) : List Token → List Mark
  | [] => []
  | t :: rest =>
    separatorMarks previous t ++
      if t.isBlank then t.marks ++ listMarks inBlock (some (Serialize.kind t)) place left true rest
      else if inBlock && t.endsStatement then
        t.marks ++
          listMarks inBlock (some (Serialize.kind t)) (statementPlace rest) none false rest
      else
        gapMarks place left blank t ++ t.marks ++
          listMarks inBlock (some (Serialize.kind t)) place (some t) false rest

end

def bodyMarks (content : List Token) : List Mark :=
  .piece [.char '\x7b'] :: listMarks true none (statementPlace content) none false content ++
    [.piece [.char '\x7d']]

def headMarks (keyword : Text) (prelude : List Token) : List Mark :=
  let marks := listMarks false none .arguments none false prelude
  .piece (.char '@' :: Serialize.identifier keyword) ::
    (if (marks.flatMap Mark.compact).isEmpty then [] else [.lead]) ++ marks

mutual

def Node.marks : Node → List Mark
  | .whitespace text => [.blank (.whitespace text)]
  | .comment text => [.piece (Serialize.leaf (.comment text))]
  | .rule r => listMarks false none .selector none false r.selector ++ bodyMarks r.content
  | .statement keyword prelude => headMarks keyword prelude ++ [.piece [.char ';']]
  | .rawBlock keyword prelude content => headMarks keyword prelude ++ bodyMarks content
  | .ruleBlock keyword prelude nodes =>
    headMarks keyword prelude ++ .piece [.char '\x7b'] :: nodeMarks nodes ++
      [.piece [.char '\x7d']]

/-- What is written of some nodes. -/
def nodeMarks : List Node → List Mark
  | [] => []
  | n :: rest => n.marks ++ nodeMarks rest

end

/-! ## The plain form -/

theorem tokensAfter_cons (previous : Option Serialize.Kind) (t : Token) (rest : List Token) :
    Serialize.tokensAfter previous (t :: rest) =
      (separatorMarks previous t).flatMap Mark.plain ++
        (Serialize.token t ++ Serialize.tokensAfter (some (Serialize.kind t)) rest) := by
  cases previous with
  | none => rw [Serialize.tokensAfter]; rfl
  | some k =>
    rw [Serialize.tokensAfter, List.append_assoc, separatorMarks, List.flatMap_singleton]
    rfl

theorem plain_gapMarks (place : Place) (left : Option Token) (blank : Bool) (t : Token) :
    (gapMarks place left blank t).flatMap Mark.plain = [] := by
  cases left <;> cases blank <;> rfl

mutual

theorem Token.plain_marks : ∀ t : Token, t.marks.flatMap Mark.plain = Serialize.token t
  | .leaf _ l => by cases l <;> exact List.append_nil _
  | .block _ b content _ => by
    rw [Token.marks, Serialize.token]
    simp only [List.flatMap_append, List.flatMap_cons, List.flatMap_nil]
    split <;> rw [plain_listMarks] <;> rfl
  | .function _ name arguments _ => by
    rw [Token.marks, Serialize.token, endInBrokenString_eq]
    simp only [List.flatMap_append, List.flatMap_cons, List.flatMap_nil]
    rw [plain_listMarks]
    split <;> simp [Mark.plain]

theorem plain_listMarks : ∀ (ts : List Token) (inBlock : Bool) (previous : Option Serialize.Kind)
    (place : Place) (left : Option Token) (blank : Bool),
    (listMarks inBlock previous place left blank ts).flatMap Mark.plain =
      Serialize.tokensAfter previous ts
  | [], _, _, _, _, _ => rfl
  | t :: rest, inBlock, previous, place, left, blank => by
    rw [listMarks, tokensAfter_cons, List.flatMap_append]
    congr 1
    split
    · rw [List.flatMap_append, Token.plain_marks t, plain_listMarks rest]
    split
    · rw [List.flatMap_append, Token.plain_marks t, plain_listMarks rest]
    · rw [List.flatMap_append, List.flatMap_append, plain_gapMarks, Token.plain_marks t,
        plain_listMarks rest, List.nil_append]

end

theorem plain_headMarks (keyword : Text) (prelude : List Token) :
    (headMarks keyword prelude).flatMap Mark.plain = atRuleHead false keyword prelude := by
  have hlead : ∀ p : Prop, [Decidable p] →
      (if p then [] else [Mark.lead]).flatMap Mark.plain = [] := fun p _ => by split <;> rfl
  rw [headMarks, List.cons_append, List.flatMap_cons, List.flatMap_append, hlead, plain_listMarks]
  rfl

theorem plain_bodyMarks (content : List Token) :
    (bodyMarks content).flatMap Mark.plain = braced (Serialize.tokens content) := by
  rw [bodyMarks, List.flatMap_append, List.flatMap_cons, plain_listMarks]
  rfl

mutual

theorem Node.plain_marks : ∀ n : Node, n.marks.flatMap Mark.plain = n.generate false
  | .whitespace text | .comment text => List.append_nil _
  | .rule r => by
    rw [Node.marks, List.flatMap_append, plain_listMarks, plain_bodyMarks]
    rfl
  | .statement keyword prelude => by
    rw [Node.marks, List.flatMap_append, plain_headMarks]
    rfl
  | .rawBlock keyword prelude content => by
    rw [Node.marks, List.flatMap_append, plain_headMarks, plain_bodyMarks]
    rfl
  | .ruleBlock keyword prelude nodes => by
    rw [Node.marks, List.flatMap_append, List.flatMap_append, List.flatMap_cons, plain_headMarks,
      plain_nodeMarks nodes, Node.generate, List.append_assoc]
    rfl

/-- The plain form writes the marks. -/
theorem plain_nodeMarks : ∀ nodes : List Node,
    (nodeMarks nodes).flatMap Mark.plain = generateAll false nodes
  | [] => rfl
  | n :: rest => by
    rw [nodeMarks, List.flatMap_append, Node.plain_marks n, plain_nodeMarks rest, generateAll]

end

/-! ## The compact form -/

section

variable {t : Token}

theorem piece_of_blank (h : t.isBlank = true) : Compact.piece t = .blank := by
  rw [piece_eq, Token.piece, if_pos (by rwa [Token.isBlank_compact])]

theorem piece_of_not_blank (h : t.isBlank = false) : Compact.piece t ≠ .blank := by
  rw [piece_eq]
  exact piece_ne_blank (by rwa [Token.isBlank_compact])

theorem isTight_piece (tight : Tight) (h : t.isBlank = false) :
    Compact.isTight tight (Compact.piece t).text = t.isTight tight := by
  rw [piece_eq, text_piece (by rwa [Token.isBlank_compact]), isTight_text]
  cases t <;> rfl

end

theorem compact_separatorMarks (previous : Option Serialize.Kind) (t : Token) :
    (separatorMarks previous t).flatMap Mark.compact = [] := by cases previous <;> rfl

theorem compact_blank {t : Token} (h : t.isBlank = true) : t.marks.flatMap Mark.compact = [] := by
  cases t with
  | leaf p l =>
    cases l with
    | whitespace | comment => rfl
    | _ => cases h
  | block | function => cases h

/-- What the compact form knows of the token before a gap. -/
def shownBefore (left : Option Token) : Option Text := left.map fun t => (Compact.piece t).text

/-- The token before a gap is no blank. -/
def Shown (left : Option Token) : Prop := ∀ t ∈ left, t.isBlank = false

theorem joinAfter_piece {t : Token} (place : Place) {left : Option Token} (hleft : Shown left)
    (blank : Bool) (ht : t.isBlank = false) (rest : List Piece) :
    Compact.joinAfter place.tight (shownBefore left) blank (Compact.piece t :: rest) =
      (gapMarks place left blank t).flatMap Mark.compact ++ (Compact.piece t).text ++
        Compact.joinAfter place.tight (shownBefore (some t)) false rest := by
  rw [joinAfter_cons (piece_of_not_blank ht), isTight_piece _ ht]
  congr 2
  cases left with
  | none => rfl
  | some l =>
    rw [shownBefore, Option.map_some, Option.elim_some, isTight_piece _ (hleft l rfl), gapMarks]
    cases blank with
    | false => rfl
    | true =>
      rw [if_pos rfl, List.flatMap_singleton, Mark.compact]
      cases l.isTight place.tight <;> cases t.isTight place.tight <;> rfl

/-! ### Statements -/

/-- What is known behind some pieces: the text of the last one that is no blank, and whether there
were blanks since. -/
def pieceEnding (previous : Option Text) (blank : Bool) : List Piece → Option Text × Bool
  | [] => (previous, blank)
  | .blank :: rest => pieceEnding previous true rest
  | piece :: rest => pieceEnding (some piece.text) false rest

theorem pieceEnding_cons {piece : Piece} (h : piece ≠ .blank) (previous : Option Text)
    (blank : Bool) (rest : List Piece) :
    pieceEnding previous blank (piece :: rest) = pieceEnding (some piece.text) false rest := by
  cases piece <;> first | rfl | exact absurd rfl h

theorem pieceEnding_append : ∀ (xs ys : List Piece) (previous : Option Text) (blank : Bool),
    pieceEnding previous blank (xs ++ ys) =
      pieceEnding (pieceEnding previous blank xs).1 (pieceEnding previous blank xs).2 ys
  | [], _, _, _ => rfl
  | x :: xs, ys, previous, blank => by
    cases x <;> exact pieceEnding_append xs ys _ _

theorem joinAfter_append (tight : Tight) : ∀ (xs ys : List Piece) (previous : Option Text)
    (blank : Bool), Compact.joinAfter tight previous blank (xs ++ ys) =
      Compact.joinAfter tight previous blank xs ++
        Compact.joinAfter tight (pieceEnding previous blank xs).1
          (pieceEnding previous blank xs).2 ys
  | [], _, _, _ => rfl
  | x :: xs, ys, previous, blank => by
    have ih := joinAfter_append tight xs ys
    by_cases hx : x = .blank
    · subst hx
      exact ih previous true
    · rw [List.cons_append, joinAfter_cons hx, joinAfter_cons hx, ih, pieceEnding_cons hx]
      simp only [List.append_assoc]

/-- A piece at the end of a statement. -/
theorem join_append (place : Place) {left : Option Token} {blank : Bool} {pieces : List Piece}
    (hending : pieceEnding none false pieces = (shownBefore left, blank)) (ys : List Piece) :
    Compact.join place.tight (pieces ++ ys) = Compact.join place.tight pieces ++
      Compact.joinAfter place.tight (shownBefore left) blank ys := by
  rw [Compact.join, joinAfter_append, hending, Compact.join]

theorem piece_of_semicolon {t : Token} (h : t.isLiteral ";" = true) :
    Compact.piece t = .semicolon := by
  obtain ⟨_, rfl⟩ := Token.eq_of_isLiteral h
  rfl

theorem piece_of_curly {t : Token} (h : t.isCurly = true) :
    ∃ text, Compact.piece t = .curly text := by
  rcases t with _ | ⟨_, b, _, _⟩ | _
  · cases h
  · cases b <;> first | exact ⟨_, rfl⟩ | cases h
  · cases h

theorem piece_of_other {t : Token} (hblank : t.isBlank = false)
    (hsemicolon : ¬t.isLiteral ";" = true) (hcurly : ¬t.isCurly = true) :
    ∃ text, Compact.piece t = .other text := by
  refine ⟨t.compact.text, ?_⟩
  rw [piece_eq, Token.piece, Token.isBlank_compact, Token.isLiteral_compact,
    Token.isCurly_compact, hblank, if_neg Bool.false_ne_true, if_neg hsemicolon, if_neg hcurly]

theorem ends_of_isBlank {t : Token} (h : t.isBlank = true) :
    t.isLiteral ";" = false ∧ t.isCurly = false := by
  cases t with
  | leaf p l =>
    cases l with
    | whitespace | comment => exact ⟨rfl, rfl⟩
    | _ => cases h
  | block | function => cases h

theorem joinBlock_blank (statement rest : List Piece) :
    Compact.joinBlock statement (.blank :: rest) = Compact.joinBlock (.blank :: statement) rest :=
  rfl

theorem joinBlock_other (statement : List Piece) (text : Text) (rest : List Piece) :
    Compact.joinBlock statement (.other text :: rest) =
      Compact.joinBlock (.other text :: statement) rest := rfl

theorem statementPlace_cons {t : Token} (hsemicolon : ¬t.isLiteral ";" = true)
    (hcurly : ¬t.isCurly = true) (rest : List Token) :
    statementPlace (t :: rest) = statementPlace rest := by
  rw [statementPlace, if_neg hsemicolon, if_neg hcurly]

mutual

theorem Token.compact_marks : ∀ t : Token, t.isBlank = false →
    t.marks.flatMap Mark.compact = (Compact.piece t).text
  | .leaf p l, h => by
    rw [piece_eq, text_piece (by rwa [Token.isBlank_compact])]
    cases l <;> first | exact List.append_nil _ | cases h
  | .block p b content closed, _ => by
    have hlist := compact_listMarks content none .arguments none false nofun
    have hblock := compact_blockMarks content [] none none false nofun rfl
    rw [Token.marks, List.flatMap_append, List.flatMap_cons]
    cases b with
    | curly =>
      rw [if_pos rfl, Compact.piece, hblock]
      rfl
    | paren | square =>
      rw [if_neg nofun, hlist]
      rfl
  | .function p name arguments closed, _ => by
    have hlist := compact_listMarks arguments none .arguments none false nofun
    have hclose : (if endsBroken arguments then Mark.missing
        else .piece [.char ')']).compact = [.char ')'] := by split <;> rfl
    rw [Token.marks, List.flatMap_append, List.flatMap_cons, hlist, List.flatMap_singleton, hclose,
      Compact.piece]
    simp [Mark.compact, Compact.join, Piece.text, shownBefore, Place.tight]

theorem compact_listMarks : ∀ (ts : List Token) (previous : Option Serialize.Kind) (place : Place)
    (left : Option Token) (blank : Bool), Shown left →
    (listMarks false previous place left blank ts).flatMap Mark.compact =
      Compact.joinAfter place.tight (shownBefore left) blank (Compact.pieces ts)
  | [], _, _, _, _, _ => rfl
  | t :: rest, previous, place, left, blank, hleft => by
    have ih := compact_listMarks rest (some (Serialize.kind t)) place
    rw [listMarks, Compact.pieces, List.flatMap_append, compact_separatorMarks, List.nil_append,
      Bool.false_and, if_neg Bool.false_ne_true]
    split
    case isTrue hblank =>
      rw [List.flatMap_append, compact_blank hblank, ih left true hleft, piece_of_blank hblank]
      rfl
    case isFalse hblank =>
      have hblank := Bool.eq_false_iff.2 hblank
      rw [List.flatMap_append, List.flatMap_append, Token.compact_marks t hblank,
        ih (some t) false fun u hu => Option.some.inj hu ▸ hblank,
        joinAfter_piece place hleft blank hblank]

/-- `statement` holds the pieces of the statement so far, last one first. -/
theorem compact_blockMarks : ∀ (ts : List Token) (statement : List Piece)
    (previous : Option Serialize.Kind) (left : Option Token) (blank : Bool), Shown left →
    pieceEnding none false statement.reverse = (shownBefore left, blank) →
    Compact.joinBlock statement (Compact.pieces ts) =
      Compact.join (statementPlace ts).tight statement.reverse ++
        (listMarks true previous (statementPlace ts) left blank ts).flatMap Mark.compact
  | [], statement, _, _, _, _, _ => (List.append_nil _).symm
  | t :: rest, statement, previous, left, blank, hleft, hending => by
    have ih := fun statement => compact_blockMarks rest statement (some (Serialize.kind t))
    rw [listMarks, Compact.pieces, List.flatMap_append, compact_separatorMarks, List.nil_append,
      Bool.true_and]
    by_cases hblank : t.isBlank = true
    · obtain ⟨hsemicolon, hcurly⟩ := ends_of_isBlank hblank
      have hreverse : pieceEnding none false (Piece.blank :: statement).reverse =
          (shownBefore left, true) := by
        rw [List.reverse_cons, pieceEnding_append, hending]
        rfl
      rw [if_pos hblank, List.flatMap_append, compact_blank hblank, List.nil_append,
        statementPlace_cons (by simp [hsemicolon]) (by simp [hcurly]), piece_of_blank hblank,
        joinBlock_blank, ih _ left true hleft hreverse, List.reverse_cons, join_append _ hending]
      exact congrArg (· ++ _) (List.append_nil _)
    have hnotBlank := Bool.eq_false_iff.2 hblank
    rw [if_neg hblank]
    by_cases hsemicolon : t.isLiteral ";" = true
    · have hrest := ih [] none false nofun rfl
      have hends : t.endsStatement = true := by rw [Token.endsStatement, hsemicolon, Bool.true_or]
      rw [if_pos hends, List.flatMap_append, Token.compact_marks t hnotBlank,
        piece_of_semicolon hsemicolon, statementPlace, if_pos hsemicolon, Compact.joinBlock, hrest]
      rfl
    by_cases hcurly : t.isCurly = true
    · obtain ⟨text, htext⟩ := piece_of_curly hcurly
      have hrest := ih [] none false nofun rfl
      have hends : t.endsStatement = true := by rw [Token.endsStatement, hcurly, Bool.or_true]
      rw [if_pos hends, List.flatMap_append, Token.compact_marks t hnotBlank, htext,
        statementPlace, if_neg hsemicolon, if_pos hcurly,
        Compact.joinBlock, hrest, List.append_assoc]
      rfl
    · obtain ⟨text, htext⟩ := piece_of_other hnotBlank hsemicolon hcurly
      have hshown : Shown (some t) := fun u hu => Option.some.inj hu ▸ hnotBlank
      have hreverse : pieceEnding none false (Piece.other text :: statement).reverse =
          (shownBefore (some t), false) := by
        rw [List.reverse_cons, pieceEnding_append, hending, ← htext]
        simp [pieceEnding, shownBefore, htext]
      have hgap := joinAfter_piece (statementPlace rest) hleft blank hnotBlank []
      have hends : ¬t.endsStatement = true := by simp [Token.endsStatement, hsemicolon, hcurly]
      rw [if_neg hends, List.flatMap_append, List.flatMap_append, Token.compact_marks t hnotBlank,
        statementPlace_cons hsemicolon hcurly, htext,
        joinBlock_other, ih _ (some t) false hshown hreverse, List.reverse_cons,
        join_append _ hending]
      rw [htext] at hgap
      rw [hgap, Compact.joinAfter]
      simp only [List.append_assoc, List.nil_append]

end

/-! ### Nodes -/

theorem compact_headMarks (keyword : Text) (prelude : List Token) :
    (headMarks keyword prelude).flatMap Mark.compact = atRuleHead true keyword prelude := by
  have hlist : (listMarks false none .arguments none false prelude).flatMap Mark.compact =
      Compact.tokens argumentTight prelude :=
    compact_listMarks prelude none .arguments none false nofun
  rw [headMarks, hlist, List.cons_append, List.flatMap_cons, List.flatMap_append, hlist, atRuleHead]
  dsimp only
  rw [if_pos rfl]
  split
  case isTrue hempty =>
    rw [List.isEmpty_iff.1 hempty]
    exact List.append_nil _
  case isFalse => rfl

theorem compact_bodyMarks (content : List Token) :
    (bodyMarks content).flatMap Mark.compact = braced (Compact.block content) := by
  have hblock := compact_blockMarks content [] none none false nofun rfl
  rw [bodyMarks, List.flatMap_append, List.flatMap_cons, braced, Compact.block, hblock]
  rfl

mutual

theorem Node.compact_marks : ∀ n : Node, n.marks.flatMap Mark.compact = n.generate true
  | .whitespace text => rfl
  | .comment text => List.append_nil _
  | .rule r => by
    rw [Node.marks, List.flatMap_append, compact_bodyMarks,
      compact_listMarks r.selector none .selector none false nofun]
    rfl
  | .statement keyword prelude => by
    rw [Node.marks, List.flatMap_append, compact_headMarks]
    rfl
  | .rawBlock keyword prelude content => by
    rw [Node.marks, List.flatMap_append, compact_headMarks, compact_bodyMarks]
    rfl
  | .ruleBlock keyword prelude nodes => by
    rw [Node.marks, List.flatMap_append, List.flatMap_append, List.flatMap_cons, compact_headMarks,
      compact_nodeMarks nodes, Node.generate, List.append_assoc]
    rfl

/-- The compact form writes the marks. -/
theorem compact_nodeMarks : ∀ nodes : List Node,
    (nodeMarks nodes).flatMap Mark.compact = generateAll true nodes
  | [] => rfl
  | n :: rest => by
    rw [nodeMarks, List.flatMap_append, Node.compact_marks n, compact_nodeMarks rest, generateAll]

end

/-! ## Neighbours -/

theorem pieces_append : ∀ xs ys : List Token,
    Compact.pieces (xs ++ ys) = Compact.pieces xs ++ Compact.pieces ys
  | [], _ => rfl
  | t :: xs, ys => by
    rw [List.cons_append, Compact.pieces, pieces_append xs, Compact.pieces, List.cons_append]

theorem pieceEnding_pieces {t : Token} (ht : t.isBlank = false) (before : List Token) :
    pieceEnding none false (Compact.pieces (before ++ [t])) = (shownBefore (some t), false) := by
  rw [pieces_append, pieceEnding_append, Compact.pieces, pieceEnding_cons (piece_of_not_blank ht)]
  rfl

theorem joinAfter_blanks (tight : Tight) (previous : Option Text) (rest : List Piece) :
    ∀ (blanks : List Token) (blank : Bool), (∀ b ∈ blanks, b.isBlank = true) →
      Compact.joinAfter tight previous blank (Compact.pieces blanks ++ rest) =
        Compact.joinAfter tight previous (blank || !blanks.isEmpty) rest
  | [], blank, _ => by rw [List.isEmpty_nil, Bool.not_true, Bool.or_false]; rfl
  | b :: blanks, blank, h => by
    obtain ⟨hb, hblanks⟩ := List.forall_mem_cons.1 h
    rw [Compact.pieces, piece_of_blank hb, List.cons_append, Compact.joinAfter,
      joinAfter_blanks tight previous rest blanks true hblanks]
    simp

/-- Of the blanks between two neighbours one space is left, or none next to a tight delimiter. -/
theorem tokens_neighbours (place : Place) (before : List Token) {t u : Token} {blanks : List Token}
    (ht : t.isBlank = false) (hu : u.isBlank = false) (hblanks : ∀ b ∈ blanks, b.isBlank = true)
    (rest : List Token) :
    Compact.tokens place.tight (before ++ t :: (blanks ++ u :: rest)) =
      Compact.tokens place.tight (before ++ [t]) ++
        (if blanks.isEmpty || t.isTight place.tight || u.isTight place.tight then []
          else [.char ' ']) ++
        Compact.tokens place.tight (u :: rest) := by
  have hshown : Shown (some t) := fun v hv => Option.some.inj hv ▸ ht
  have hnone : Shown none := nofun
  have hfirst : Compact.tokens place.tight (u :: rest) =
      (Compact.piece u).text ++
        Compact.joinAfter place.tight (shownBefore (some u)) false (Compact.pieces rest) :=
    joinAfter_piece place hnone false hu (Compact.pieces rest)
  have hsplit : before ++ t :: (blanks ++ u :: rest) =
      (before ++ [t]) ++ (blanks ++ u :: rest) := by
    simp
  rw [hfirst, hsplit, Compact.tokens, pieces_append (before ++ [t]),
    join_append place (pieceEnding_pieces ht before), pieces_append blanks,
    joinAfter_blanks _ _ _ _ _ hblanks, Compact.pieces, joinAfter_piece place hshown _ hu]
  simp only [Compact.tokens, List.append_assoc]
  congr 2
  cases blanks with
  | nil => rfl
  | cons b blanks => exact List.flatMap_singleton ..

/-! ## Pieces -/

theorem missing_not_mem_between (previous : Option Serialize.Kind) (place : Place)
    (left : Option Token) (blank : Bool) (t : Token) :
    .missing ∉ separatorMarks previous t ∧ .missing ∉ gapMarks place left blank t := by
  cases previous <;> cases left <;> cases blank <;> simp [separatorMarks, gapMarks]

theorem missing_mem_listMarks_iff : ∀ (ts : List Token) (inBlock : Bool)
    (previous : Option Serialize.Kind) (place : Place) (left : Option Token) (blank : Bool),
    .missing ∈ listMarks inBlock previous place left blank ts ↔ ∃ t ∈ ts, .missing ∈ t.marks
  | [], _, _, _, _, _ => by simp [listMarks]
  | t :: rest, inBlock, previous, place, left, blank => by
    obtain ⟨hseparator, hgap⟩ := missing_not_mem_between previous place left blank t
    have ih := missing_mem_listMarks_iff rest
    rw [listMarks, List.mem_append, or_iff_right hseparator]
    simp only [List.mem_cons, exists_eq_or_imp]
    split
    · rw [List.mem_append, ih]
    split
    · rw [List.mem_append, ih]
    · rw [List.append_assoc, List.mem_append, or_iff_right hgap, List.mem_append, ih]

mutual

theorem Token.missing_mem_marks : ∀ t : Token, .missing ∈ t.marks ↔ t.isCut = true
  | .leaf p l => by
    refine iff_of_false (fun h => ?_) nofun
    rw [Token.marks] at h
    split at h <;> cases List.mem_singleton.1 h
  | .block p b content closed => by
    have hlist := fun inBlock place =>
      (missing_mem_listMarks_iff content inBlock none place none false).trans
        (missing_mem_each content)
    rw [Token.marks, Token.isCut, List.mem_append, List.mem_cons]
    split <;> simp [hlist]
  | .function p name arguments closed => by
    have hlist := (missing_mem_listMarks_iff arguments false none .arguments none false).trans
      (missing_mem_each arguments)
    rw [Token.marks, Token.isCut, List.mem_append, List.mem_cons, hlist, Bool.or_eq_true]
    split <;> simp [*]

theorem missing_mem_each : ∀ ts : List Token,
    (∃ t ∈ ts, .missing ∈ t.marks) ↔ anyCut ts = true
  | [] => by simp [anyCut]
  | t :: rest => by
    simp only [List.mem_cons, exists_eq_or_imp, anyCut, Bool.or_eq_true,
      Token.missing_mem_marks t, missing_mem_each rest]

end

theorem missing_mem_listMarks (ts : List Token) (inBlock : Bool) (place : Place) :
    .missing ∈ listMarks inBlock none place none false ts ↔ anyCut ts = true :=
  (missing_mem_listMarks_iff ts inBlock none place none false).trans (missing_mem_each ts)

mutual

theorem Node.missing_mem_marks : ∀ n : Node, .missing ∈ n.marks ↔ n.isCut = true
  | .whitespace text | .comment text => by simp [Node.marks, Node.isCut]
  | .rule r => by
    simp [Node.marks, Node.isCut, bodyMarks, missing_mem_listMarks]
  | .statement keyword prelude => by
    simp [Node.marks, Node.isCut, headMarks, missing_mem_listMarks]
  | .rawBlock keyword prelude content => by
    simp [Node.marks, Node.isCut, headMarks, bodyMarks, missing_mem_listMarks]
  | .ruleBlock keyword prelude nodes => by
    simp [Node.marks, Node.isCut, headMarks, missing_mem_listMarks, missing_mem_nodeMarks nodes]

/-- A closing bracket is missing in the plain form just if a function is cut off. -/
theorem missing_mem_nodeMarks : ∀ nodes : List Node,
    .missing ∈ nodeMarks nodes ↔ nodesCut nodes = true
  | [] => by simp [nodeMarks, nodesCut]
  | n :: rest => by
    rw [nodeMarks, nodesCut, List.mem_append, Bool.or_eq_true, Node.missing_mem_marks n,
      missing_mem_nodeMarks rest]

end

theorem length_pieces_le (marks : List Mark) :
    (marks.filterMap Mark.plainPiece?).length ≤ (marks.filterMap Mark.compactPiece?).length := by
  induction marks with
  | nil => exact Nat.le_refl _
  | cons m marks ih =>
    cases m <;> simp [List.filterMap_cons, Mark.plainPiece?, Mark.compactPiece?] <;> omega

/-- The two forms write the same pieces just if no closing bracket is missing. -/
theorem pieces_eq_iff (marks : List Mark) :
    marks.filterMap Mark.plainPiece? = marks.filterMap Mark.compactPiece? ↔ .missing ∉ marks := by
  induction marks with
  | nil => exact iff_of_true rfl nofun
  | cons m marks ih =>
    cases m with
    | missing =>
      refine iff_of_false (fun h => ?_) fun h => h List.mem_cons_self
      have hlength := congrArg List.length h
      have hle := length_pieces_le marks
      simp [List.filterMap_cons, Mark.plainPiece?, Mark.compactPiece?] at hlength
      omega
    | _ => simpa [List.filterMap_cons, Mark.plainPiece?, Mark.compactPiece?] using ih

/-- Of a clear style sheet, with its comments stripped, the two forms have the same pieces. -/
theorem pieces_eq_of_isClear {css : List Char} {s : Sheet} (hc : isClear css = true)
    (h : read css = .ok s) :
    (nodeMarks s.stripComments).filterMap Mark.plainPiece? =
      (nodeMarks s.stripComments).filterMap Mark.compactPiece? := by
  rw [pieces_eq_iff, missing_mem_nodeMarks, nodesCut_stripComments (nodesCut_of_isClear hc h)]
  exact Bool.false_ne_true

/-- The compact form drops only blanks. Both forms write the marks of the tree in their order: the
compact form leaves out the blanks, and it writes one space for those between two neighbours of a
list, unless one of these needs no space beside it there, and one before the prelude of an at-rule.
The pieces are the same just if no function is cut off. -/
theorem minified_drops_blanks (s : Sheet) :
    generateAll false s = (nodeMarks s).flatMap Mark.plain ∧
      generateAll true s = (nodeMarks s).flatMap Mark.compact ∧
      (∀ (place : Place) (before blanks rest : List Token) (t u : Token), t.isBlank = false →
        u.isBlank = false → (∀ b ∈ blanks, b.isBlank = true) →
        Compact.tokens place.tight (before ++ t :: (blanks ++ u :: rest)) =
          Compact.tokens place.tight (before ++ [t]) ++
            (if blanks.isEmpty || t.isTight place.tight || u.isTight place.tight then []
              else [.char ' ']) ++
            Compact.tokens place.tight (u :: rest)) ∧
      ((nodeMarks s).filterMap Mark.plainPiece? = (nodeMarks s).filterMap Mark.compactPiece? ↔
        nodesCut s = false) := by
  refine ⟨(plain_nodeMarks s).symm, (compact_nodeMarks s).symm, ?_, ?_⟩
  · exact fun place before blanks rest t u ht hu hblanks =>
      tokens_neighbours place before ht hu hblanks rest
  · rw [pieces_eq_iff, missing_mem_nodeMarks, Bool.not_eq_true]

/-- A function that an unended string leaves open: the plain form writes no bracket for it, and the
compact form does. -/
theorem minified_open_function :
    ((read "a\x7bb:f(url(/*)\"x".toList).toOption.map fun s =>
      (generateAll false s, generateAll true s,
        (nodeMarks s).filterMap Mark.plainPiece? == (nodeMarks s).filterMap Mark.compactPiece?)) =
      some (Text.ofString "a\x7bb:f(url(/*)\"x\x7d",
        Text.ofString "a\x7bb:f(url(/*)\"x)\x7d", false) := by
  simp only [← plain_nodeMarks, ← compact_nodeMarks]
  decide +kernel

end StylePrune.Css
