import StylePrune.Css.Generate
import StylePrune.Css.Walk

/-!
# The compact form as tokens

The compact form of some tokens is again a list of tokens, written side by side
(`tokens_eq_textOf`): of the blanks between them one space is left where neighbours need it, at every
depth.
-/

namespace StylePrune.Css

open Css.Compact (Tight Piece selectorTight declarationTight argumentTight)

mutual

def Token.text : Token → Text
  | .leaf _ l => Serialize.leaf l
  | .block _ b content _ => .char b.opener :: textOf content ++ [.char b.closer]
  | .function _ n arguments _ =>
    Serialize.identifier n ++ .char '(' :: textOf arguments ++ [.char ')']

/-- The text of tokens that are written side by side. -/
def textOf : List Token → Text
  | [] => []
  | t :: rest => t.text ++ textOf rest

end

/-- A delimiter that needs no space beside it. -/
def Token.isTight (tight : Tight) : Token → Bool
  | .leaf _ l => Compact.isTight tight (Serialize.leaf l)
  | _ => false

def Token.isCurly : Token → Bool
  | .block _ .curly _ _ => true
  | _ => false

/-- Whether a token ends a statement of a block. -/
def Token.endsStatement (t : Token) : Bool := t.isLiteral ";" || t.isCurly

/-- A single space. -/
def space : Token := .leaf default (.whitespace [' '])

/-- Tokens with the spaces that they need: `loose` says whether a token stands before them that may
need one behind it, `blank` whether there were blanks since. -/
def compactedAfter (tight : Tight) (loose blank : Bool) : List Token → List Token
  | [] => []
  | t :: rest =>
    if t.isBlank then compactedAfter tight loose true rest
    else
      (if blank && loose && !t.isTight tight then [space] else []) ++
        t :: compactedAfter tight (!t.isTight tight) false rest

def compacted (tight : Tight) (ts : List Token) : List Token := compactedAfter tight false false ts

/-- The body of a block, statement by statement; `statement` holds the tokens since the last end,
last one first. -/
def compactedBlock (statement : List Token) : List Token → List Token
  | [] => compacted declarationTight statement.reverse
  | t :: rest =>
    if t.isLiteral ";" then
      compacted declarationTight statement.reverse ++ t :: compactedBlock [] rest
    else if t.isCurly then
      compacted selectorTight statement.reverse ++ t :: compactedBlock [] rest
    else compactedBlock (t :: statement) rest

/-- What stands between two brackets. -/
def compactedContent (b : Bracket) (ts : List Token) : List Token :=
  if b = .curly then compactedBlock [] ts else compacted argumentTight ts

mutual

/-- A token with what it holds in compact form. -/
def Token.compact : Token → Token
  | .leaf p l => .leaf p l
  | .block p b content closed => .block p b (compactedContent b (compactEach content)) closed
  | .function p n arguments closed =>
    .function p n (compactedContent .paren (compactEach arguments)) closed

def compactEach : List Token → List Token
  | [] => []
  | t :: rest => t.compact :: compactEach rest

end

theorem textOf_append : ∀ xs ys : List Token, textOf (xs ++ ys) = textOf xs ++ textOf ys
  | [], _ => rfl
  | t :: xs, ys => by
    rw [List.cons_append, textOf, textOf_append xs, textOf, List.append_assoc]

/-! ## Pieces -/

/-- What the compact form makes of a token, once what the token holds is compact. -/
def Token.piece (t : Token) : Piece :=
  if t.isBlank then .blank
  else if t.isLiteral ";" then .semicolon
  else if t.isCurly then .curly t.text
  else .other t.text

variable {tight : Tight} {t : Token}

theorem Token.isBlank_stripComments (t : Token) : t.stripComments.isBlank = t.isBlank := by
  cases t with
  | leaf p l => cases l <;> rfl
  | block | function => rfl

@[simp] theorem Token.isBlank_compact : t.compact.isBlank = t.isBlank := by cases t <;> rfl

@[simp] theorem Token.isCurly_compact : t.compact.isCurly = t.isCurly := by
  rcases t with _ | ⟨_, b, _, _⟩ | _
  · rfl
  · cases b <;> rfl
  · rfl

@[simp] theorem Token.isLiteral_compact {text : String} :
    t.compact.isLiteral text = t.isLiteral text := by cases t <;> rfl

@[simp] theorem Token.isTight_compact : t.compact.isTight tight = t.isTight tight := by
  cases t <;> rfl

theorem isBlank_of_isLiteral {text : String} (h : t.isLiteral text = true) : t.isBlank = false := by
  cases t with
  | leaf p l =>
    cases l with
    | whitespace | comment => cases h
    | _ => rfl
  | block | function => rfl

theorem text_of_semicolon (h : t.isLiteral ";" = true) : t.text = [.char ';'] := by
  cases t with
  | leaf p l =>
    cases l with
    | literal cs =>
      obtain rfl : cs = [';'] := of_decide_eq_true h
      rfl
    | _ => cases h
  | block | function => cases h

theorem text_piece (h : t.isBlank = false) : t.piece.text = t.text := by
  rw [Token.piece, if_neg (by simp [h])]
  split
  · rw [text_of_semicolon ‹_›]
    rfl
  · split <;> rfl

theorem piece_ne_blank (h : t.isBlank = false) : t.piece ≠ .blank := by
  rw [Token.piece, if_neg (by simp [h])]
  split
  · exact Piece.noConfusion
  · split <;> exact Piece.noConfusion

theorem char_of_isTight {text : Text} (h : Compact.isTight tight text = true) :
    ∃ c, text = [.char c] ∧ c ∈ tight := by
  unfold Compact.isTight at h
  split at h
  · exact ⟨_, rfl, List.contains_iff_mem.1 h⟩
  · cases h

/-- Only a text of one character is tight. -/
theorem length_of_isTight {text : Text} (h : Compact.isTight tight text = true) :
    text.length = 1 := by
  obtain ⟨c, rfl, -⟩ := char_of_isTight h
  rfl

theorem isTight_text : Compact.isTight tight t.text = t.isTight tight := by
  cases t with
  | leaf => rfl
  | block p b content closed =>
    rw [show Token.isTight tight (.block p b content closed) = false from rfl, Bool.eq_false_iff]
    intro h
    have hlength := length_of_isTight h
    simp [Token.text] at hlength
  | function p n arguments closed =>
    rw [show Token.isTight tight (.function p n arguments closed) = false from rfl,
      Bool.eq_false_iff]
    intro h
    have hlength := length_of_isTight h
    simp only [Token.text, List.length_append, List.length_cons] at hlength
    omega

/-! ## Lists -/

theorem joinAfter_cons {piece : Piece} (h : piece ≠ .blank) (previous : Option Text) (blank : Bool)
    (rest : List Piece) : Compact.joinAfter tight previous blank (piece :: rest) =
      (if previous.elim false
          (fun before => blank && !Compact.isTight tight before &&
            !Compact.isTight tight piece.text) then [.char ' '] else []) ++ piece.text ++
        Compact.joinAfter tight (some piece.text) false rest := by
  cases piece with
  | blank => exact absurd rfl h
  | _ => cases previous <;> rfl

theorem joinAfter_pieces : ∀ (ts : List Token) (previous : Option Text) (blank : Bool),
    Compact.joinAfter tight previous blank (ts.map Token.piece) = textOf (compactedAfter tight
      (previous.elim false fun before => !Compact.isTight tight before) blank ts)
  | [], _, _ => rfl
  | t :: rest, previous, blank => by
    rw [List.map_cons, compactedAfter]
    cases hblank : t.isBlank with
    | true =>
      rw [if_pos rfl, ← joinAfter_pieces rest previous true, Token.piece, if_pos hblank]
      rfl
    | false =>
      rw [joinAfter_cons (piece_ne_blank hblank), joinAfter_pieces rest, if_neg Bool.false_ne_true,
        text_piece hblank, textOf_append, textOf, Option.elim_some, isTight_text, List.append_assoc]
      congr 1
      cases previous with
      | none => simp [textOf]
      | some before =>
        rw [apply_ite textOf]
        rfl

theorem join_pieces (ts : List Token) :
    Compact.join tight (ts.map Token.piece) = textOf (compacted tight ts) :=
  joinAfter_pieces ts none false

theorem joinBlock_pieces : ∀ ts statement : List Token,
    Compact.joinBlock (statement.map Token.piece) (ts.map Token.piece) =
      textOf (compactedBlock statement ts)
  | [], statement => by
    rw [List.map_nil, Compact.joinBlock, compactedBlock, ← List.map_reverse, join_pieces]
  | t :: rest, statement => by
    have hends := joinBlock_pieces rest []
    have hmore := joinBlock_pieces rest (t :: statement)
    rw [List.map_nil] at hends
    rw [List.map_cons] at hmore ⊢
    rw [compactedBlock]
    by_cases hsemicolon : t.isLiteral ";" = true
    · rw [if_pos hsemicolon, textOf_append, textOf, ← hends, text_of_semicolon hsemicolon,
        ← join_pieces, List.map_reverse, Token.piece, isBlank_of_isLiteral hsemicolon,
        if_neg Bool.false_ne_true, if_pos hsemicolon]
      rfl
    rw [if_neg hsemicolon]
    by_cases hcurly : t.isCurly = true
    · have hblank : t.isBlank = false := by
        cases t with
        | leaf => cases hcurly
        | block | function => rfl
      rw [if_pos hcurly, textOf_append, textOf, ← hends, ← join_pieces, List.map_reverse,
        Token.piece, hblank, if_neg Bool.false_ne_true, if_neg hsemicolon, if_pos hcurly]
      exact List.append_assoc ..
    · rw [if_neg hcurly, ← hmore, Token.piece]
      cases t.isBlank <;> simp [hsemicolon, hcurly, Compact.joinBlock]

/-! ## Tokens at every depth -/

theorem content_pieces (b : Bracket) (ts : List Token) :
    (if b = .curly then Compact.joinBlock [] (ts.map Token.piece)
      else Compact.join argumentTight (ts.map Token.piece)) = textOf (compactedContent b ts) := by
  rw [compactedContent]
  split
  · exact joinBlock_pieces ts []
  · exact join_pieces ts

mutual

theorem piece_eq : ∀ t : Token, Compact.piece t = t.compact.piece
  | .leaf p l => by
    rw [Token.compact, Token.piece]
    cases l with
    | literal cs =>
      by_cases h : cs = [';']
      · subst h
        rfl
      · rw [Compact.piece]
        · simp [Token.isBlank, Token.isLiteral, Token.isCurly, h]
          rfl
        all_goals simp [h]
    | _ => rfl
  | .block p b content closed => by
    have hcontent := content_pieces b (compactEach content)
    rw [← pieces_eq content] at hcontent
    rw [Token.compact, Token.piece, Token.text, ← hcontent]
    cases b <;> rfl
  | .function p n arguments closed => by
    have hcontent := content_pieces .paren (compactEach arguments)
    rw [← pieces_eq arguments] at hcontent
    rw [Token.compact, Token.piece, Token.text, ← hcontent]
    rfl

theorem pieces_eq (ts : List Token) : Compact.pieces ts = (compactEach ts).map Token.piece := by
  cases ts with
  | nil => rfl
  | cons t rest => rw [Compact.pieces, piece_eq t, pieces_eq rest, compactEach, List.map_cons]

end

/-- The compact form of tokens is that of their compact tokens, side by side. -/
theorem tokens_eq_textOf (tight : Tight) (ts : List Token) :
    Compact.tokens tight ts = textOf (compacted tight (compactEach ts)) := by
  rw [Compact.tokens, pieces_eq, join_pieces]

end StylePrune.Css
