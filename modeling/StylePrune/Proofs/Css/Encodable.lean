import StylePrune.Proofs.Css.Spaceless

/-!
# What is written can be encoded

A tree can be written as text just if its tokens hold no surrogate: writing escapes characters and
passes surrogates on, token by token (`Serialize.isPlain_token`) and in the compact form
(`Compact.isPlain_piece`), hence for trees (`isPlain_generateAll`). Removals and the stripping of
comments add no such token (`isPlain_removeWhere`, `isPlain_stripNodes`), so what is left of a plain
tree is written as plain text (`isPlain_written_of_plain`).
-/

namespace StylePrune

namespace Text

theorem isPlain_cons (p : Point) (t : Text) : isPlain (p :: t) = (p.isChar && t.isPlain) := rfl

/-- A text written point by point, where surrogates alone are written with surrogates. -/
theorem isPlain_flatMap {f : Point → Text} (h : ∀ p, (f p).isPlain = p.isChar) (t : Text) :
    isPlain (t.flatMap f) = t.isPlain := by
  rw [isPlain, List.all_flatMap]
  exact congrArg t.all (funext h)

end Text

namespace Css

open Text (isPlain_append isPlain_cons isPlain_ofChars isPlain_ofString isPlain_flatMap)

/-! ## Plain tokens -/

/-- The decoded text that a leaf holds. -/
def Leaf.text : Leaf → Text
  | .ident t | .atKeyword t | .hash t _ | .string t _ | .url t _ | .dimension _ t => t
  | _ => []

mutual

/-- A token that holds no surrogate. -/
def Token.isPlain : Token → Bool
  | .leaf _ l => l.text.isPlain
  | .block _ _ content _ => arePlain content
  | .function _ name arguments _ => name.isPlain && arePlain arguments

def arePlain : List Token → Bool
  | [] => true
  | t :: rest => t.isPlain && arePlain rest

end

/-! ## Tokens as they are written -/

namespace Serialize

theorem isPlain_escaped (c : Char) : (escaped c).isPlain = true := isPlain_ofString _

theorem isPlain_namePoint (p : Point) : (namePoint p).isPlain = p.isChar := by
  cases p with
  | surrogate offset => rfl
  | char c =>
    rw [namePoint]
    split
    · rfl
    · exact isPlain_escaped c

theorem isPlain_name (value : Text) : (name value).isPlain = value.isPlain :=
  isPlain_flatMap isPlain_namePoint value

theorem isPlain_firstPoint (p : Point) : (firstPoint p).isPlain = p.isChar := by
  cases p with
  | surrogate offset => rfl
  | char c =>
    rw [firstPoint]
    split
    · rfl
    · split
      · exact isPlain_ofChars _
      · exact isPlain_escaped c

theorem isPlain_identifier (value : Text) : (identifier value).isPlain = value.isPlain := by
  cases value with
  | nil => rfl
  | cons p rest =>
    rw [identifier.eq_def]
    dsimp only
    split
    · rename_i hp
      obtain rfl : p = .char '-' := of_decide_eq_true hp
      cases rest with
      | nil => rfl
      | cons q more =>
        dsimp only
        split
        · rw [isPlain_cons, isPlain_cons, isPlain_name]
          rfl
        · rw [List.cons_append, isPlain_cons, isPlain_append, isPlain_firstPoint, isPlain_name]
          rfl
    · rw [isPlain_append, isPlain_firstPoint, isPlain_name]
      rfl

theorem isPlain_stringPoint (p : Point) : (stringPoint p).isPlain = p.isChar := by
  cases p with
  | surrogate offset => rfl
  | char c =>
    rw [stringPoint]
    split
    · exact isPlain_escaped c
    · rfl

theorem isPlain_quoted (value : Text) (ended : Bool) :
    (quoted value ended).isPlain = value.isPlain := by
  have hend : Text.isPlain (if ended then [.char '"'] else []) = true := by cases ended <;> rfl
  rw [quoted, isPlain_append, hend, isPlain_cons, isPlain_flatMap isPlain_stringPoint,
    Bool.and_true]
  rfl

theorem isPlain_urlPoint (p : Point) : (urlPoint p).isPlain = p.isChar := by
  cases p with
  | surrogate offset => rfl
  | char c =>
    rw [urlPoint]
    split
    · rfl
    · split
      · exact isPlain_escaped c
      · rfl

theorem isPlain_url (value : Text) (ended : Bool) : (url value ended).isPlain = value.isPlain := by
  have hend : Text.isPlain (if ended then [.char ')'] else []) = true := by cases ended <;> rfl
  rw [url, isPlain_append, hend, isPlain_append, isPlain_ofString,
    isPlain_flatMap isPlain_urlPoint, Bool.and_true, Bool.true_and]

theorem isPlain_unit (value : Text) : (unit value).isPlain = value.isPlain := by
  have hletter : ∀ {p : Point}, (p.is 'e' || p.is 'E') = true → p.isChar = true := by
    intro p h
    cases p with
    | char c => rfl
    | surrogate offset => cases h
  match value with
  | [] => rfl
  | [p] =>
    rw [unit]
    split
    · rw [isPlain_cons, hletter ‹_›]
      rfl
    · exact isPlain_identifier _
  | p :: q :: rest =>
    rw [unit]
    split
    · rename_i h
      rw [isPlain_append, isPlain_name, isPlain_cons p, hletter (Bool.and_eq_true_iff.1 h).1,
        isPlain_ofString]
    · exact isPlain_identifier _

theorem isPlain_fault (f : Fault) : (fault f).isPlain = true := by
  cases f <;> rfl

theorem isPlain_leaf (l : Leaf) : (leaf l).isPlain = l.text.isPlain := by
  cases l with
  | whitespace cs | literal cs | number cs | comment cs | percentage cs | unicodeRange first last =>
    exact isPlain_ofChars _
  | ident n => exact isPlain_identifier n
  | atKeyword n =>
    rw [leaf, isPlain_cons, isPlain_identifier]
    rfl
  | hash n isIdent =>
    rw [leaf, isPlain_cons]
    cases isIdent with
    | true => exact isPlain_identifier n
    | false => exact isPlain_name n
  | string value ended => exact isPlain_quoted value ended
  | url value ended => exact isPlain_url value ended
  | dimension cs u =>
    rw [leaf, isPlain_append, isPlain_ofChars, isPlain_unit]
    rfl
  | fault f => exact isPlain_fault f

theorem isPlain_separator (a b : Kind) : (separator a b).isPlain = true := by
  fun_cases separator a b <;> rfl

mutual

/-- A token is written as plain text just if it holds no surrogate. -/
theorem isPlain_token : ∀ t : Token, (token t).isPlain = t.isPlain
  | .leaf _ l => isPlain_leaf l
  | .block _ b content _ => by
    rw [token, isPlain_append, isPlain_cons, isPlain_tokensAfter, Token.isPlain]
    exact Bool.and_true _
  | .function _ n arguments _ => by
    have hend : Text.isPlain (if endInBrokenString arguments then [] else [.char ')']) = true := by
      split <;> rfl
    rw [token, isPlain_append, hend, isPlain_append, isPlain_identifier, isPlain_cons,
      isPlain_tokensAfter, Token.isPlain, Bool.and_true]
    rfl

theorem isPlain_tokensAfter : ∀ (ts : List Token) (previous : Option Kind),
    (tokensAfter previous ts).isPlain = arePlain ts
  | [], _ => rfl
  | t :: rest, previous => by
    have ih := isPlain_tokensAfter rest (some (kind t))
    cases previous with
    | none => rw [tokensAfter, List.nil_append, isPlain_append, isPlain_token, ih, arePlain]
    | some k =>
      rw [tokensAfter, isPlain_append, isPlain_append, isPlain_separator, isPlain_token, ih,
        arePlain, Bool.true_and]

end

end Serialize

/-! ## The compact form -/

namespace Compact

theorem isPlain_joinAfter (tight : Tight) : ∀ (pieces : List Piece) (previous : Option Text)
    (space : Bool), (joinAfter tight previous space pieces).isPlain =
      pieces.all fun piece => piece.text.isPlain
  | [], _, _ => rfl
  | piece :: rest, previous, space => by
    have ih := isPlain_joinAfter tight rest
    have hgap : ∀ gap : Bool, Text.isPlain (if gap then [.char ' '] else []) = true := by
      intro gap
      cases gap <;> rfl
    cases piece with
    | blank => exact ih previous true
    | _ =>
      rw [joinAfter.eq_def]
      dsimp only
      rw [isPlain_append, isPlain_append, hgap, ih, List.all_cons, Bool.true_and]

theorem isPlain_join (tight : Tight) (pieces : List Piece) :
    (join tight pieces).isPlain = pieces.all fun piece => piece.text.isPlain :=
  isPlain_joinAfter tight pieces none false

theorem isPlain_joinBlock : ∀ (pieces statement : List Piece),
    (joinBlock statement pieces).isPlain =
    (statement.all (fun piece => piece.text.isPlain) &&
      pieces.all fun piece => piece.text.isPlain)
  | [], statement => by
    rw [joinBlock, isPlain_join, List.all_reverse]
    exact (Bool.and_true _).symm
  | piece :: rest, statement => by
    have hstatement : ∀ tight, (join tight statement.reverse).isPlain =
        statement.all fun piece => piece.text.isPlain := fun tight => by
      rw [isPlain_join, List.all_reverse]
    cases piece with
    | semicolon =>
      rw [joinBlock, isPlain_append, hstatement, isPlain_cons, isPlain_joinBlock rest]
      rfl
    | curly text =>
      rw [joinBlock, isPlain_append, isPlain_append, hstatement, isPlain_joinBlock rest,
        Bool.and_assoc]
      rfl
    | blank | other text =>
      rw [joinBlock.eq_def]
      dsimp only
      rw [isPlain_joinBlock rest, List.all_cons, List.all_cons, ← Bool.and_assoc,
        Bool.and_comm (Piece.text _).isPlain]

mutual

theorem isPlain_piece : ∀ t : Token, (piece t).text.isPlain = t.isPlain
  | .leaf _ l => by
    have hleaf := Serialize.isPlain_leaf l
    rw [piece.eq_def]
    dsimp only
    split <;> first | rfl | exact hleaf
  | .block _ .curly content _ => by
    rw [piece, Piece.text, isPlain_append, isPlain_cons, isPlain_joinBlock, isPlain_pieces,
      Token.isPlain]
    exact Bool.and_true _
  | .block _ .paren content _ | .block _ .square content _ => by
    rw [piece, Piece.text, isPlain_append, isPlain_cons, isPlain_join, isPlain_pieces,
      Token.isPlain]
    · exact Bool.and_true _
    · exact fun h => by cases h
  | .function _ name arguments _ => by
    rw [piece, Piece.text, isPlain_append, isPlain_append, Serialize.isPlain_identifier,
      isPlain_cons, isPlain_join, isPlain_pieces, Token.isPlain]
    exact Bool.and_true _

theorem isPlain_pieces : ∀ ts : List Token,
    ((pieces ts).all fun piece => piece.text.isPlain) = arePlain ts
  | [] => rfl
  | t :: rest => by rw [pieces, List.all_cons, isPlain_piece, isPlain_pieces, arePlain]

end

theorem isPlain_tokens (tight : Tight) (ts : List Token) :
    (tokens tight ts).isPlain = arePlain ts := by
  rw [tokens, isPlain_join, isPlain_pieces]

theorem isPlain_block (ts : List Token) : (block ts).isPlain = arePlain ts := by
  rw [block, isPlain_joinBlock, isPlain_pieces]
  rfl

end Compact

/-! ## Trees -/

mutual

/-- A node without a surrogate in its tokens. -/
def Node.isPlain : Node → Bool
  | .whitespace _ | .comment _ => true
  | .rule r => Css.arePlain r.selector && Css.arePlain r.content
  | .statement keyword prelude => keyword.isPlain && Css.arePlain prelude
  | .rawBlock keyword prelude content =>
    keyword.isPlain && Css.arePlain prelude && Css.arePlain content
  | .ruleBlock keyword prelude nodes =>
    keyword.isPlain && Css.arePlain prelude && Sheet.isPlain nodes

/-- A tree without a surrogate in its tokens. -/
def Sheet.isPlain : List Node → Bool
  | [] => true
  | n :: rest => n.isPlain && Sheet.isPlain rest

end

theorem isPlain_atRuleHead (minify : Bool) (keyword : Text) (prelude : List Token) :
    (atRuleHead minify keyword prelude).isPlain = (keyword.isPlain && arePlain prelude) := by
  have hmark : Text.isPlain (.char '@' :: Serialize.identifier keyword) = keyword.isPlain :=
    Serialize.isPlain_identifier keyword
  have hrest := Compact.isPlain_tokens Compact.argumentTight prelude
  rw [atRuleHead]
  cases minify with
  | false =>
    rw [if_neg Bool.false_ne_true, isPlain_append, hmark, Serialize.tokens,
      Serialize.isPlain_tokensAfter]
  | true =>
    dsimp only
    rw [if_pos rfl]
    split
    · rename_i hempty
      rw [List.isEmpty_iff.1 hempty] at hrest
      rw [hmark, ← hrest]
      exact (Bool.and_true _).symm
    · rw [isPlain_append, hmark, isPlain_cons, hrest]
      rfl

mutual

theorem Node.isPlain_generate (minify : Bool) : ∀ n : Node,
    (n.generate minify).isPlain = n.isPlain
  | .whitespace text => by
    cases minify with
    | true => rfl
    | false => exact isPlain_ofChars text
  | .comment text => by
    rw [Node.generate, Serialize.isPlain_leaf]
    rfl
  | .rule r => by
    rw [Node.generate, Node.isPlain]
    cases minify with
    | true =>
      rw [if_pos rfl, isPlain_append, isPlain_braced, Compact.isPlain_tokens, Compact.isPlain_block]
    | false =>
      rw [if_neg Bool.false_ne_true, isPlain_append, isPlain_braced, Serialize.tokens,
        Serialize.tokens, Serialize.isPlain_tokensAfter, Serialize.isPlain_tokensAfter]
  | .statement keyword prelude => by
    rw [Node.generate, Node.isPlain, isPlain_append, isPlain_atRuleHead]
    exact Bool.and_true _
  | .rawBlock keyword prelude content => by
    have hcontent : Text.isPlain (if minify then Compact.block content
        else Serialize.tokens content) = arePlain content := by
      cases minify with
      | true => exact Compact.isPlain_block content
      | false => exact Serialize.isPlain_tokensAfter content none
    rw [Node.generate, Node.isPlain, isPlain_append, isPlain_atRuleHead, isPlain_braced, hcontent]
  | .ruleBlock keyword prelude nodes => by
    rw [Node.generate, Node.isPlain, isPlain_append, isPlain_atRuleHead, isPlain_braced,
      isPlain_generateAll minify nodes]

/-- A tree is written as plain text just if its tokens hold no surrogate. -/
theorem isPlain_generateAll (minify : Bool) : ∀ nodes : List Node,
    (generateAll minify nodes).isPlain = Sheet.isPlain nodes
  | [] => rfl
  | n :: rest => by
    rw [generateAll, isPlain_append, Node.isPlain_generate minify n,
      isPlain_generateAll minify rest, Sheet.isPlain]

end

/-! ## Removals and comments -/

mutual

theorem Token.isPlain_stripComments : ∀ t : Token, t.stripComments.isPlain = t.isPlain
  | .leaf _ l => by cases l <;> rfl
  | .block _ _ content _ => arePlain_stripTokens content
  | .function _ name arguments _ => congrArg (name.isPlain && ·) (arePlain_stripTokens arguments)

theorem arePlain_stripTokens : ∀ ts : List Token, arePlain (stripTokens ts) = arePlain ts
  | [] => rfl
  | t :: rest => by
    rw [stripTokens, arePlain, arePlain, Token.isPlain_stripComments t, arePlain_stripTokens rest]

end

mutual

theorem Node.isPlain_stripTokens : ∀ n : Node, n.stripTokens.isPlain = n.isPlain
  | .whitespace _ | .comment _ => rfl
  | .rule _ | .statement .. | .rawBlock .. => by
    simp only [Node.stripTokens, Node.isPlain, arePlain_stripTokens]
  | .ruleBlock _ _ nodes => by
    simp only [Node.stripTokens, Node.isPlain, arePlain_stripTokens, isPlain_stripNodes nodes]

theorem isPlain_stripNodes : ∀ nodes : List Node,
    Sheet.isPlain (stripNodes nodes) = Sheet.isPlain nodes
  | [] => rfl
  | n :: rest => by
    rw [stripNodes, Sheet.isPlain, Sheet.isPlain, Node.isPlain_stripTokens n,
      isPlain_stripNodes rest]

end

mutual

theorem Node.isPlain_removeWhere (p : Node → Bool) : ∀ n : Node, n.isPlain = true →
    (n.removeWhere p).isPlain = true
  | .ruleBlock _ _ nodes, h => by
    rw [Node.isPlain, Bool.and_eq_true] at h
    rw [Node.removeWhere, Node.isPlain, h.1, isPlain_removeWhere p nodes false h.2]
    rfl
  | .whitespace _, h | .comment _, h | .rule _, h | .statement .., h | .rawBlock .., h => h

/-- What is left of a plain tree is plain. -/
theorem isPlain_removeWhere (p : Node → Bool) : ∀ (nodes : List Node) (after : Bool),
    Sheet.isPlain nodes = true → Sheet.isPlain (removeWhere p after nodes) = true
  | [], _, _ => rfl
  | n :: rest, after, h => by
    rw [Sheet.isPlain, Bool.and_eq_true] at h
    have hrest := fun after => isPlain_removeWhere p rest after h.2
    rw [removeWhere]
    split
    · exact hrest false
    · dsimp only
      split
      · exact hrest true
      · rw [Sheet.isPlain, Node.isPlain_removeWhere p n h.1, hrest false]
        rfl

end

theorem isPlain_written_of_plain {s : Sheet} (minify : Bool) (h : Sheet.isPlain s = true) :
    (written minify s).isPlain = true := by
  rw [written, isPlain_generateAll]
  cases minify with
  | false => exact h
  | true =>
    rw [if_pos rfl, Sheet.stripComments, isPlain_stripNodes]
    exact isPlain_removeWhere _ s false h

end Css

end StylePrune
