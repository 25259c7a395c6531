import StylePrune.Css.Lexer

/-!
# Nesting lexemes into tokens

Brackets and function heads open a list of tokens, and only the closing bracket of the innermost
open list ends it; any other closing bracket is recorded as a fault. Lists still open at the end of
the text are ended there and marked as not closed.
-/

namespace StylePrune.Css

/-- What opened a list of tokens. -/
inductive Head where
  | bracket (bracket : Bracket)
  | function (name : Text)
deriving DecidableEq, Repr

namespace Head

/-- The bracket that ends the list. -/
def bracketOf : Head → Bracket
  | bracket b => b
  | function _ => .paren

def toToken (head : Head) (position : Position) (content : List Token) (closed : Bool) : Token :=
  match head with
  | bracket b => .block position b content closed
  | function name => .function position name content closed

end Head

/-- An open list, with the tokens that stand before it in the list around it, last one first. -/
structure Frame where
  position : Position
  head : Head
  before : List Token

namespace Nesting

/-- The tokens of the whole text once every open list is ended. -/
def finish : List Frame → List Token → List Token
  | [], current => current.reverse
  | frame :: frames, current =>
    finish frames (frame.head.toToken frame.position current.reverse false :: frame.before)

/-- Reads lexemes with the given lists open; `current` holds the innermost list, last token
first. -/
def run : List Frame → List Token → List (Position × Lexeme) → List Token
  | frames, current, [] => finish frames current
  | frames, current, (position, lexeme) :: rest =>
    match lexeme with
    | .leaf leaf => run frames (.leaf position leaf :: current) rest
    | .opening b => run (⟨position, .bracket b, current⟩ :: frames) [] rest
    | .functionHead name => run (⟨position, .function name, current⟩ :: frames) [] rest
    | .closing b =>
      match frames with
      | frame :: outer =>
        if frame.head.bracketOf = b then
          run outer (frame.head.toToken frame.position current.reverse true :: frame.before) rest
        else run frames (.leaf position (.fault (.unmatched b)) :: current) rest
      | [] => run [] (.leaf position (.fault (.unmatched b)) :: current) rest

end Nesting

/-- The tokens of a style sheet. -/
def tokenize (css : List Char) : Except IntegerTooLong (List Token) :=
  (lexemes css).map (Nesting.run [] [])

end StylePrune.Css
