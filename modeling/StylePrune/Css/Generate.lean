import StylePrune.Css.Tree

/-!
# Writing a tree

A tree is written token by token, or compactly: white space nodes are left out, and of the blanks
between tokens one space is kept where neighbours need it. What needs no space depends on where the
tokens stand: in a selector, in a declaration, or between brackets.
-/

namespace StylePrune.Css

namespace Compact

/-- A token as the compact form sees it: blanks, the semicolons and curly blocks that end a
statement, and all else, with its compact text. -/
inductive Piece where
  | blank
  | semicolon
  | curly (text : Text)
  | other (text : Text)

def Piece.text : Piece → Text
  | blank => []
  | semicolon => [.char ';']
  | curly text | other text => text

/-- The delimiters that need no space beside them. -/
abbrev Tight := List Char

def selectorTight : Tight := [',', '>', '+', '~']
def declarationTight : Tight := [':', ',']
def argumentTight : Tight := [',']

def isTight (tight : Tight) : Text → Bool
  | [.char c] => tight.contains c
  | _ => false

/-- Pieces in order; `previous` is the text of the last one that was no blank. -/
def joinAfter (tight : Tight) (previous : Option Text) (space : Bool) : List Piece → Text
  | [] => []
  | .blank :: rest => joinAfter tight previous true rest
  | piece :: rest =>
    let text := piece.text
    let gap :=
      match previous with
      | none => false
      | some before => space && !isTight tight before && !isTight tight text
    (if gap then [.char ' '] else []) ++ text ++ joinAfter tight (some text) false rest

def join (tight : Tight) (pieces : List Piece) : Text := joinAfter tight none false pieces

/-- The body of a block, statement by statement: what a curly block ends is a nested rule with a
selector, and what a semicolon or the end of the body ends is a declaration. `statement` holds the
pieces since the last end, last one first. -/
def joinBlock (statement : List Piece) : List Piece → Text
  | [] => join declarationTight statement.reverse
  | .semicolon :: rest =>
    join declarationTight statement.reverse ++ .char ';' :: joinBlock [] rest
  | .curly text :: rest => join selectorTight statement.reverse ++ text ++ joinBlock [] rest
  | piece :: rest => joinBlock (piece :: statement) rest

mutual

def piece : Token → Piece
  | .leaf _ l =>
    match l with
    | .whitespace _ | .comment _ => .blank
    | .literal [';'] => .semicolon
    | l => .other (Serialize.leaf l)
  | .block _ .curly content _ =>
    .curly (.char '\x7b' :: joinBlock [] (pieces content) ++ [.char '\x7d'])
  | .block _ b content _ =>
    .other (.char b.opener :: join argumentTight (pieces content) ++ [.char b.closer])
  | .function _ name arguments _ =>
    .other (Serialize.identifier name ++ .char '(' :: join argumentTight (pieces arguments) ++
      [.char ')'])

def pieces : List Token → List Piece
  | [] => []
  | t :: rest => piece t :: pieces rest

end

/-- Tokens with the blanks that their place needs. -/
def tokens (tight : Tight) (ts : List Token) : Text := join tight (pieces ts)

/-- The tokens of a declaration block. -/
def block (ts : List Token) : Text := joinBlock [] (pieces ts)

end Compact

/-- The head of an at-rule, up to its block or semicolon. -/
def atRuleHead (minify : Bool) (keyword : Text) (prelude : List Token) : Text :=
  let mark := .char '@' :: Serialize.identifier keyword
  if minify then
    let rest := Compact.tokens Compact.argumentTight prelude
    if rest.isEmpty then mark else mark ++ .char ' ' :: rest
  else mark ++ Serialize.tokens prelude

def braced (text : Text) : Text := .char '\x7b' :: text ++ [.char '\x7d']

mutual

def Node.generate (minify : Bool) : Node → Text
  | .whitespace text => if minify then [] else Text.ofChars text
  | .comment text => Serialize.leaf (.comment text)
  | .rule r =>
    if minify then
      Compact.tokens Compact.selectorTight r.selector ++ braced (Compact.block r.content)
    else Serialize.tokens r.selector ++ braced (Serialize.tokens r.content)
  | .statement keyword prelude => atRuleHead minify keyword prelude ++ [.char ';']
  | .rawBlock keyword prelude content =>
    atRuleHead minify keyword prelude ++
      braced (if minify then Compact.block content else Serialize.tokens content)
  | .ruleBlock keyword prelude children =>
    atRuleHead minify keyword prelude ++ braced (generateAll minify children)

/-- The text of a style sheet. -/
def generateAll (minify : Bool) : List Node → Text
  | [] => []
  | n :: rest => n.generate minify ++ generateAll minify rest

end

end StylePrune.Css
