import StylePrune.Text.Point

/-!
# Tokens of a style sheet

The tokens of CSS Syntax, nested by bracket. A token that stands for damaged text is a `Fault`. A
block or function records in `closed` whether its own closing bracket ended it, or the end of the
text did.
-/

namespace StylePrune.Css

/-- A place in a text: both numbers start at one, and the column counts characters. -/
structure Position where
  line : Nat
  column : Nat
deriving DecidableEq, Repr, Inhabited

namespace Position

def start : Position := ⟨1, 1⟩

def next (p : Position) (c : Char) : Position :=
  if c = '\n' then ⟨p.line + 1, 1⟩ else ⟨p.line, p.column + 1⟩

/-- The place after some text that starts at `p`. -/
def after (p : Position) (cs : List Char) : Position := cs.foldl next p

end Position

inductive Bracket where
  | paren
  | square
  | curly
deriving DecidableEq, Repr, Inhabited

namespace Bracket

def opener : Bracket → Char
  | paren => '('
  | square => '['
  | curly => '{'

def closer : Bracket → Char
  | paren => ')'
  | square => ']'
  | curly => '}'

def ofOpener? (c : Char) : Option Bracket :=
  if c = '(' then some paren
  else if c = '[' then some square
  else if c = '{' then some curly
  else none

def ofCloser? (c : Char) : Option Bracket :=
  if c = ')' then some paren
  else if c = ']' then some square
  else if c = '}' then some curly
  else none

end Bracket

/-- Damage that the tokens of a text record. -/
inductive Fault where
  /-- A closing bracket that does not close the innermost block. -/
  | unmatched (bracket : Bracket)
  /-- A string broken off by a line end. -/
  | badString
  /-- An unquoted address with a character it must not hold. -/
  | badUrl
  | eofInString
  | eofInUrl
deriving DecidableEq, Repr, Inhabited

/-- Tokens that hold no other token. Names, strings and addresses are held decoded; a string or
address that the end of the text broke off is not `ended`. -/
inductive Leaf where
  | whitespace (text : List Char)
  | comment (text : List Char)
  | ident (name : Text)
  | atKeyword (name : Text)
  /-- `isIdent` tells the hashes that read as identifiers from the others. -/
  | hash (name : Text) (isIdent : Bool)
  | string (value : Text) (ended : Bool)
  | url (value : Text) (ended : Bool)
  | unicodeRange (first last : Nat)
  | number (text : List Char)
  | percentage (text : List Char)
  | dimension (text : List Char) (unit : Text)
  | literal (text : List Char)
  | fault (fault : Fault)
deriving DecidableEq, Repr, Inhabited

inductive Token where
  | leaf (position : Position) (leaf : Leaf)
  | block (position : Position) (bracket : Bracket) (content : List Token) (closed : Bool)
  | function (position : Position) (name : Text) (arguments : List Token) (closed : Bool)
deriving Repr, Inhabited

namespace Token

def position : Token → Position
  | leaf p _ | block p _ _ _ | function p _ _ _ => p

/-- White space and comments. -/
def isBlank : Token → Bool
  | leaf _ (.whitespace _) | leaf _ (.comment _) => true
  | _ => false

def isLiteral (t : Token) (text : String) : Bool :=
  match t with
  | leaf _ (.literal cs) => cs = text.toList
  | _ => false

end Token

end StylePrune.Css
