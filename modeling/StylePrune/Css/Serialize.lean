import StylePrune.Css.Token

/-!
# Writing tokens

Names, strings and addresses are written with the escapes that make them read back. Two neighbours
that would run together are parted by an empty comment, and a lone backslash by a line end.
-/

namespace StylePrune.Css

namespace Serialize

def isAsciiLetter (c : Char) : Bool := ('a' ≤ c && c ≤ 'z') || ('A' ≤ c && c ≤ 'Z')

def isAsciiDigit (c : Char) : Bool := '0' ≤ c && c ≤ '9'

/-- The hexadecimal digits of a number, in capitals. -/
def hex (n : Nat) : List Char := (Nat.toDigits 16 n).map Char.toUpper

/-- Line ends are escaped by number, other characters by a backslash. -/
def escaped (c : Char) : Text :=
  Text.ofString <|
    if c = '\n' then "\\A " else if c = '\r' then "\\D " else if c = '\x0c' then "\\C "
    else String.ofList ['\\', c]

/-- A point within a name. -/
def namePoint (p : Point) : Text :=
  match p with
  | .char c =>
    if isAsciiLetter c || c = '-' || c = '_' || isAsciiDigit c || c.toNat > 0x7F then [p]
    else escaped c
  | .surrogate _ => [p]

def name (value : Text) : Text := value.flatMap namePoint

/-- The first point of an identifier, where a digit or a hyphen needs an escape too. -/
def firstPoint (p : Point) : Text :=
  match p with
  | .char c =>
    if isAsciiLetter c || c = '_' || c.toNat > 0x7F then [p]
    else if isAsciiDigit c then Text.ofChars ('\\' :: hex c.toNat ++ [' '])
    else escaped c
  | .surrogate _ => [p]

def identifier (value : Text) : Text :=
  match value with
  | [] => []
  | p :: rest =>
    if p.is '-' then
      match rest with
      | [] => Text.ofString "\\-"
      | q :: more =>
        if q.is '-' then p :: q :: name more else p :: firstPoint q ++ name more
    else firstPoint p ++ name rest

def stringPoint (p : Point) : Text :=
  match p with
  | .char c =>
    if c = '"' || c = '\\' || c = '\n' || c = '\r' || c = '\x0c' then escaped c else [p]
  | .surrogate _ => [p]

/-- A string between double quotes, the last of which is left out if the end of the text broke the
string off. -/
def quoted (value : Text) (ended : Bool) : Text :=
  .char '"' :: value.flatMap stringPoint ++ (if ended then [.char '"'] else [])

def urlPoint (p : Point) : Text :=
  match p with
  | .char c =>
    if c = '\t' then Text.ofString "\\9 "
    else if c = ' ' || c = '"' || c = '\x27' || c = '(' || c = ')' || c = '\\' || c = '\n' ||
        c = '\r' || c = '\x0c' then escaped c
    else [p]
  | .surrogate _ => [p]

def url (value : Text) (ended : Bool) : Text :=
  Text.ofString "url(" ++ value.flatMap urlPoint ++ (if ended then [.char ')'] else [])

/-- A unit that would read as an exponent has its first letter escaped. -/
def unit (value : Text) : Text :=
  match value with
  | [p] => if p.is 'e' || p.is 'E' then Text.ofString "\\65 " else identifier value
  | p :: q :: rest =>
    if (p.is 'e' || p.is 'E') && q.is '-' then Text.ofString "\\65 " ++ name (q :: rest)
    else identifier value
  | [] => identifier value

def fault : Fault → Text
  | .unmatched b => [.char b.closer]
  | .badString => Text.ofString "\"[bad string]\n"
  | .badUrl => Text.ofString "url([bad url])"
  | .eofInString | .eofInUrl => []

def leaf : Leaf → Text
  | .whitespace cs | .literal cs | .number cs => Text.ofChars cs
  | .comment cs => Text.ofChars ('/' :: '*' :: cs ++ ['*', '/'])
  | .ident n => identifier n
  | .atKeyword n => .char '@' :: identifier n
  | .hash n isIdent => .char '#' :: (if isIdent then identifier n else name n)
  | .string value ended => quoted value ended
  | .url value ended => url value ended
  | .unicodeRange first last =>
    Text.ofChars <|
      'U' :: '+' :: hex first ++ (if first = last then [] else '-' :: hex last)
  | .percentage cs => Text.ofChars (cs ++ ['%'])
  | .dimension cs u => Text.ofChars cs ++ unit u
  | .fault f => fault f

/-- What decides whether two neighbours run together. -/
inductive Kind where
  | ident
  | atKeyword
  | hash
  | dimension
  | number
  | percentage
  | unicodeRange
  | function
  | url
  | parenBlock
  | literal (text : List Char)
  | whitespace (text : List Char)
  | other
deriving DecidableEq

def kind : Token → Kind
  | .leaf _ (.ident _) => .ident
  | .leaf _ (.atKeyword _) => .atKeyword
  | .leaf _ (.hash ..) => .hash
  | .leaf _ (.dimension ..) => .dimension
  | .leaf _ (.number _) => .number
  | .leaf _ (.percentage _) => .percentage
  | .leaf _ (.unicodeRange ..) => .unicodeRange
  | .leaf _ (.url ..) => .url
  | .leaf _ (.literal cs) => .literal cs
  | .leaf _ (.whitespace cs) => .whitespace cs
  | .function .. => .function
  | .block _ .paren .. => .parenBlock
  | _ => .other

def Kind.isWordLike : Kind → Bool
  | .ident | .function | .url => true
  | _ => false

def Kind.isNumeric : Kind → Bool
  | .number | .percentage | .dimension => true
  | _ => false

/-- Whether a token of the first kind would swallow part of a token of the second. -/
def runsTogether (a b : Kind) : Bool :=
  match a with
  | .ident =>
    b.isWordLike || b.isNumeric || b = .unicodeRange || b = .literal ['-'] ||
      b = .literal ['-', '-', '>'] || b = .parenBlock
  | .atKeyword | .hash | .dimension =>
    b.isWordLike || b.isNumeric || b = .unicodeRange || b = .literal ['-'] ||
      b = .literal ['-', '-', '>']
  | .number | .literal ['#'] | .literal ['-'] => b.isWordLike || b.isNumeric || b = .unicodeRange
  | .literal ['@'] => b.isWordLike || b = .unicodeRange || b = .literal ['-']
  | .unicodeRange => b.isNumeric || b = .ident || b = .function || b = .literal ['?']
  | .literal ['.'] | .literal ['+'] => b.isNumeric
  | .literal ['$'] | .literal ['*'] | .literal ['^'] | .literal ['~'] => b = .literal ['=']
  | .literal ['|'] => b = .literal ['='] || b = .literal ['|']
  | .literal ['/'] => b = .literal ['*']
  | _ => false

/-- What is written between two neighbours. -/
def separator (a b : Kind) : Text :=
  if runsTogether a b then Text.ofString "/**/"
  else if a = .literal ['\\'] then
    match b with
    | .whitespace ('\n' :: _) => []
    | _ => [.char '\n']
  else []

/-- Whether a string broken off by the end of the text ends these arguments, so that no bracket is
to be written after them. -/
def endInBrokenString : List Token → Bool
  | [] => false
  | [.leaf _ (.fault .eofInString)] => true
  | [.function _ _ arguments _] => endInBrokenString arguments
  | _ :: rest => endInBrokenString rest

mutual

def token : Token → Text
  | .leaf _ l => leaf l
  | .block _ b content _ => .char b.opener :: tokensAfter none content ++ [.char b.closer]
  | .function _ n arguments _ =>
    identifier n ++ .char '(' :: tokensAfter none arguments ++
      (if endInBrokenString arguments then [] else [.char ')'])

def tokensAfter (previous : Option Kind) : List Token → Text
  | [] => []
  | t :: rest =>
    (match previous with
      | none => []
      | some k => separator k (kind t)) ++ token t ++ tokensAfter (some (kind t)) rest

end

/-- A list of tokens written out. -/
def tokens (ts : List Token) : Text := tokensAfter none ts

end Serialize

end StylePrune.Css
