import StylePrune.Css.Token
import StylePrune.Decimal.Exact

/-!
# Reading characters into lexemes

The flat half of tokenization: a lexeme is a leaf token, an opening bracket, a function head or a
closing bracket. Every reader takes the text that is left and returns what it read together with
the number of characters it used, so that what a lexeme consumed can be said about the text itself.
The only text refused is an integer with more digits than a number may have.
-/

namespace StylePrune.Css

/-- Line ends written as `\n`, and NUL as U+FFFD. -/
def normalize : List Char → List Char
  | [] => []
  | '\r' :: '\n' :: cs => '\n' :: normalize cs
  | c :: cs =>
    (if c = '\r' ∨ c = '\x0c' then '\n' else if c = '\x00' then '\uFFFD' else c) :: normalize cs

namespace Lexer

def isSpace (c : Char) : Bool := c = ' ' || c = '\n' || c = '\t'

def isDigit (c : Char) : Bool := '0' ≤ c && c ≤ '9'

def isHex (c : Char) : Bool := isDigit c || ('a' ≤ c && c ≤ 'f') || ('A' ≤ c && c ≤ 'F')

def isNameStart (c : Char) : Bool :=
  ('a' ≤ c && c ≤ 'z') || ('A' ≤ c && c ≤ 'Z') || c = '_' || c.toNat > 0x7F

def isName (c : Char) : Bool := isNameStart c || isDigit c || c = '-'

def hexValue (c : Char) : Nat :=
  if isDigit c then c.toNat - 48 else if 'a' ≤ c then c.toNat - 87 else c.toNat - 55

def ofHex (cs : List Char) : Nat := cs.foldl (fun n c => 16 * n + hexValue c) 0

/-- Whether a backslash followed by this text starts an escape. -/
def startsEscape (rest : List Char) : Bool := rest.head? != some '\n'

/-- Whether an identifier starts here. -/
def startsIdent : List Char → Bool
  | '-' :: '-' :: _ => true
  | '-' :: '\\' :: rest => startsEscape rest
  | '-' :: c :: _ => isNameStart c
  | '\\' :: rest => startsEscape rest
  | c :: _ => isNameStart c
  | [] => false

/-- The point an escape names, from the text after its backslash: up to six hexadecimal digits and
one blank, or any one character, or the end of the text. -/
def escape (rest : List Char) : Point × Nat :=
  let digits := (rest.take 6).takeWhile isHex
  if digits.isEmpty then
    match rest with
    | c :: _ => (.char c, 1)
    | [] => (.char '\uFFFD', 0)
  else
    let blank := match rest.drop digits.length with
      | c :: _ => if isSpace c then 1 else 0
      | [] => 0
    let code := ofHex digits
    (if code = 0 then .char '\uFFFD' else Point.ofCode code, digits.length + blank)

/-- The longest run of name characters and escapes. -/
def name : List Char → Text × Nat
  | [] => ([], 0)
  | c :: rest =>
    if isName c then
      let (value, n) := name rest
      (.char c :: value, n + 1)
    else if c = '\\' && startsEscape rest then
      let (p, k) := escape rest
      let (value, n) := name (rest.drop k)
      (p :: value, n + k + 1)
    else ([], 0)
termination_by cs => cs.length

inductive StringEnd where
  | quote
  | newline
  | eof
deriving DecidableEq, Repr

/-- A string after its opening quote: its value, what ended it, and the characters used. An escaped
line end stands for nothing. -/
def quoted (quote : Char) : List Char → Text × StringEnd × Nat
  | [] => ([], .eof, 0)
  | c :: rest =>
    if c = quote then ([], .quote, 1)
    else if c = '\\' then
      match rest with
      | [] => ([], .eof, 1)
      | '\n' :: more =>
        let (value, stop, n) := quoted quote more
        (value, stop, n + 2)
      | rest =>
        let (p, k) := escape rest
        let (value, stop, n) := quoted quote (rest.drop k)
        (p :: value, stop, n + k + 1)
    else if c = '\n' then ([], .newline, 0)
    else
      let (value, stop, n) := quoted quote rest
      (.char c :: value, stop, n + 1)
termination_by cs => cs.length
decreasing_by all_goals (simp only [List.length_drop, List.length_cons]; omega)

inductive UrlEnd where
  | paren
  | eof
  /-- A character that no unquoted address may hold, already used, or text after the blank that
  should have ended the address. -/
  | bad
deriving DecidableEq, Repr

def isUrlBreaker (c : Char) : Bool :=
  c = '"' || c = '\x27' || c = '(' || c.toNat ≤ 8 || c.toNat = 0xB ||
    (0xE ≤ c.toNat && c.toNat ≤ 0x1F) || c.toNat = 0x7F

/-- The end of an address after blanks: a closing bracket, the end of the text, or damage. -/
def urlTail (cs : List Char) : UrlEnd × Nat :=
  let blanks := (cs.takeWhile isSpace).length
  match cs.drop blanks with
  | [] => (.eof, blanks)
  | c :: _ => if c = ')' then (.paren, blanks + 1) else (.bad, blanks)

/-- An unquoted address from its first character that is not blank. -/
def urlBody : List Char → Text × UrlEnd × Nat
  | [] => ([], .eof, 0)
  | c :: rest =>
    if c = ')' then ([], .paren, 1)
    else if isSpace c then
      let (stop, n) := urlTail rest
      ([], stop, n + 1)
    else if c = '\\' && startsEscape rest then
      let (p, k) := escape rest
      let (value, stop, n) := urlBody (rest.drop k)
      (p :: value, stop, n + k + 1)
    else if isUrlBreaker c then ([], .bad, 1)
    else
      let (value, stop, n) := urlBody rest
      (.char c :: value, stop, n + 1)
termination_by cs => cs.length
decreasing_by all_goals (simp only [List.length_drop, List.length_cons]; omega)

/-- What is skipped of a bad address: all up to a closing bracket that no backslash precedes. -/
def badUrlRest : List Char → Nat
  | [] => 0
  | '\\' :: ')' :: rest => badUrlRest rest + 2
  | c :: rest => if c = ')' then 1 else badUrlRest rest + 1

/-- An unquoted address after `url(`. -/
def url (cs : List Char) : List Leaf × Nat :=
  let blanks := (cs.takeWhile isSpace).length
  let (value, stop, n) := urlBody (cs.drop blanks)
  let used := blanks + n
  match stop with
  | .paren => ([.url value true], used)
  | .eof => ([.url value false, .fault .eofInUrl], used)
  | .bad => ([.fault .badUrl], used + badUrlRest (cs.drop used))

/-- The digits of a number and what follows them. -/
def digits (cs : List Char) : Nat := (cs.takeWhile isDigit).length

/-- The length of an exponent part, zero if there is none. -/
def exponentLength : List Char → Nat
  | c :: rest =>
    if c = 'e' || c = 'E' then
      let sign := match rest with
        | s :: _ => if s = '+' || s = '-' then 1 else 0
        | [] => 0
      let n := digits (rest.drop sign)
      if n = 0 then 0 else 1 + sign + n
    else 0
  | [] => 0

/-- The length of the number that starts here and whether it is an integer, or `none` if no number
does. -/
def numberLength? (cs : List Char) : Option (Nat × Bool) :=
  let sign := match cs with
    | c :: _ => if c = '+' || c = '-' then 1 else 0
    | [] => 0
  let whole := digits (cs.drop sign)
  let fraction := match cs.drop (sign + whole) with
    | '.' :: rest => digits rest
    | _ => 0
  let mantissa := if fraction = 0 then whole else whole + 1 + fraction
  if mantissa = 0 then none
  else
    let exponent := exponentLength (cs.drop (sign + mantissa))
    some (sign + mantissa + exponent, fraction = 0 && exponent = 0)

/-- The bounds of a range of code points after `U+`. Question marks stand for any digit and end the
range; otherwise a hyphen and digits may give its end. -/
def unicodeRange (cs : List Char) : Nat × Nat × Nat :=
  let first := (cs.take 6).takeWhile isHex
  let marks := ((cs.drop first.length).take (6 - first.length)).takeWhile (· = '?')
  let used := first.length + marks.length
  if !marks.isEmpty then
    (ofHex (first ++ marks.map fun _ => '0'), ofHex (first ++ marks.map fun _ => 'F'), used)
  else
    match cs.drop used with
    | '-' :: rest =>
      let last := (rest.take 6).takeWhile isHex
      if last.isEmpty then (ofHex first, ofHex first, used)
      else (ofHex first, ofHex last, used + 1 + last.length)
    | _ => (ofHex first, ofHex first, used)

/-- The text of a comment after its opening mark, and the characters used; the end of the text
closes a comment too. -/
def comment : List Char → List Char × Nat
  | [] => ([], 0)
  | '*' :: '/' :: _ => ([], 2)
  | c :: rest =>
    let (text, n) := comment rest
    (c :: text, n + 1)

end Lexer

/-- A token, an opening bracket, or a closing one. -/
inductive Lexeme where
  | leaf (leaf : Leaf)
  | opening (bracket : Bracket)
  | functionHead (name : Text)
  | closing (bracket : Bracket)
deriving DecidableEq, Repr, Inhabited

/-- An integer of `digits` digits, more than a number may have. -/
structure IntegerTooLong where
  digits : Nat
deriving DecidableEq, Repr

namespace Lexer

def one (lexeme : Lexeme) (n : Nat) : Except IntegerTooLong (List Lexeme × Nat) := .ok ([lexeme], n)

def oneLiteral (text : List Char) (n : Nat) : Except IntegerTooLong (List Lexeme × Nat) :=
  one (.leaf (.literal text)) n

/-- ASCII letters of a text in lower case. -/
def asciiLower (t : Text) : Text :=
  t.map fun
    | .char c => if 'A' ≤ c ∧ c ≤ 'Z' then .char (Char.ofNat (c.toNat + 32)) else .char c
    | p => p

/-- An identifier, a function head, or an unquoted address with its `url(`. -/
def identLike (cs : List Char) : List Lexeme × Nat :=
  let (value, n) := name cs
  match cs.drop n with
  | '(' :: rest =>
    if asciiLower value = Text.ofString "url" then
      match rest.dropWhile isSpace with
      | c :: _ =>
        if c = '"' || c = '\x27' then ([.functionHead value], n + 1)
        else
          let (leaves, k) := url rest
          (leaves.map .leaf, n + 1 + k)
      | [] =>
        let (leaves, k) := url rest
        (leaves.map .leaf, n + 1 + k)
    else ([.functionHead value], n + 1)
  | _ => ([.leaf (.ident value)], n)

/-- A number of `n` characters, with the unit or percent sign that follows it. -/
def numeric (cs : List Char) (n : Nat) (isInteger : Bool) :
    Except IntegerTooLong (List Lexeme × Nat) :=
  let text := cs.take n
  let width := (text.filter isDigit).length
  if isInteger && Decimal.maxDigits < width then .error ⟨width⟩
  else
    let rest := cs.drop n
    if startsIdent rest then
      let (unit, k) := name rest
      one (.leaf (.dimension text unit)) (n + k)
    else if rest.head? = some '%' then one (.leaf (.percentage text)) (n + 1)
    else one (.leaf (.number text)) n

/-- A string after its opening quote `q`. -/
def stringLike (q : Char) (rest : List Char) : List Lexeme × Nat :=
  let (value, stop, n) := quoted q rest
  match stop with
  | .quote => ([.leaf (.string value true)], n)
  | .newline => ([.leaf (.fault .badString)], n)
  | .eof => ([.leaf (.string value false), .leaf (.fault .eofInString)], n)

/-- The lexemes that start with `c` and the number of characters they use after it. -/
def step (c : Char) (rest : List Char) : Except IntegerTooLong (List Lexeme × Nat) :=
  if isSpace c then
    let more := rest.takeWhile isSpace
    one (.leaf (.whitespace (c :: more))) more.length
  else if (c = 'U' || c = 'u') && startsRange rest then
    let (first, last, n) := unicodeRange (rest.drop 1)
    one (.leaf (.unicodeRange first last)) (n + 1)
  else if ['-', '-', '>'].isPrefixOf (c :: rest) then oneLiteral ['-', '-', '>'] 2
  else if startsIdent (c :: rest) then
    let (out, n) := identLike (c :: rest)
    .ok (out, n - 1)
  else
    match numberLength? (c :: rest) with
    | some (n, isInteger) => (numeric (c :: rest) n isInteger).map fun (out, n) => (out, n - 1)
    | none =>
      if c = '@' then
        if startsIdent rest then
          let (value, n) := name rest
          one (.leaf (.atKeyword value)) n
        else oneLiteral [c] 0
      else if c = '#' then
        match rest with
        | d :: more =>
          if isName d || (d = '\\' && startsEscape more) then
            let (value, n) := name rest
            one (.leaf (.hash value (startsIdent rest))) n
          else oneLiteral [c] 0
        | [] => oneLiteral [c] 0
      else
        match Bracket.ofOpener? c, Bracket.ofCloser? c with
        | some b, _ => one (.opening b) 0
        | none, some b => one (.closing b) 0
        | none, none =>
          if c = '"' || c = '\x27' then .ok (stringLike c rest)
          else if c = '/' && rest.head? = some '*' then
            let (text, n) := comment (rest.drop 1)
            one (.leaf (.comment text)) (n + 1)
          else if ['<', '!', '-', '-'].isPrefixOf (c :: rest) then oneLiteral ['<', '!', '-', '-'] 3
          else if c = '|' && rest.head? = some '|' then oneLiteral [c, '|'] 1
          else if ['~', '|', '^', '$', '*'].contains c && rest.head? = some '=' then
            oneLiteral [c, '='] 1
          else oneLiteral [c] 0
where
  /-- Whether the text after a `U` is a plus sign and the start of a range. -/
  startsRange : List Char → Bool
    | '+' :: d :: _ => isHex d || d = '?'
    | _ => false

/-- All lexemes of a text that starts at `position`, each with its place. -/
def lexemesFrom (position : Position) : List Char → Except IntegerTooLong (List (Position × Lexeme))
  | [] => .ok []
  | c :: rest =>
    match step c rest with
    | .error e => .error e
    | .ok (out, n) =>
      match lexemesFrom (position.after (c :: rest.take n)) (rest.drop n) with
      | .error e => .error e
      | .ok more => .ok (out.map (position, ·) ++ more)
termination_by cs => cs.length
decreasing_by simp only [List.length_drop, List.length_cons]; omega

end Lexer

/-- The lexemes of a style sheet. -/
def lexemes (css : List Char) : Except IntegerTooLong (List (Position × Lexeme)) :=
  Lexer.lexemesFrom .start (normalize css)

end StylePrune.Css
