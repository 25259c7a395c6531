import StylePrune.Decimal.Exact
import StylePrune.Json.Value
import StylePrune.Text.Basic

/-!
# Reading JSON

A reader takes the text that is left and gives a value and the text after it. When a text is
refused, the fault carries what was left where reading stopped, so that the place can be counted
from the whole text. The numbers `NaN`, `Infinity` and `-Infinity` are accepted. A name that occurs
twice in an object has its last value in its first place.
-/

namespace StylePrune.Json

/-- Why a text is no JSON value, with the text left at the fault. -/
inductive Fault where
  | malformed (message : String) (left : List Char)
  | integerTooLong (digits : Nat)
  /-- More levels than the length of the text allows; never the outcome of reading. -/
  | tooDeep

/-- The message of a fault in `whole`. -/
def Fault.message (whole : List Char) : Fault → String
  | malformed text left =>
    let p := TextPlace.of whole left
    s!"{text}: line {p.line} column {p.column} (char {p.offset})"
  | integerTooLong digits => Decimal.integerTooLongMessage digits
  | tooDeep => "too deep"

abbrev Result (α : Type) := Except Fault (α × List Char)

def isSpace (c : Char) : Bool := c = ' ' || c = '\t' || c = '\n' || c = '\r'

def skipSpace (cs : List Char) : List Char := cs.dropWhile isSpace

def isDigit (c : Char) : Bool := '0' ≤ c && c ≤ '9'

def hexValue? (c : Char) : Option Nat :=
  if isDigit c then some (c.toNat - 48)
  else if 'a' ≤ c ∧ c ≤ 'f' then some (c.toNat - 87)
  else if 'A' ≤ c ∧ c ≤ 'F' then some (c.toNat - 55)
  else none

/-- Four hexadecimal digits with at least one character after them. -/
def hexUnit? : List Char → Option (Nat × List Char)
  | a :: b :: c :: d :: e :: rest =>
    match hexValue? a, hexValue? b, hexValue? c, hexValue? d with
    | some a, some b, some c, some d => some (a * 4096 + b * 256 + c * 16 + d, e :: rest)
    | _, _, _, _ => none
  | _ => none

def simpleEscape? : Char → Option Char
  | '"' => some '"'
  | '\\' => some '\\'
  | '/' => some '/'
  | 'b' => some '\x08'
  | 'f' => some '\x0c'
  | 'n' => some '\n'
  | 'r' => some '\r'
  | 't' => some '\t'
  | _ => none

/-- A character by number after `\u`, which `left` starts with at its `u`; two surrogates that
belong together make one character. -/
def numberedChar (left : List Char) : Result Point :=
  match hexUnit? (left.drop 1) with
  | none => .error (.malformed "Invalid \\uXXXX escape" left)
  | some (high, rest) =>
    if 0xD800 ≤ high ∧ high < 0xDC00 then
      match rest with
      | '\\' :: 'u' :: more =>
        if more.length < 5 then .ok (.ofCode high, rest)
        else
          match hexUnit? more with
          | none => .error (.malformed "Invalid \\uXXXX escape" ('u' :: more))
          | some (low, after) =>
            if 0xDC00 ≤ low ∧ low < 0xE000 then
              .ok (.ofCode (0x10000 + (high - 0xD800) * 0x400 + (low - 0xDC00)), after)
            else .ok (.ofCode high, rest)
      | _ => .ok (.ofCode high, rest)
    else .ok (.ofCode high, rest)

/-- The rest of a string whose opening quote `start` begins with; `read` holds what was read, last
point first. -/
def stringRest (start : List Char) : Nat → Text → List Char → Result Text
  | 0, _, _ => .error .tooDeep
  | _ + 1, _, [] => .error (.malformed "Unterminated string starting at" start)
  | fuel + 1, read, c :: rest =>
    if c = '"' then .ok (read.reverse, rest)
    else if c = '\\' then
      match rest with
      | [] => .error (.malformed "Unterminated string starting at" start)
      | e :: more =>
        if e = 'u' then
          match numberedChar rest with
          | .error fault => .error fault
          | .ok (p, after) => stringRest start fuel (p :: read) after
        else
          match simpleEscape? e with
          | some d => stringRest start fuel (.char d :: read) more
          | none => .error (.malformed "Invalid \\escape" (c :: rest))
    else if c.toNat ≤ 0x1F then .error (.malformed "Invalid control character at" (c :: rest))
    else stringRest start fuel (.char c :: read) rest

/-- A string after its opening quote; `start` begins with the quote. -/
def string (start : List Char) : Result Text :=
  stringRest start (start.length + 1) [] (start.drop 1)

def natOf (digits : List Char) : Nat := digits.foldl (fun n c => 10 * n + (c.toNat - 48)) 0

/-- An optional sign and digits of an exponent. -/
def exponentOf (cs : List Char) : Int :=
  match cs with
  | '-' :: digits => -Int.ofNat (natOf digits)
  | '+' :: digits => Int.ofNat (natOf digits)
  | digits => Int.ofNat (natOf digits)

/-- The exponent part after its letter: its sign and digits. -/
def exponentPart (cs : List Char) : List Char :=
  match cs with
  | s :: rest =>
    if s = '+' || s = '-' then
      let digits := rest.takeWhile isDigit
      if digits.isEmpty then [] else s :: digits
    else cs.takeWhile isDigit
  | [] => []

/-- A number, if one starts here. -/
def number? (cs : List Char) : Option (Result Json) :=
  let (negative, body) := match cs with
    | '-' :: rest => (true, rest)
    | _ => (false, cs)
  let whole := match body with
    | '0' :: _ => ['0']
    | _ => body.takeWhile isDigit
  if whole.isEmpty then none
  else
    let rest := body.drop whole.length
    let fraction := match rest with
      | '.' :: more => more.takeWhile isDigit
      | _ => []
    let rest := if fraction.isEmpty then rest else rest.drop (fraction.length + 1)
    let exponent := match rest with
      | e :: more => if e = 'e' || e = 'E' then exponentPart more else []
      | [] => []
    let rest := if exponent.isEmpty then rest else rest.drop (exponent.length + 1)
    if fraction.isEmpty && exponent.isEmpty then
      if Decimal.maxDigits < whole.length then some (.error (.integerTooLong whole.length))
      else
        let n := Int.ofNat (natOf whole)
        some (.ok (.int (if negative then -n else n), rest))
    else
      let f := Decimal.ofDigits (natOf (whole ++ fraction))
        (exponentOf exponent - Int.ofNat fraction.length)
      some (.ok (.float (if negative then -f else f), rest))

/-- The words that are values. -/
def words : List (String × Json) :=
  [("null", .null), ("true", .bool true), ("false", .bool false), ("NaN", .float Decimal.nan),
    ("Infinity", .float Decimal.infinity), ("-Infinity", .float (-Decimal.infinity))]

def word? (cs : List Char) : Option (Json × List Char) :=
  (words.find? fun w => w.1.toList.isPrefixOf cs).map fun w => (w.2, cs.drop w.1.length)

mutual

/-- A value at the start of the text. -/
def value : Nat → List Char → Result Json
  | 0, _ => .error .tooDeep
  | fuel + 1, cs =>
    match cs with
    | [] => .error (.malformed "Expecting value" [])
    | c :: rest =>
      if c = '"' then (string cs).map fun (t, left) => (ofText t, left)
      else if c = '\x7b' then
        match skipSpace rest with
        | '\x7d' :: after => .ok (.obj [], after)
        | left => members fuel [] left
      else if c = '[' then
        match skipSpace rest with
        | ']' :: after => .ok (.arr [], after)
        | left => items fuel [] left
      else
        match word? cs with
        | some found => .ok found
        | none => (number? cs).getD (.error (.malformed "Expecting value" cs))

/-- The items of an array from the next one on; those read so far are given last one first. -/
def items : Nat → List Json → List Char → Result Json
  | 0, _, _ => .error .tooDeep
  | fuel + 1, read, cs =>
    match value fuel cs with
    | .error fault => .error fault
    | .ok (v, left) =>
      match skipSpace left with
      | ']' :: after => .ok (.arr (v :: read).reverse, after)
      | ',' :: after => items fuel (v :: read) (skipSpace after)
      | left => .error (.malformed "Expecting ',' delimiter" left)

/-- The members of an object from the next one on. -/
def members : Nat → List (String × Json) → List Char → Result Json
  | 0, _, _ => .error .tooDeep
  | fuel + 1, read, cs =>
    match cs with
    | '"' :: _ =>
      match string cs with
      | .error fault => .error fault
      | .ok (name, left) =>
        match skipSpace left with
        | ':' :: after =>
          match value fuel (skipSpace after) with
          | .error fault => .error fault
          | .ok (v, left) =>
            let read := setMember read (nameOf name) v
            match skipSpace left with
            | '\x7d' :: after => .ok (.obj read, after)
            | ',' :: after => members fuel read (skipSpace after)
            | left => .error (.malformed "Expecting ',' delimiter" left)
        | left => .error (.malformed "Expecting ':' delimiter" left)
    | left => .error (.malformed "Expecting property name enclosed in double quotes" left)

end

/-- Reads a text that holds one value. -/
def parse (text : List Char) : Except Fault Json :=
  match text with
  | '\uFEFF' :: _ =>
    .error (.malformed "Unexpected UTF-8 BOM (decode using utf-8-sig)" text)
  | _ =>
    match value (2 * text.length + 2) (skipSpace text) with
    | .error fault => .error fault
    | .ok (v, left) =>
      match skipSpace left with
      | [] => .ok v
      | left => .error (.malformed "Extra data" left)

end StylePrune.Json
