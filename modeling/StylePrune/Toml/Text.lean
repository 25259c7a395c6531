import StylePrune.Json.Parser
import StylePrune.Text.Quoted

/-!
# Strings, keys and comments of TOML

A reader takes the text that is left and gives a value and the text after it. A fault carries what
was left where reading stopped.
-/

namespace StylePrune.Toml

/-- Why a text is no TOML document, with the text left at the fault. -/
inductive Fault where
  | malformed (message : String) (left : List Char)
  | integerTooLong (digits : Nat)
  /-- More levels than the length of the text allows; never the outcome of reading. -/
  | tooDeep

def placeText (whole left : List Char) : String :=
  if left.isEmpty then "end of document"
  else
    let p := TextPlace.of whole left
    s!"line {p.line}, column {p.column}"

/-- The message of a fault in `whole`. -/
def Fault.message (whole : List Char) : Fault → String
  | malformed text left => s!"{text} (at {placeText whole left})"
  | integerTooLong digits => Decimal.integerTooLongMessage digits
  | tooDeep => "too deep"

abbrev Result (α : Type) := Except Fault (α × List Char)

def fail {α : Type} (message : String) (left : List Char) : Except Fault α :=
  .error (.malformed message left)

/-- The names that lead to a value. -/
abbrev Key := List String

/-- A key as messages show it. -/
def Key.shown (key : Key) : String :=
  match key with
  | [name] => s!"({Quoted.string name},)"
  | names => "(" ++ String.intercalate ", " (names.map Quoted.string) ++ ")"

def isSpace (c : Char) : Bool := c = ' ' || c = '\t'

def isSpaceOrNewline (c : Char) : Bool := isSpace c || c = '\n'

def skipSpace (cs : List Char) : List Char := cs.dropWhile isSpace

def isControl (c : Char) : Bool := c.toNat < 32 || c.toNat = 127

/-- Characters that may not stand on one line of text. -/
def isIllegal (c : Char) : Bool := isControl c && c ≠ '\t'

/-- Characters that may not stand in text of several lines. -/
def isIllegalInLines (c : Char) : Bool := isIllegal c && c ≠ '\n'

/-- A character as messages show it. -/
def shownChar (c : Char) : String := Quoted.string (String.ofList [c])

/-- The text before the first occurrence of `mark`, and the text from it on. -/
def before? (mark : List Char) : List Char → Option (List Char × List Char)
  | [] => none
  | c :: rest =>
    if mark.isPrefixOf (c :: rest) then some ([], c :: rest)
    else (before? mark rest).map fun (taken, left) => (c :: taken, left)

/-- Accepts text without illegal characters; `left` starts with the text. -/
def checkText (illegal : Char → Bool) (text left : List Char) : Except Fault Unit :=
  match text.dropWhile fun c => !illegal c with
  | [] => .ok ()
  | c :: rest =>
    fail s!"Found invalid character {shownChar c}" (left.drop (text.length - rest.length - 1))

/-- The text after a comment, if one starts here. -/
def skipComment (cs : List Char) : Except Fault (List Char) :=
  match cs with
  | '#' :: rest =>
    let text := rest.takeWhile (· ≠ '\n')
    (checkText isIllegal text rest).map fun _ => rest.drop text.length
  | _ => .ok cs

/-- The text after spaces, line ends and comments. -/
def skipBlank : Nat → List Char → Except Fault (List Char)
  | 0, _ => .error .tooDeep
  | fuel + 1, cs =>
    match cs.dropWhile isSpaceOrNewline with
    | '#' :: rest =>
      match skipComment ('#' :: rest) with
      | .error fault => .error fault
      | .ok left => skipBlank fuel left
    | left => .ok left

def hexDigits? (width : Nat) (cs : List Char) : Option Nat :=
  let digits := cs.take width
  if digits.length = width then
    digits.foldl (fun n c => n.bind fun n => (Json.hexValue? c).map (16 * n + ·)) (some 0)
  else none

def isScalar (n : Nat) : Bool := n < 0xD800 || (0xE000 ≤ n && n ≤ 0x10FFFF)

/-- A character by number. -/
def numberedChar (width : Nat) (cs : List Char) : Result Char :=
  match hexDigits? width cs with
  | none => fail "Invalid hex value" cs
  | some n =>
    let left := cs.drop width
    if isScalar n then .ok (Char.ofNat n, left)
    else fail "Escaped character is not a Unicode scalar value" left

def simpleEscape? : Char → Option Char
  | 'b' => some '\x08'
  | 't' => some '\t'
  | 'n' => some '\n'
  | 'f' => some '\x0c'
  | 'r' => some '\r'
  | '"' => some '"'
  | '\\' => some '\\'
  | _ => none

def unescaped : String := "Unescaped '\\' in a string"

/-- What follows a backslash: a character, or in text of several lines a stretch of blanks with a
line end, which stands for nothing. -/
def escape (lines : Bool) (cs : List Char) : Result (Option Char) :=
  match cs with
  | [] => fail unescaped []
  | e :: rest =>
    if lines && e = '\n' then .ok (none, rest.dropWhile isSpaceOrNewline)
    else if lines && isSpace e then
      match skipSpace rest with
      | [] => .ok (none, [])
      | '\n' :: more => .ok (none, more.dropWhile isSpaceOrNewline)
      | left => fail unescaped left
    else if e = 'u' then (numberedChar 4 rest).map fun (c, left) => (some c, left)
    else if e = 'U' then (numberedChar 8 rest).map fun (c, left) => (some c, left)
    else
      match simpleEscape? e with
      | some c => .ok (some c, rest)
      | none => fail unescaped rest

/-- The rest of a basic string up to its closing quotes; `read` holds what was read, last character
first. -/
def basicString (lines : Bool) : Nat → List Char → List Char → Result (List Char)
  | 0, _, _ => .error .tooDeep
  | fuel + 1, read, cs =>
    match cs with
    | [] => fail "Unterminated string" []
    | '"' :: rest =>
      if !lines then .ok (read.reverse, rest)
      else
        match rest with
        | '"' :: '"' :: left => .ok (read.reverse, left)
        | _ => basicString lines fuel ('"' :: read) rest
    | '\\' :: rest =>
      match escape lines rest with
      | .error fault => .error fault
      | .ok (some c, left) => basicString lines fuel (c :: read) left
      | .ok (none, left) => basicString lines fuel read left
    | c :: rest =>
      if (if lines then isIllegalInLines c else isIllegal c) then
        fail s!"Illegal character {shownChar c}" cs
      else basicString lines fuel (c :: read) rest

/-- The rest of a literal string up to its closing quotes `mark`. -/
def literalString (mark : List Char) (illegal : Char → Bool) (cs : List Char) :
    Result (List Char) :=
  match before? mark cs with
  | none => fail s!"Expected {Quoted.string (String.ofList mark)}" []
  | some (text, left) =>
    (checkText illegal text cs).map fun _ => (text, left.drop mark.length)

/-- Up to two further quotes belong to a string of several lines. -/
def furtherQuotes (quote : Char) (found : List Char × List Char) : List Char × List Char :=
  let (text, left) := found
  let more := (left.take 2).takeWhile (· = quote)
  (text ++ more, left.drop more.length)

def withoutFirstNewline (cs : List Char) : List Char :=
  match cs with
  | '\n' :: rest => rest
  | _ => cs

/-- A string, if a quote starts here. -/
def string? (cs : List Char) : Option (Result String) :=
  let read : Option (Result (List Char)) :=
    match cs with
    | '"' :: '"' :: '"' :: rest =>
      let rest := withoutFirstNewline rest
      some ((basicString true (rest.length + 1) [] rest).map (furtherQuotes '"'))
    | '"' :: rest => some (basicString false (rest.length + 1) [] rest)
    | '\x27' :: '\x27' :: '\x27' :: rest =>
      some ((literalString ['\x27', '\x27', '\x27'] isIllegalInLines (withoutFirstNewline rest)).map
        (furtherQuotes '\x27'))
    | '\x27' :: rest => some (literalString ['\x27'] isIllegal rest)
    | _ => none
  read.map fun r => r.map fun (text, left) => (String.ofList text, left)

def isBare (c : Char) : Bool :=
  ('a' ≤ c && c ≤ 'z') || ('A' ≤ c && c ≤ 'Z') || ('0' ≤ c && c ≤ '9') || c = '-' || c = '_'

/-- One name of a key. -/
def keyPart (cs : List Char) : Result String :=
  let name := cs.takeWhile isBare
  if !name.isEmpty then .ok (String.ofList name, cs.drop name.length)
  else
    let read : Except Fault (List Char × List Char) :=
      match cs with
      | '"' :: rest => basicString false (rest.length + 1) [] rest
      | '\x27' :: rest => literalString ['\x27'] isIllegal rest
      | _ => fail "Invalid initial character for a key part" cs
    read.map fun (text, left) => (String.ofList text, left)

/-- A key: names with points between them. -/
def key : Nat → List Char → Result Key
  | 0, _ => .error .tooDeep
  | fuel + 1, cs =>
    match keyPart cs with
    | .error fault => .error fault
    | .ok (name, left) =>
      match skipSpace left with
      | '.' :: more => (key fuel (skipSpace more)).map fun (names, left) => (name :: names, left)
      | left => .ok ([name], left)

/-- Whether a key may start with a character. -/
def startsKey (c : Char) : Bool := isBare c || c = '"' || c = '\x27'

end StylePrune.Toml
