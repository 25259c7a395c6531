import StylePrune.Text.Basic

/-!
# Class lists, arguments and braces

The small readers for content files: splitting a class list into tokens that may be class names,
splitting the arguments of a call, cutting out the body of a braced expression, and finding the line
of an offset.
-/

namespace StylePrune

/-- Slashes instead of backslashes. -/
def normalizeSlashes (s : String) : String := s.map fun c => if c = '\\' then '/' else c

namespace ClassList

def isSeparator (c : Char) : Bool := isBlank c || c = ','

/-- The parts between separators; an empty part may stand at either end. -/
def split : List Char → List (List Char)
  | [] => [[]]
  | c :: rest =>
    if isSeparator c then [] :: split rest
    else
      match split rest with
      | part :: more => (c :: part) :: more
      | [] => [[c]]

def isQuote (c : Char) : Bool := c = '\x27' || c = '"' || c = '\x60'

/-- A part without the quotes around it. A line end cannot follow the closing quotes, since a part
holds no blank. -/
def unquote (part : List Char) : List Char := dropWhileEnd isQuote (part.dropWhile isQuote)

def isAlphanumeric (c : Char) : Bool :=
  ('a' ≤ c && c ≤ 'z') || ('A' ≤ c && c ≤ 'Z') || ('0' ≤ c && c ≤ '9')

def isFirst (c : Char) : Bool := isAlphanumeric c || c = '_' || c = '-'

def isLater (c : Char) : Bool := isFirst c || c = ':' || c = '.' || c = '/'

/-- Whether `://` stands in a text. -/
def hasScheme : List Char → Bool
  | [] => false
  | ':' :: '/' :: '/' :: _ => true
  | _ :: rest => hasScheme rest

/-- What may be a class name: a letter, digit, underscore or hyphen, then any of these and colons,
dots and slashes, and no address. -/
def isToken (part : List Char) : Bool :=
  match part with
  | [] => false
  | c :: rest => isFirst c && rest.all isLater && !hasScheme part

end ClassList

/-- The class tokens of a class list, in order. -/
def tokenizeClassList (value : List Char) : List String :=
  (((ClassList.split value).map ClassList.unquote).filter ClassList.isToken).map String.ofList

/-- Reading code text: plain, or within quotes after a backslash or not. -/
inductive QuoteState where
  | plain
  | inside (quote : Char) (escaped : Bool)
deriving DecidableEq, Repr

namespace QuoteState

/-- The state after one more character. -/
def next (s : QuoteState) (c : Char) : QuoteState :=
  match s with
  | plain => if ClassList.isQuote c then inside c false else plain
  | inside quote true => inside quote false
  | inside quote false =>
    if c = '\\' then inside quote true else if c = quote then plain else s

end QuoteState

namespace Arguments

/-- How many brackets of each kind are open; stray closing brackets do not count. -/
structure Depth where
  paren : Nat := 0
  square : Nat := 0
  curly : Nat := 0
deriving DecidableEq, Repr

namespace Depth

def next (d : Depth) (c : Char) : Depth :=
  if c = '(' then { d with paren := d.paren + 1 }
  else if c = ')' then { d with paren := d.paren - 1 }
  else if c = '[' then { d with square := d.square + 1 }
  else if c = ']' then { d with square := d.square - 1 }
  else if c = '\x7b' then { d with curly := d.curly + 1 }
  else if c = '\x7d' then { d with curly := d.curly - 1 }
  else d

def isZero (d : Depth) : Bool := d.paren = 0 && d.square = 0 && d.curly = 0

end Depth

/-- The argument that ends here, last character first, unless it is blank. -/
def finish (current : List Char) : List (List Char) :=
  let text := trimChars current.reverse
  if text.isEmpty then [] else [text]

/-- Splits at commas outside quotes and brackets. -/
def split (quote : QuoteState) (depth : Depth) (current : List Char) : List Char → List (List Char)
  | [] => finish current
  | c :: rest =>
    match quote with
    | .inside .. => split (quote.next c) depth (c :: current) rest
    | .plain =>
      let depth := depth.next c
      if c = ',' && depth.isZero then finish current ++ split .plain depth [] rest
      else split (quote.next c) depth (c :: current) rest

end Arguments

/-- The arguments of a call, from the text between its brackets. -/
def splitArguments (args : List Char) : List (List Char) := Arguments.split .plain {} [] args

/-- The body of a braced text after its opening brace; braces within quotes do not count. `none` if
the brace is never closed. -/
def readBracedFrom (quote : QuoteState) (depth : Nat) : List Char → Option (List Char)
  | [] => none
  | c :: rest =>
    match quote with
    | .inside .. => (readBracedFrom (quote.next c) depth rest).map (c :: ·)
    | .plain =>
      if c = '\x7b' then (readBracedFrom .plain (depth + 1) rest).map (c :: ·)
      else if c = '\x7d' then
        if depth = 0 then some [] else (readBracedFrom .plain (depth - 1) rest).map (c :: ·)
      else (readBracedFrom (quote.next c) depth rest).map (c :: ·)

def readBraced (text : List Char) : Option (List Char) := readBracedFrom .plain 0 text

/-- Places after each line end, and the start of the text. -/
def lineStarts (index : Nat) : List Char → List Nat
  | [] => []
  | c :: rest =>
    if c = '\n' then (index + 1) :: lineStarts (index + 1) rest
    else lineStarts (index + 1) rest

/-- A table for finding lines: where each line starts, and how long the text is. -/
structure LineTable where
  starts : Array Nat
  length : Nat

namespace LineTable

def ofChars (cs : List Char) : LineTable := ⟨(0 :: lineStarts 0 cs).toArray, cs.length⟩

/-- The number of entries of `starts` between `low` and `high` that are at most `offset`, and all
before `low`. -/
def countUpTo (starts : Array Nat) (offset : Nat) : Nat → Nat → Nat → Nat
  | 0, low, _ => low
  | fuel + 1, low, high =>
    if low < high then
      let middle := (low + high) / 2
      if offset < starts.getD middle 0 then countUpTo starts offset fuel low middle
      else countUpTo starts offset fuel (middle + 1) high
    else low

/-- The line of an offset, counted from one; offsets outside the text belong to its first or last
line. -/
def line (t : LineTable) (offset : Int) : Nat :=
  if offset ≤ 0 then 1
  else if offset ≥ t.length then t.starts.size
  else countUpTo t.starts offset.toNat t.starts.size 0 t.starts.size

end LineTable

end StylePrune
