import StylePrune.Json.Value

/-!
# Writing JSON

Values are written in ASCII, either on one line or with a member or item on a line of its own and
two spaces of indentation for each level.
-/

namespace StylePrune.Json

def hex4 (n : Nat) : List Char :=
  let digits := Nat.toDigits 16 n
  '\\' :: 'u' :: List.replicate (4 - digits.length) '0' ++ digits

/-- One or two escapes by number, two being the surrogate pair of a code past 0xFFFF. -/
def numberedEscape (code : Nat) : List Char :=
  if code ≤ 0xFFFF then hex4 code
  else
    let rest := code - 0x10000
    hex4 (0xD800 + rest / 0x400) ++ hex4 (0xDC00 + rest % 0x400)

def escapedPoint (p : Point) : List Char :=
  match p with
  | .char '"' => ['\\', '"']
  | .char '\\' => ['\\', '\\']
  | .char '\n' => ['\\', 'n']
  | .char '\r' => ['\\', 'r']
  | .char '\t' => ['\\', 't']
  | .char '\x0c' => ['\\', 'f']
  | .char '\x08' => ['\\', 'b']
  | .char c => if 32 ≤ c.toNat ∧ c.toNat < 127 then [c] else numberedEscape c.toNat
  | p => numberedEscape p.code

def quoted (t : Text) : String :=
  String.ofList ('"' :: t.flatMap escapedPoint ++ ['"'])

def quotedString (s : String) : String := quoted (Text.ofString s)

/-- Numbers as in plain text, but for the two values that are none. -/
def numberLayout : Decimal.Layout :=
  { Decimal.plainLayout with infinity := "Infinity", notANumber := "NaN" }

/-- Text before an item and around a list; `none` for everything on one line. -/
def lineBreak : Option Nat → String
  | none => ""
  | some level => "\n" ++ String.ofList (List.replicate (2 * level) ' ')

def deeper (indent : Option Nat) : Option Nat := indent.map (· + 1)

mutual

/-- A value at the given level of indentation, or on one line. -/
def print (indent : Option Nat) : Json → String
  | null => "null"
  | bool b => if b then "true" else "false"
  | int n => toString n
  | float f => Decimal.shortest numberLayout f
  | str s => quotedString s
  | broken t => quoted t
  | moment _ shown => quotedString shown
  | arr [] => "[]"
  | arr (item :: items) =>
    "[" ++ lineBreak (deeper indent) ++ print (deeper indent) item ++
      printItems (deeper indent) items ++ lineBreak indent ++ "]"
  | obj [] => "\x7b\x7d"
  | obj (member :: members) =>
    "\x7b" ++ printMembers (deeper indent) true (member :: members) ++ lineBreak indent ++ "\x7d"

def printItems (indent : Option Nat) : List Json → String
  | [] => ""
  | item :: items =>
    (if indent.isSome then "," else ", ") ++ lineBreak indent ++ print indent item ++
      printItems indent items

def printMembers (indent : Option Nat) (first : Bool) : List (String × Json) → String
  | [] => ""
  | (name, value) :: members =>
    (if first then "" else if indent.isSome then "," else ", ") ++ lineBreak indent ++
      quotedString name ++ ": " ++ print indent value ++ printMembers indent false members

end

/-- A value with indentation. -/
def pretty (v : Json) : String := print (some 0) v

/-- A value on one line. -/
def compact (v : Json) : String := print none v

end StylePrune.Json
