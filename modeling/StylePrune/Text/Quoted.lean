import StylePrune.Text.CharClass
import StylePrune.Text.Point

/-!
# Quoted text in messages

A message shows a text between single quotes, or between double quotes if it holds a single quote
and no double one. The backslash and the quote are escaped, line ends and tabs by letter, and other
code points that do not print by number.
-/

namespace StylePrune.Quoted

def hexDigits (width n : Nat) : List Char :=
  let digits := Nat.toDigits 16 n
  List.replicate (width - digits.length) '0' ++ digits

/-- A code point by number, in the shortest of the three forms. -/
def numbered (code : Nat) : List Char :=
  if code ≤ 0xFF then '\\' :: 'x' :: hexDigits 2 code
  else if code ≤ 0xFFFF then '\\' :: 'u' :: hexDigits 4 code
  else '\\' :: 'U' :: hexDigits 8 code

def point (quote : Char) (p : Point) : List Char :=
  match p with
  | .char c =>
    if c = quote || c = '\\' then ['\\', c]
    else if c = '\n' then ['\\', 'n']
    else if c = '\r' then ['\\', 'r']
    else if c = '\t' then ['\\', 't']
    else if isPrintable c.toNat then [c]
    else numbered c.toNat
  | .surrogate _ => numbered p.code

def text (t : Text) : String :=
  let quote := if t.contains (.char '\x27') && !t.contains (.char '"') then '"' else '\x27'
  String.ofList (quote :: t.flatMap (point quote) ++ [quote])

def string (s : String) : String := text (Text.ofString s)

end StylePrune.Quoted
