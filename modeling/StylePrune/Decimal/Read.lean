import StylePrune.Decimal.Exact
import StylePrune.Text.Basic
import StylePrune.Text.CharClass
import StylePrune.Text.LetterCase

/-!
# Numbers that users write

Numbers in settings and arguments may stand between blanks, have a sign, digits of any script, and a
single underscore between two digits. Words for infinity and for no number are read in any case of
their letters.
-/

namespace StylePrune.Decimal

/-- A character with digits of any script as ASCII digits, and blanks past ASCII as spaces. -/
def plainChar (c : Char) : Char :=
  if c.toNat < 127 then c
  else if isBlank c then ' '
  else
    match digitValue? c.toNat with
    | some d => Char.ofNat (48 + d)
    | none => '?'

/-- The blanks of ASCII that may surround a number. -/
def isPadding (c : Char) : Bool := c = ' ' || (9 ≤ c.toNat && c.toNat ≤ 13)

/-- The characters of a number without the blanks around it. -/
def unpadded (text : String) : List Char :=
  dropWhileEnd isPadding ((text.toList.map plainChar).dropWhile isPadding)

def isDigit (c : Char) : Bool := '0' ≤ c && c ≤ '9'

/-- Splits off a sign; whether it was a minus. -/
def signed (cs : List Char) : Bool × List Char :=
  match cs with
  | '-' :: rest => (true, rest)
  | '+' :: rest => (false, rest)
  | _ => (false, cs)

/-- Text without its underscores, each of which must stand between two digits. -/
def withoutUnderscores? (afterDigit : Bool) : List Char → Option (List Char)
  | [] => some []
  | '_' :: rest =>
    match rest with
    | d :: _ => if afterDigit && isDigit d then withoutUnderscores? false rest else none
    | [] => none
  | c :: rest => (withoutUnderscores? (isDigit c) rest).map (c :: ·)

def natOf (digits : List Char) : Nat := digits.foldl (fun n c => 10 * n + (c.toNat - 48)) 0

/-- Reads an integer. -/
def readInt? (text : String) : Option Int :=
  let (negative, body) := signed (unpadded text)
  match withoutUnderscores? false body with
  | some digits =>
    if digits.isEmpty || !digits.all isDigit || maxDigits < digits.length then none
    else
      let n := Int.ofNat (natOf digits)
      some (if negative then -n else n)
  | none => none

/-- The exponent after its letter. -/
def readExponent? (cs : List Char) : Option Int :=
  let (negative, digits) := signed cs
  if digits.isEmpty || !digits.all isDigit then none
  else some (if negative then -Int.ofNat (natOf digits) else Int.ofNat (natOf digits))

/-- Reads digits with an optional point and exponent. -/
def readDigits? (cs : List Char) : Option Float :=
  let whole := cs.takeWhile isDigit
  let rest := cs.drop whole.length
  let (fraction, rest) := match rest with
    | '.' :: more => (more.takeWhile isDigit, more.dropWhile isDigit)
    | _ => ([], rest)
  if whole.isEmpty && fraction.isEmpty then none
  else
    let exponent := match rest with
      | [] => some 0
      | e :: more => if e = 'e' || e = 'E' then readExponent? more else none
    exponent.map fun e => ofDigits (natOf (whole ++ fraction)) (e - Int.ofNat fraction.length)

/-- Reads a number that need not be whole. -/
def readFloat? (text : String) : Option Float := do
  let cs ← withoutUnderscores? false (unpadded text)
  let (negative, body) := signed cs
  let word := String.ofList (body.map fun c => Char.ofNat (asciiLowerCode c.toNat))
  let f ←
    if word = "inf" || word = "infinity" then some infinity
    else if word = "nan" then some nan
    else readDigits? body
  return if negative then -f else f

end StylePrune.Decimal
