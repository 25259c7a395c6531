import StylePrune.Toml.Text

/-!
# Numbers of TOML

Integers are written in four bases; other numbers have a point or an exponent. Single underscores
may stand between digits.
-/

namespace StylePrune.Toml

/-- Digits with single underscores between them, at the start of a text. -/
def digitRun (isDigit : Char → Bool) : List Char → List Char
  | [] => []
  | '_' :: d :: rest => if isDigit d then '_' :: digitRun isDigit (d :: rest) else []
  | c :: rest => if isDigit c then c :: digitRun isDigit rest else []

/-- Such digits, the first of which is no underscore. -/
def digits (isDigit : Char → Bool) (cs : List Char) : List Char :=
  match cs with
  | '_' :: _ => []
  | _ => digitRun isDigit cs

def isDecimalDigit (c : Char) : Bool := '0' ≤ c && c ≤ '9'

/-- The value of digits in a base. -/
def valueIn (base : Nat) (cs : List Char) : Nat :=
  cs.foldl (fun n c => match Json.hexValue? c with
    | some d => base * n + d
    | none => n) 0

/-- The base that a letter after a zero stands for. -/
def baseOf? : Char → Option Nat
  | 'x' => some 16
  | 'o' => some 8
  | 'b' => some 2
  | _ => none

def isDigitIn (base : Nat) (c : Char) : Bool :=
  match Json.hexValue? c with
  | some d => d < base
  | none => false

/-- An integer with a base, if one starts here. -/
def based? (cs : List Char) : Option (Json × List Char) :=
  match cs with
  | '0' :: letter :: rest => do
    let base ← baseOf? letter
    let run := digits (isDigitIn base) rest
    if run.isEmpty then none else some (.int (valueIn base run), rest.drop run.length)
  | _ => none

def isSign (c : Char) : Bool := c = '+' || c = '-'

/-- The digits after a point, if some follow it. -/
def fractionOf (cs : List Char) : List Char :=
  match cs with
  | '.' :: rest => digits isDecimalDigit rest
  | _ => []

/-- The sign and digits of an exponent, if there is one. -/
def exponentOf (cs : List Char) : List Char :=
  match cs with
  | e :: rest =>
    if e = 'e' || e = 'E' then
      match rest with
      | s :: more =>
        if isSign s then
          let run := digits isDecimalDigit more
          if run.isEmpty then [] else s :: run
        else digits isDecimalDigit rest
      | [] => []
    else []
  | [] => []

def plainDigits (cs : List Char) : List Char := cs.filter isDecimalDigit

def signedInt (cs : List Char) : Int :=
  let n := Int.ofNat (valueIn 10 cs)
  if cs.head? = some '-' then -n else n

/-- A decimal number, if one starts here. -/
def decimal? (cs : List Char) : Option (Result Json) :=
  let (negative, body) := match cs with
    | '-' :: rest => (true, rest)
    | '+' :: rest => (false, rest)
    | _ => (false, cs)
  let whole := match body with
    | '0' :: _ => ['0']
    | _ => digits isDecimalDigit body
  if whole.isEmpty then none
  else
    let left := body.drop whole.length
    let fraction := fractionOf left
    let left := if fraction.isEmpty then left else left.drop (fraction.length + 1)
    let exponent := exponentOf left
    let left := if exponent.isEmpty then left else left.drop (exponent.length + 1)
    if fraction.isEmpty && exponent.isEmpty then
      let count := (plainDigits whole).length
      if Decimal.maxDigits < count then some (.error (.integerTooLong count))
      else
        let n := Int.ofNat (valueIn 10 whole)
        some (.ok (.int (if negative then -n else n), left))
    else
      let places := Int.ofNat (plainDigits fraction).length
      let f := Decimal.ofDigits (valueIn 10 (whole ++ fraction)) (signedInt exponent - places)
      some (.ok (.float (if negative then -f else f), left))

/-- The words for infinity and for what is no number. -/
def numberWords : List (String × Float) :=
  [("inf", Decimal.infinity), ("+inf", Decimal.infinity), ("-inf", -Decimal.infinity),
    ("nan", Decimal.nan), ("+nan", Decimal.nan), ("-nan", Decimal.nan)]

def numberWord? (cs : List Char) : Option (Json × List Char) :=
  (numberWords.find? fun w => w.1.toList.isPrefixOf cs).map fun w =>
    (.float w.2, cs.drop w.1.length)

/-- A number, if one starts here. -/
def number? (cs : List Char) : Option (Result Json) :=
  match based? cs with
  | some found => some (.ok found)
  | none =>
    match decimal? cs with
    | some r => some r
    | none => (numberWord? cs).map .ok

end StylePrune.Toml
