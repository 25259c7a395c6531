/-!
# Numbers and their digits

Binary numbers as exact fractions, numbers with a fixed number of places, and the longest integers
that are read.
-/

namespace StylePrune.Decimal

/-!
## Floating-point numbers as quotients

A finite number is a sign and a quotient of two natural numbers, and so are the bounds of the
numbers that round to it. Rounding such a quotient to an integer sends a half to the even neighbour.
-/

/-- A floating-point number taken apart: `magnitude` times two to the power `exponent`, or one of
the values that are no number. -/
inductive Parts where
  | finite (negative : Bool) (magnitude : Nat) (exponent : Int)
  | infinite (negative : Bool)
  | notANumber
deriving DecidableEq, Repr

def parts (f : Float) : Parts :=
  let bits := f.toBits.toNat
  let negative := bits / Nat.pow 2 63 = 1
  let biased := bits / Nat.pow 2 52 % Nat.pow 2 11
  let fraction := bits % Nat.pow 2 52
  if biased = 2047 then if fraction = 0 then .infinite negative else .notANumber
  else if biased = 0 then .finite negative fraction (-1074)
  else .finite negative (fraction + Nat.pow 2 52) (Int.ofNat biased - 1075)

def isFinite (f : Float) : Bool :=
  match parts f with
  | .finite .. => true
  | _ => false

/-- A quotient, the denominator of which is not zero. -/
structure Quotient where
  num : Nat
  den : Nat
deriving Repr

/-- `n` times two to the power `exponent`. -/
def scaled (n : Nat) (exponent : Int) : Quotient :=
  match exponent with
  | .ofNat e => ⟨n * Nat.pow 2 e, 1⟩
  | .negSucc e => ⟨n, Nat.pow 2 (e + 1)⟩

/-- The nearest integer, a half to the even neighbour. -/
def roundHalfEven (q : Quotient) : Nat :=
  let floor := q.num / q.den
  let rest := q.num % q.den
  if 2 * rest < q.den then floor
  else if q.den < 2 * rest then floor + 1
  else if floor % 2 = 0 then floor else floor + 1

/-- The integer part of a finite number, toward zero. -/
def truncate? (f : Float) : Option Int :=
  match parts f with
  | .finite negative magnitude exponent =>
    let q := scaled magnitude exponent
    let whole := q.num / q.den
    some (if negative then -Int.ofNat whole else Int.ofNat whole)
  | _ => none

/-- The floating-point number nearest to `digits` times ten to the power `exponent`. Exponents far
outside the range of numbers are cut off first. -/
def ofDigits (digits : Nat) (exponent : Int) : Float :=
  let width := Int.ofNat (Nat.toDigits 10 digits).length
  if digits = 0 then 0
  else if width + exponent > 400 then 1.0 / 0.0
  else if width + exponent < -400 then 0
  else
    match exponent with
    | .ofNat e => Float.ofScientific digits false e
    | .negSucc e => Float.ofScientific digits true (e + 1)

def infinity : Float := 1.0 / 0.0

def nan : Float := 0.0 / 0.0

/-- The nearest floating-point number to an integer, if it is finite. -/
def ofInt? (n : Int) : Option Float :=
  let f := ofDigits n.natAbs 0
  if isFinite f then some (if n < 0 then -f else f) else none

/-- How a finite number compares with an integer, exactly. -/
def compareInt (f : Float) (n : Int) : Option Ordering :=
  match parts f with
  | .finite negative magnitude exponent =>
    let q := scaled magnitude exponent
    let num := if negative then -Int.ofNat q.num else Int.ofNat q.num
    some (compare num (n * Int.ofNat q.den))
  | .infinite negative => some (if negative then .lt else .gt)
  | .notANumber => none

/-!
## A fixed number of places

A number is rounded to so many places after the point, a half of the last place to the even
neighbour. The exact binary value is what is rounded.
-/

/-- The digits of `n`, with the point before the last `places` of them. -/
def withPoint (places n : Nat) : List Char :=
  let digits := Nat.toDigits 10 n
  let padded := List.replicate (places + 1 - digits.length) '0' ++ digits
  let whole := padded.take (padded.length - places)
  if places = 0 then whole else whole ++ '.' :: padded.drop (padded.length - places)

/-- A number with `places` places after the point. -/
def fixed (places : Nat) (f : Float) : String :=
  match parts f with
  | .finite negative magnitude exponent =>
    let q := scaled magnitude exponent
    let n := roundHalfEven ⟨q.num * Nat.pow 10 places, q.den⟩
    String.ofList ((if negative then ['-'] else []) ++ withPoint places n)
  | .infinite negative => if negative then "-inf" else "inf"
  | .notANumber => "nan"

/-!
## The longest integers

Integers are read from text only up to a number of digits; a longer one is refused, with a message
that says so.
-/

/-- The most digits an integer may have. -/
def maxDigits : Nat := 4300

def integerTooLongMessage (digits : Nat) : String :=
  s!"Exceeds the limit ({maxDigits} digits) for integer string conversion: value has {digits} " ++
    "digits; use sys.set_int_max_str_digits() to increase the limit"

end StylePrune.Decimal
