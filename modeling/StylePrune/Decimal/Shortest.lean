import StylePrune.Decimal.Exact

/-!
# The shortest digits that read back

A floating-point number is written with the fewest digits that read back as the same number; of
several candidates with that many digits the nearest is taken. The numbers that read back as `f` are
those between the midpoints to its neighbours, the midpoints included when the magnitude is even.
-/

namespace StylePrune.Decimal

/-- A value and the bounds of what rounds to it, over one denominator. -/
structure Interval where
  low : Nat
  value : Nat
  high : Nat
  den : Nat
  closed : Bool

def interval (magnitude : Nat) (exponent : Int) : Interval :=
  let below := if magnitude = Nat.pow 2 52 ∧ -1074 < exponent then 1 else 2
  let unit := scaled 1 (exponent - 2)
  ⟨(4 * magnitude - below) * unit.num, 4 * magnitude * unit.num, (4 * magnitude + 2) * unit.num,
    unit.den, magnitude % 2 = 0⟩

/-- Ten to the power `n`, as a quotient. -/
def tenTo (n : Int) : Quotient :=
  match n with
  | .ofNat e => ⟨Nat.pow 10 e, 1⟩
  | .negSucc e => ⟨1, Nat.pow 10 (e + 1)⟩

/-- The least `k` from `k` on with the value below ten to the power `k`. -/
def scaleFrom (num den : Nat) : Nat → Int → Int
  | 0, k => k
  | fuel + 1, k =>
    let t := tenTo k
    if num * t.den < t.num * den then k else scaleFrom num den fuel (k + 1)

/-- The `k` with ten to the power `k - 1` at most the value and the value below ten to the power
`k`. -/
def scale (i : Interval) : Int :=
  let guess :=
    if i.den ≤ i.value then Int.ofNat (Nat.toDigits 10 (i.value / i.den)).length - 1
    else -Int.ofNat (Nat.toDigits 10 (i.den / i.value)).length
  scaleFrom i.value i.den 3 guess

/-- Whether `d` units, each ten to the power `e`, read back. -/
def readsBack (i : Interval) (d : Nat) (e : Int) : Bool :=
  let t := tenTo e
  let x := d * t.num * i.den
  let low := i.low * t.den
  let high := i.high * t.den
  if i.closed then low ≤ x && x ≤ high else low < x && x < high

/-- The better of the two neighbours of the value on the grid of ten to the power `e`. -/
def onGrid? (i : Interval) (e : Int) : Option Nat :=
  let t := tenTo e
  let q : Quotient := ⟨i.value * t.den, i.den * t.num⟩
  let nearest := roundHalfEven q
  let floor := q.num / q.den
  if readsBack i nearest e then some nearest
  else if readsBack i floor e then some floor
  else if readsBack i (floor + 1) e then some (floor + 1)
  else none

/-- Digits and their power of ten, trying one digit more each time. -/
def digitsFrom (i : Interval) (k : Int) : Nat → Nat → Nat × Int
  | 0, n => ((onGrid? i (k - n)).getD 0, k - n)
  | fuel + 1, n =>
    match onGrid? i (k - n) with
    | some d => (d, k - n)
    | none => digitsFrom i k fuel (n + 1)

/-- The digits without zeros at their end, and the place of the decimal point in them. -/
def shortestDigits (magnitude : Nat) (exponent : Int) : List Char × Int :=
  if magnitude = 0 then (['0'], 1)
  else
    let i := interval magnitude exponent
    let (d, e) := digitsFrom i (scale i) 16 1
    let digits := Nat.toDigits 10 d
    let point := Int.ofNat digits.length + e
    let trimmed := (digits.reverse.dropWhile (· = '0')).reverse
    (trimmed, point)

/-- How a number is laid out around its digits. -/
structure Layout where
  /-- Least and greatest place of the point for which no exponent is written. -/
  leastPoint : Int
  greatestPoint : Int
  /-- Least number of digits of an exponent. -/
  exponentDigits : Nat
  infinity : String
  notANumber : String

/-- Numbers from 0.0001 up to 10¹⁶ are written without exponent, whole ones with `.0`. -/
def plainLayout : Layout := ⟨-3, 16, 2, "inf", "nan"⟩

def layOut (layout : Layout) (digits : List Char) (point : Int) : List Char :=
  if layout.leastPoint ≤ point && point ≤ layout.greatestPoint then
    match point with
    | .ofNat 0 => '0' :: '.' :: digits
    | .negSucc n => '0' :: '.' :: List.replicate (n + 1) '0' ++ digits
    | .ofNat n =>
      if digits.length ≤ n then
        digits ++ List.replicate (n - digits.length) '0' ++ ['.', '0']
      else digits.take n ++ '.' :: digits.drop n
  else
    let e := point - 1
    let width := Nat.toDigits 10 e.natAbs
    let sign := if e < 0 then '-' else '+'
    let mantissa :=
      match digits with
      | d :: [] => [d]
      | d :: rest => d :: '.' :: rest
      | [] => []
    mantissa ++ 'e' :: sign :: List.replicate (layout.exponentDigits - width.length) '0' ++ width

/-- A number in its shortest form. -/
def shortest (layout : Layout) (f : Float) : String :=
  match parts f with
  | .finite negative magnitude exponent =>
    let (digits, point) := shortestDigits magnitude exponent
    String.ofList ((if negative then ['-'] else []) ++ layOut layout digits point)
  | .infinite negative => (if negative then "-" else "") ++ layout.infinity
  | .notANumber => layout.notANumber

end StylePrune.Decimal
