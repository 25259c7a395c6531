/-!
# Dates and times of day

Dates of the calendar and times of day, and how they are written. A moment is counted in
microseconds from the start of the year 1970, in universal time.
-/

namespace StylePrune.Calendar

structure Date where
  year : Nat
  month : Nat
  day : Nat
deriving DecidableEq, Repr

structure Time where
  hour : Nat
  minute : Nat
  second : Nat
  micros : Nat
deriving DecidableEq, Repr

def isLeap (year : Nat) : Bool := year % 4 = 0 && (year % 100 ≠ 0 || year % 400 = 0)

def daysOf (year month : Nat) : Nat :=
  if month = 2 then if isLeap year then 29 else 28
  else if [4, 6, 9, 11].contains month then 30
  else 31

/-- Whether the calendar has a date. -/
def Date.isValid (d : Date) : Bool := 1 ≤ d.year && d.day ≤ daysOf d.year d.month

/-- The digits of a number, with zeros in front up to a width. -/
def padded (width n : Nat) : String :=
  let digits := Nat.toDigits 10 n
  String.ofList (List.replicate (width - digits.length) '0' ++ digits)

def Date.shown (d : Date) : String :=
  padded 4 d.year ++ "-" ++ padded 2 d.month ++ "-" ++ padded 2 d.day

/-- A time, with its micros if it has any. -/
def Time.shown (t : Time) : String :=
  padded 2 t.hour ++ ":" ++ padded 2 t.minute ++ ":" ++ padded 2 t.second ++
    if t.micros = 0 then "" else "." ++ padded 6 t.micros

/-- The date a number of days after the first of January 1970. Years are counted from March here, so
that a leap day ends its year, in spans of 400 years from the year 0. -/
def Date.ofDays (days : Nat) : Date :=
  let fromYearZero := days + 719468
  let inSpan := fromYearZero % 146097
  let year := (inSpan - inSpan / 1460 + inSpan / 36524 - inSpan / 146096) / 365
  let inYear := inSpan - (365 * year + year / 4 - year / 100)
  let fromMarch := (5 * inYear + 2) / 153
  let month := if fromMarch < 10 then fromMarch + 3 else fromMarch - 9
  { year := year + 400 * (fromYearZero / 146097) + if month ≤ 2 then 1 else 0
    month
    day := inYear - (153 * fromMarch + 2) / 5 + 1 }

/-- The time of day a number of micros after midnight. -/
def Time.ofMicros (micros : Nat) : Time where
  hour := micros / 3600000000
  minute := micros / 60000000 % 60
  second := micros / 1000000 % 60
  micros := micros % 1000000

/-- A moment as date, time and zone. -/
def momentShown (micros : Nat) : String :=
  (Date.ofDays (micros / 86400000000)).shown ++ "T" ++
    (Time.ofMicros (micros % 86400000000)).shown ++ "+00:00"

end StylePrune.Calendar
