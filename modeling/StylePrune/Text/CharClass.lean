/-!
# Classes of characters

Which characters are letters and digits, which texts are identifiers, and which characters are shown
as they are. The classes are tables of runs of code points.
-/

namespace StylePrune

/-!
## Sets of code points as runs

A set of code points is written as the lengths of its runs: first how many code points lie outside
it, then how many lie inside, then outside again, and so on in turn. `Runs.mem` reads such a list.
-/

/-- Whether `code` lies in an inside run, when the first run of the list is inside or not as
`inside` says; past the last run everything is outside. -/
def Runs.memFrom (inside : Bool) : List Nat → Nat → Bool
  | [], _ => false
  | run :: rest, code => if code < run then inside else Runs.memFrom (!inside) rest (code - run)

/-- Whether `code` lies in the set that `runs` writes. -/
def Runs.mem (runs : List Nat) (code : Nat) : Bool := Runs.memFrom false runs code

/-!
## Letters, digits and word characters

The classes that word boundaries and identifiers rest on: letters and numbers of any script,
decimal digits, and word characters (letters, numbers and the underscore).
-/

/-- Letters and numbers outside ASCII, as runs. -/
def letterRuns : List Nat := [
  48, 10, 7, 26, 6, 26, 47, 1, 7, 2, 1, 1, 3, 2, 1, 3, 1, 23, 1, 31, 1, 458, 4, 12, 14, 5, 7, 1, 1,
  1, 129, 5, 1, 2, 2, 4, 1, 1, 6, 1, 1, 3, 1, 1, 1, 20, 1, 83, 1, 139, 8, 166, 1, 38, 2, 1, 6, 41,
  71, 27, 4, 4, 45, 43, 21, 10, 4, 2, 1, 99, 1, 1, 15, 2, 7, 15, 2, 1, 16, 1, 1, 30, 29, 89, 11, 1,
  14, 43, 9, 2, 4, 1, 5, 22, 4, 1, 9, 1, 3, 1, 23, 25, 7, 11, 5, 24, 1, 6, 17, 42, 58, 54, 3, 1,
  18, 1, 7, 10, 4, 10, 1, 16, 4, 8, 2, 2, 2, 22, 1, 7, 1, 1, 3, 4, 3, 1, 16, 1, 13, 2, 1, 3, 4, 12,
  2, 6, 2, 1, 8, 6, 4, 2, 2, 22, 1, 7, 1, 2, 1, 2, 1, 2, 31, 4, 1, 1, 7, 10, 2, 3, 16, 9, 1, 3, 1,
  22, 1, 7, 1, 2, 1, 5, 3, 1, 18, 1, 15, 2, 4, 10, 9, 1, 11, 8, 2, 2, 2, 22, 1, 7, 1, 2, 1, 5, 3,
  1, 30, 2, 1, 3, 4, 10, 1, 7, 11, 1, 1, 6, 3, 3, 1, 4, 3, 2, 1, 1, 1, 2, 3, 2, 3, 3, 3, 12, 22, 1,
  21, 13, 18, 8, 1, 3, 1, 23, 1, 16, 3, 1, 26, 3, 2, 1, 2, 2, 4, 10, 8, 7, 1, 1, 4, 8, 1, 3, 1, 23,
  1, 10, 1, 5, 3, 1, 31, 2, 1, 2, 4, 10, 1, 2, 17, 9, 1, 3, 1, 41, 2, 1, 16, 1, 5, 3, 1, 10, 4, 19,
  1, 6, 5, 18, 3, 24, 1, 9, 1, 1, 2, 7, 31, 10, 17, 48, 1, 2, 12, 7, 9, 10, 39, 2, 1, 1, 1, 5, 1,
  24, 1, 1, 1, 10, 1, 2, 9, 1, 2, 5, 1, 1, 9, 10, 2, 4, 32, 1, 31, 20, 12, 8, 1, 36, 27, 5, 115,
  43, 20, 11, 6, 6, 4, 4, 3, 1, 3, 2, 7, 3, 4, 13, 12, 1, 1, 10, 6, 38, 1, 1, 5, 1, 2, 43, 1, 333,
  1, 4, 2, 7, 1, 1, 1, 4, 2, 41, 1, 4, 2, 33, 1, 4, 2, 7, 1, 1, 1, 4, 2, 15, 1, 57, 1, 4, 2, 67,
  14, 20, 3, 16, 16, 86, 2, 6, 3, 620, 2, 17, 1, 26, 5, 75, 3, 11, 7, 18, 13, 19, 14, 18, 14, 13,
  1, 3, 15, 52, 35, 1, 4, 1, 3, 10, 6, 10, 22, 10, 6, 89, 7, 5, 2, 34, 1, 1, 5, 70, 10, 31, 39, 40,
  2, 5, 11, 44, 4, 26, 6, 11, 37, 23, 9, 53, 43, 10, 6, 10, 13, 1, 93, 47, 17, 8, 3, 10, 41, 30,
  13, 56, 26, 36, 28, 10, 3, 49, 2, 9, 7, 43, 2, 3, 41, 4, 1, 6, 1, 2, 3, 1, 5, 192, 64, 278, 2, 6,
  2, 38, 2, 6, 2, 8, 1, 1, 1, 1, 1, 1, 1, 31, 2, 53, 1, 7, 1, 1, 3, 3, 1, 7, 3, 4, 2, 6, 4, 13, 5,
  3, 1, 7, 115, 2, 2, 6, 5, 11, 6, 13, 101, 1, 4, 1, 2, 10, 1, 1, 3, 5, 6, 1, 1, 1, 1, 1, 1, 4, 1,
  11, 2, 4, 5, 5, 4, 1, 1, 58, 726, 60, 78, 22, 630, 30, 1132, 229, 6, 4, 3, 2, 9, 1, 2, 38, 1, 1,
  5, 1, 2, 56, 7, 1, 16, 23, 9, 7, 1, 7, 1, 7, 1, 7, 1, 7, 1, 7, 1, 7, 1, 7, 80, 1, 469, 3, 25, 9,
  7, 5, 2, 5, 4, 86, 6, 3, 1, 90, 1, 4, 5, 43, 1, 94, 3, 4, 10, 32, 48, 16, 32, 10, 30, 8, 1, 15,
  32, 10, 39, 15, 320, 6592, 64, 22157, 67, 46, 2, 269, 3, 28, 20, 47, 16, 31, 2, 80, 39, 9, 2,
  103, 2, 64, 5, 2, 1, 1, 1, 5, 24, 16, 1, 3, 1, 4, 1, 23, 13, 6, 10, 52, 14, 50, 28, 10, 24, 6, 3,
  1, 1, 2, 1, 38, 10, 23, 25, 29, 7, 47, 28, 11, 6, 5, 1, 25, 1, 41, 23, 3, 1, 8, 4, 10, 6, 23, 3,
  1, 3, 50, 1, 1, 3, 2, 2, 5, 2, 1, 1, 1, 24, 3, 2, 11, 7, 3, 12, 6, 2, 6, 2, 6, 9, 7, 1, 7, 1, 43,
  1, 14, 6, 115, 13, 10, 6, 11172, 12, 23, 4, 49, 8452, 366, 2, 106, 38, 7, 12, 5, 5, 1, 1, 10, 1,
  13, 1, 5, 1, 1, 1, 2, 1, 2, 1, 108, 33, 363, 18, 64, 2, 54, 40, 12, 116, 5, 1, 135, 19, 10, 7,
  26, 6, 26, 11, 89, 3, 6, 2, 6, 2, 6, 2, 3, 35, 12, 1, 26, 1, 19, 1, 2, 1, 15, 2, 14, 34, 123, 12,
  45, 12, 57, 17, 2, 244, 29, 3, 49, 16, 27, 4, 36, 9, 30, 5, 38, 10, 30, 2, 36, 4, 8, 1, 5, 42,
  158, 2, 10, 6, 36, 4, 36, 4, 40, 8, 52, 12, 11, 1, 15, 1, 7, 1, 2, 1, 11, 1, 15, 1, 7, 1, 2, 67,
  311, 9, 22, 10, 8, 24, 6, 1, 42, 1, 9, 69, 6, 2, 1, 1, 44, 1, 2, 3, 1, 2, 23, 2, 31, 2, 38, 8, 9,
  48, 19, 1, 2, 5, 33, 4, 26, 70, 56, 4, 20, 2, 47, 15, 4, 1, 3, 1, 29, 10, 9, 23, 31, 1, 32, 32,
  8, 1, 28, 6, 5, 16, 54, 10, 22, 2, 27, 5, 26, 23, 7, 80, 73, 55, 51, 13, 51, 7, 42, 12, 10, 294,
  31, 1, 42, 6, 2, 78, 40, 8, 22, 11, 4, 27, 18, 46, 28, 20, 23, 12, 53, 26, 30, 1, 2, 2, 1, 13,
  45, 32, 25, 7, 10, 9, 36, 15, 10, 4, 1, 2, 1, 8, 35, 3, 1, 12, 48, 14, 4, 11, 11, 1, 1, 4, 20,
  11, 18, 1, 25, 84, 7, 1, 1, 1, 4, 1, 15, 1, 10, 7, 47, 17, 10, 11, 8, 2, 2, 2, 22, 1, 7, 1, 2, 1,
  5, 3, 1, 18, 1, 12, 5, 158, 53, 18, 4, 5, 10, 5, 3, 30, 48, 20, 2, 1, 1, 8, 10, 166, 47, 41, 4,
  36, 48, 20, 1, 11, 10, 38, 43, 13, 1, 7, 10, 54, 27, 21, 12, 4, 7, 185, 44, 116, 83, 12, 8, 2, 1,
  2, 8, 1, 2, 1, 24, 15, 1, 1, 1, 14, 10, 70, 8, 2, 39, 16, 1, 1, 1, 28, 1, 10, 40, 7, 1, 21, 1,
  11, 46, 19, 1, 18, 73, 263, 9, 1, 37, 17, 1, 15, 29, 5, 30, 112, 7, 1, 2, 1, 38, 21, 1, 9, 10, 6,
  6, 1, 2, 1, 32, 14, 1, 7, 10, 310, 19, 189, 1, 15, 21, 43, 922, 102, 111, 17, 196, 2636, 97, 15,
  1071, 4049, 583, 8633, 569, 7, 31, 1, 10, 6, 79, 1, 10, 6, 30, 18, 48, 16, 4, 12, 10, 1, 7, 1,
  21, 5, 19, 688, 87, 105, 75, 5, 1, 66, 13, 64, 2, 1, 1, 28, 6136, 8, 1238, 42, 9, 8935, 4, 1, 7,
  1, 2, 1, 291, 45, 3, 17, 4, 8, 396, 2308, 107, 5, 13, 3, 9, 7, 10, 5702, 20, 108, 25, 135, 85, 1,
  71, 1, 2, 2, 1, 2, 2, 2, 4, 1, 12, 1, 1, 1, 7, 1, 65, 1, 4, 2, 8, 1, 7, 1, 28, 1, 4, 1, 5, 1, 1,
  3, 7, 1, 340, 2, 25, 1, 25, 1, 31, 1, 25, 1, 31, 1, 25, 1, 31, 1, 25, 1, 31, 1, 25, 1, 8, 2, 50,
  1792, 31, 481, 45, 10, 7, 2, 10, 4, 1, 321, 30, 18, 44, 4, 10, 1254, 7, 1, 4, 1, 2, 1, 15, 1,
  197, 2, 9, 48, 68, 7, 1, 4, 10, 791, 59, 1, 3, 1, 4, 76, 45, 1, 15, 194, 4, 1, 27, 1, 2, 1, 1, 2,
  1, 1, 10, 1, 4, 1, 1, 1, 1, 6, 1, 4, 1, 1, 1, 1, 1, 1, 3, 1, 2, 1, 1, 2, 1, 1, 1, 1, 1, 1, 1, 1,
  1, 1, 2, 1, 1, 2, 4, 1, 7, 1, 4, 1, 4, 1, 1, 1, 10, 1, 17, 5, 3, 1, 5, 1, 17, 580, 13, 2787, 10,
  1030, 42720, 32, 4153, 7, 222, 2, 5762, 14, 7473, 3103, 542, 1506, 4939]

/-- Letters and numbers of any script. -/
def isLetterOrNumber (code : Nat) : Bool :=
  if code < 128 then
    (48 ≤ code && code ≤ 57) || (65 ≤ code && code ≤ 90) || (97 ≤ code && code ≤ 122)
  else Runs.mem letterRuns code

/-- Numbers outside ASCII that are no letters, as runs. -/
def numberRuns : List Nat := [
  178, 2, 5, 1, 2, 3, 1441, 10, 134, 10, 198, 10, 412, 10, 118, 10, 4, 6, 108, 10, 118, 10, 118, 10,
  2, 6, 110, 13, 115, 10, 8, 7, 103, 10, 104, 7, 7, 19, 109, 10, 96, 10, 118, 10, 70, 20, 268, 10,
  70, 10, 719, 20, 881, 3, 239, 10, 6, 10, 22, 10, 300, 10, 128, 11, 165, 10, 6, 10, 182, 10, 86,
  10, 134, 10, 6, 10, 1046, 1, 3, 6, 6, 10, 198, 51, 2, 5, 726, 60, 78, 22, 630, 30, 1385, 1, 777,
  1, 25, 9, 14, 3, 343, 4, 138, 10, 30, 8, 1, 15, 32, 10, 39, 15, 29536, 10, 188, 10, 320, 6, 154,
  10, 38, 10, 198, 10, 22, 10, 86, 10, 406, 10, 21270, 10, 493, 45, 12, 57, 17, 2, 341, 27, 36, 4,
  29, 1, 8, 1, 134, 5, 202, 10, 942, 8, 25, 7, 39, 9, 75, 5, 22, 6, 160, 2, 2, 16, 2, 46, 64, 9, 52,
  2, 30, 3, 75, 5, 104, 8, 24, 8, 41, 7, 330, 6, 48, 10, 294, 31, 158, 10, 42, 4, 112, 7, 134, 30,
  128, 10, 60, 10, 144, 10, 7, 20, 251, 10, 342, 10, 118, 10, 374, 10, 102, 10, 102, 12, 420, 19,
  93, 10, 758, 29, 227, 10, 70, 10, 534, 21, 1067, 111, 17905, 10, 86, 10, 134, 10, 1, 7, 798, 23,
  25673, 20, 108, 25, 1109, 50, 2368, 10, 422, 10, 1485, 9, 128, 10, 791, 59, 1, 3, 1, 4, 76, 45, 1,
  15, 962, 13, 2787, 10]

/-- Letters of any script. -/
def isLetter (code : Nat) : Bool :=
  if code < 128 then (65 ≤ code && code ≤ 90) || (97 ≤ code && code ≤ 122)
  else isLetterOrNumber code && !Runs.mem numberRuns code

/-- Letters, numbers and the underscore. -/
def isWord (code : Nat) : Bool := isLetterOrNumber code || code = 95

/-- The zeros of the decimal digits; each starts a block of ten consecutive digits. -/
def decimalZeros : List Nat := [
  48, 1632, 1776, 1984, 2406, 2534, 2662, 2790, 2918, 3046, 3174, 3302, 3430, 3558, 3664, 3792,
  3872, 4160, 4240, 6112, 6160, 6470, 6608, 6784, 6800, 6992, 7088, 7232, 7248, 42528, 43216,
  43264, 43472, 43504, 43600, 44016, 65296, 66720, 68912, 69734, 69872, 69942, 70096, 70384, 70736,
  70864, 71248, 71360, 71472, 71904, 72016, 72784, 73040, 73120, 92768, 92864, 93008, 120782,
  120792, 120802, 120812, 120822, 123200, 123632, 125264, 130032]

/-- The value of a decimal digit of any script. -/
def digitValue? (code : Nat) : Option Nat :=
  if code < 128 then if 48 ≤ code ∧ code ≤ 57 then some (code - 48) else none
  else (decimalZeros.find? fun first => first ≤ code && code < first + 10).map (code - ·)

/-- Decimal digits of any script. -/
def isDecimal (code : Nat) : Bool := (digitValue? code).isSome

/-!
## Identifiers

A name starts with a letter or an underscore and goes on with letters, decimal digits, marks that
combine with letters, and underscores. Numbers that are written as letters count as letters here,
and a few letters that stand for a mark and a letter may not start a name.
-/

namespace Identifier

/-- Code points that start a name and are no letters, as runs. -/
def startRuns : List Nat := [
  5870, 3, 404, 2, 2193, 1, 21, 1, 49, 35, 2, 4, 3710, 1, 25, 9, 14, 3, 30379, 10, 23120, 53, 460,
  1, 8, 1, 134, 5, 8234, 111]

/-- Letters that may not start a name, as runs. -/
def markedLetterRuns : List Nat := [
  890, 1, 2744, 1, 127, 1, 8059, 1, 52782, 6, 406, 2, 116, 1, 1, 1, 1, 1, 1, 1, 1, 1, 1, 1, 1, 1, 1,
  1, 287, 2]

/-- Code points outside ASCII that go on with a name and do not start one, as runs. -/
def markRuns : List Nat := [
  183, 1, 584, 112, 23, 1, 251, 5, 265, 45, 1, 1, 1, 2, 1, 2, 1, 1, 72, 11, 48, 31, 6, 1, 101, 7, 2,
  6, 2, 2, 1, 4, 2, 10, 23, 1, 30, 27, 91, 11, 15, 10, 33, 9, 9, 1, 24, 4, 1, 9, 1, 3, 1, 5, 43, 3,
  60, 8, 42, 24, 1, 33, 54, 3, 1, 18, 1, 7, 10, 2, 2, 10, 17, 3, 56, 1, 1, 7, 2, 2, 2, 3, 9, 1, 10,
  2, 2, 10, 14, 1, 2, 3, 56, 1, 1, 5, 4, 2, 2, 3, 3, 1, 20, 12, 3, 1, 11, 3, 56, 1, 1, 8, 1, 3, 1,
  3, 20, 2, 2, 10, 10, 6, 1, 3, 56, 1, 1, 7, 2, 2, 2, 3, 7, 3, 10, 2, 2, 10, 18, 1, 59, 5, 3, 3, 1,
  4, 9, 1, 14, 10, 16, 5, 55, 1, 1, 7, 1, 3, 1, 4, 7, 2, 11, 2, 2, 10, 17, 3, 56, 1, 1, 7, 1, 3, 1,
  4, 7, 2, 11, 2, 2, 10, 16, 4, 55, 2, 1, 7, 1, 3, 1, 4, 9, 1, 10, 2, 2, 10, 17, 3, 70, 1, 4, 6, 1,
  1, 1, 8, 6, 10, 2, 2, 61, 1, 1, 8, 12, 8, 1, 10, 87, 1, 1, 10, 11, 6, 2, 10, 62, 2, 6, 10, 11, 1,
  1, 1, 1, 1, 4, 2, 49, 20, 1, 2, 5, 11, 1, 36, 9, 1, 100, 20, 1, 10, 12, 4, 4, 3, 1, 3, 2, 7, 3, 4,
  13, 12, 1, 15, 703, 3, 9, 9, 928, 4, 28, 3, 29, 2, 30, 2, 64, 32, 9, 1, 2, 10, 33, 3, 1, 11, 143,
  1, 118, 12, 4, 12, 10, 10, 128, 11, 60, 5, 57, 10, 1, 29, 2, 11, 6, 10, 22, 14, 1, 16, 49, 5, 47,
  17, 11, 10, 17, 9, 12, 3, 30, 13, 2, 10, 44, 14, 48, 20, 8, 10, 6, 10, 118, 3, 1, 21, 4, 1, 6, 1,
  2, 3, 198, 64, 575, 2, 19, 1, 123, 13, 4, 1, 3, 12, 3070, 3, 141, 1, 96, 32, 554, 6, 105, 2,
  30085, 10, 69, 1, 4, 10, 32, 2, 80, 2, 272, 1, 3, 1, 4, 1, 23, 5, 4, 1, 83, 2, 50, 18, 10, 10, 6,
  18, 13, 11, 28, 8, 25, 13, 44, 4, 47, 14, 15, 10, 11, 1, 10, 10, 47, 14, 12, 1, 8, 2, 2, 10, 33,
  3, 50, 1, 1, 3, 2, 2, 5, 2, 1, 1, 41, 5, 5, 2, 236, 8, 1, 2, 2, 10, 20260, 1, 737, 16, 16, 16, 3,
  2, 24, 3, 192, 10, 37, 1, 94, 2, 605, 1, 226, 1, 149, 5, 293, 10, 1367, 3, 1, 2, 5, 4, 40, 3, 4,
  1, 165, 2, 573, 4, 8, 10, 369, 2, 153, 11, 49, 4, 122, 3, 53, 15, 31, 11, 2, 2, 10, 4, 45, 11, 7,
  1, 45, 10, 6, 3, 36, 14, 1, 10, 5, 2, 44, 1, 12, 3, 48, 14, 8, 4, 1, 12, 82, 12, 6, 1, 160, 12, 5,
  10, 6, 4, 55, 2, 1, 7, 2, 2, 2, 3, 9, 1, 10, 2, 2, 7, 3, 5, 192, 18, 9, 10, 4, 1, 81, 20, 12, 10,
  213, 7, 2, 9, 27, 2, 82, 17, 15, 10, 81, 13, 8, 10, 83, 15, 4, 10, 242, 15, 165, 10, 70, 6, 1, 2,
  2, 4, 1, 1, 1, 2, 12, 10, 119, 7, 2, 7, 3, 1, 28, 10, 40, 7, 1, 4, 8, 1, 9, 11, 46, 16, 405, 8, 1,
  8, 16, 10, 56, 22, 1, 14, 122, 6, 3, 1, 1, 2, 1, 7, 1, 1, 8, 10, 48, 5, 1, 2, 1, 5, 8, 10, 329, 4,
  19305, 10, 86, 10, 38, 5, 59, 7, 25, 10, 1013, 1, 1, 55, 7, 4, 81, 1, 11, 2, 19627, 2, 4705, 46,
  2, 23, 542, 5, 3, 6, 8, 8, 2, 7, 30, 4, 148, 3, 1417, 50, 512, 55, 4, 50, 8, 1, 14, 1, 22, 5, 1,
  15, 1360, 7, 1, 17, 2, 7, 1, 2, 1, 5, 261, 7, 9, 10, 356, 1, 61, 14, 1494, 7, 109, 7, 5, 10, 4758,
  10, 787718, 240]

/-- Whether a name may start with a code point. -/
def isStart (code : Nat) : Bool :=
  if code < 128 then isLetter code || code = 95
  else (isLetter code && !Runs.mem markedLetterRuns code) || Runs.mem startRuns code

/-- Whether a code point may stand in a name behind its start. -/
def isContinue (code : Nat) : Bool :=
  isStart code || (if code < 128 then 48 ≤ code && code ≤ 57 else Runs.mem markRuns code)

end Identifier

/-- Whether a text is a name. -/
def isIdentifier (text : String) : Bool :=
  match text.toList with
  | [] => false
  | c :: rest => Identifier.isStart c.toNat && rest.all fun c => Identifier.isContinue c.toNat

/-!
## Printable code points

A quoted text shows a printable code point as itself and escapes the others. Separators other than
the plain space, control and format characters, surrogates, private and unassigned code points are
not printable.
-/

/-- Printable code points, as runs. -/
def printableRuns : List Nat := [
  32, 95, 34, 12, 1, 714, 2, 6, 4, 7, 1, 1, 1, 20, 1, 397, 1, 38, 2, 50, 2, 3, 1, 55, 8, 27, 4, 6,
  17, 22, 1, 192, 1, 48, 2, 59, 2, 101, 14, 59, 2, 49, 2, 15, 1, 28, 2, 1, 1, 11, 5, 31, 9, 74, 1,
  161, 1, 8, 2, 2, 2, 22, 1, 7, 1, 1, 3, 4, 2, 9, 2, 2, 2, 4, 8, 1, 4, 2, 1, 5, 2, 25, 2, 3, 1, 6,
  4, 2, 2, 22, 1, 7, 1, 2, 1, 2, 1, 2, 2, 1, 1, 5, 4, 2, 2, 3, 3, 1, 7, 4, 1, 1, 7, 17, 10, 3, 1,
  9, 1, 3, 1, 22, 1, 7, 1, 2, 1, 5, 2, 10, 1, 3, 1, 3, 2, 1, 15, 4, 2, 12, 7, 7, 1, 3, 1, 8, 2, 2,
  2, 22, 1, 7, 1, 2, 1, 5, 2, 9, 2, 2, 2, 3, 7, 3, 4, 2, 1, 5, 2, 18, 10, 2, 1, 6, 3, 3, 1, 4, 3,
  2, 1, 1, 1, 2, 3, 2, 3, 3, 3, 12, 4, 5, 3, 3, 1, 4, 2, 1, 6, 1, 14, 21, 5, 13, 1, 3, 1, 23, 1,
  16, 2, 9, 1, 3, 1, 4, 7, 2, 1, 3, 2, 1, 2, 4, 2, 10, 7, 22, 1, 3, 1, 23, 1, 10, 1, 5, 2, 9, 1, 3,
  1, 4, 7, 2, 6, 2, 1, 4, 2, 10, 1, 2, 13, 13, 1, 3, 1, 51, 1, 3, 1, 6, 4, 16, 2, 26, 1, 3, 1, 18,
  3, 24, 1, 9, 1, 1, 2, 7, 3, 1, 4, 6, 1, 1, 1, 8, 6, 10, 2, 3, 12, 58, 4, 29, 37, 2, 1, 1, 1, 5,
  1, 24, 1, 1, 1, 23, 2, 5, 1, 1, 1, 6, 2, 10, 2, 4, 32, 72, 1, 36, 4, 39, 1, 36, 1, 15, 1, 13, 37,
  198, 1, 1, 5, 1, 2, 377, 1, 4, 2, 7, 1, 1, 1, 4, 2, 41, 1, 4, 2, 33, 1, 4, 2, 7, 1, 1, 1, 4, 2,
  15, 1, 57, 1, 4, 2, 67, 2, 32, 3, 26, 6, 86, 2, 6, 2, 640, 1, 28, 3, 89, 7, 22, 9, 24, 9, 20, 12,
  13, 1, 3, 1, 2, 12, 94, 2, 10, 6, 10, 6, 14, 1, 11, 6, 89, 7, 43, 5, 70, 10, 31, 1, 12, 4, 12, 4,
  1, 3, 42, 2, 5, 11, 44, 4, 26, 6, 11, 3, 62, 2, 65, 1, 29, 2, 11, 6, 10, 6, 14, 2, 31, 49, 77, 3,
  47, 1, 116, 8, 60, 3, 15, 3, 60, 7, 43, 2, 11, 8, 43, 5, 534, 2, 6, 2, 38, 2, 6, 2, 8, 1, 1, 1,
  1, 1, 1, 1, 31, 2, 53, 1, 15, 1, 14, 2, 6, 1, 19, 2, 3, 1, 9, 17, 24, 8, 47, 17, 2, 2, 27, 1, 13,
  3, 33, 15, 33, 15, 140, 4, 663, 25, 11, 21, 1812, 2, 32, 1, 349, 5, 45, 1, 1, 5, 1, 2, 56, 7, 2,
  14, 24, 9, 7, 1, 7, 1, 7, 1, 7, 1, 7, 1, 7, 1, 7, 1, 7, 1, 126, 34, 26, 1, 89, 12, 214, 26, 12,
  5, 63, 1, 86, 2, 103, 5, 43, 1, 94, 1, 84, 12, 47, 1, 29293, 3, 55, 9, 348, 20, 184, 8, 203, 5,
  2, 1, 1, 1, 5, 24, 59, 3, 10, 6, 56, 8, 70, 8, 12, 6, 116, 11, 30, 3, 78, 1, 11, 4, 33, 1, 55, 9,
  14, 2, 10, 2, 103, 24, 28, 10, 6, 2, 6, 2, 6, 9, 7, 1, 7, 1, 60, 4, 126, 2, 10, 6, 11172, 12, 23,
  4, 49, 8452, 366, 2, 106, 38, 7, 12, 5, 5, 26, 1, 5, 1, 1, 1, 2, 1, 2, 1, 125, 16, 445, 2, 54, 7,
  1, 32, 42, 6, 51, 1, 19, 1, 4, 4, 5, 1, 135, 4, 190, 3, 6, 2, 6, 2, 6, 2, 3, 3, 7, 1, 7, 13, 2,
  2, 12, 1, 26, 1, 19, 1, 2, 1, 15, 2, 14, 34, 123, 5, 3, 4, 45, 3, 88, 1, 13, 3, 1, 47, 46, 130,
  29, 3, 49, 15, 28, 4, 36, 9, 30, 5, 43, 5, 30, 1, 37, 4, 14, 42, 158, 2, 10, 6, 36, 4, 36, 4, 40,
  8, 52, 11, 12, 1, 15, 1, 7, 1, 2, 1, 11, 1, 15, 1, 7, 1, 2, 67, 311, 9, 22, 10, 8, 24, 6, 1, 42,
  1, 9, 69, 6, 2, 1, 1, 44, 1, 2, 3, 1, 2, 23, 1, 72, 8, 9, 48, 19, 1, 2, 5, 33, 3, 27, 5, 1, 64,
  56, 4, 20, 2, 50, 1, 2, 5, 8, 1, 3, 1, 29, 2, 3, 4, 10, 7, 9, 7, 64, 32, 39, 4, 12, 9, 54, 3, 29,
  2, 27, 5, 26, 7, 4, 12, 7, 80, 73, 55, 51, 13, 51, 7, 46, 8, 10, 294, 31, 1, 42, 1, 3, 2, 2, 78,
  40, 8, 42, 22, 26, 38, 28, 20, 23, 9, 78, 4, 36, 9, 62, 1, 5, 13, 25, 7, 10, 6, 53, 1, 18, 8, 39,
  9, 96, 1, 20, 11, 18, 1, 44, 65, 7, 1, 1, 1, 4, 1, 15, 1, 11, 6, 59, 5, 10, 6, 4, 1, 8, 2, 2, 2,
  22, 1, 7, 1, 2, 1, 5, 1, 10, 2, 2, 2, 3, 2, 1, 6, 1, 5, 7, 2, 7, 3, 5, 139, 92, 1, 5, 30, 72, 8,
  10, 166, 54, 2, 38, 34, 69, 11, 10, 6, 13, 19, 58, 6, 10, 54, 27, 2, 15, 4, 23, 185, 60, 100, 83,
  12, 8, 2, 1, 2, 8, 1, 2, 1, 30, 1, 2, 2, 12, 9, 10, 70, 8, 2, 46, 2, 11, 27, 72, 8, 83, 13, 73,
  263, 9, 1, 45, 1, 14, 10, 29, 3, 32, 2, 22, 1, 14, 73, 7, 1, 2, 1, 44, 3, 1, 1, 2, 1, 9, 8, 10,
  6, 6, 1, 2, 1, 37, 1, 2, 1, 6, 7, 10, 310, 25, 183, 1, 15, 50, 13, 923, 102, 111, 1, 5, 11, 196,
  2636, 99, 13, 1071, 4049, 583, 8633, 569, 7, 31, 1, 10, 4, 81, 1, 10, 6, 30, 2, 6, 10, 70, 10,
  10, 1, 7, 1, 21, 5, 19, 688, 91, 101, 75, 4, 57, 7, 17, 64, 5, 11, 2, 14, 6136, 8, 1238, 42, 9,
  8935, 4, 1, 7, 1, 2, 1, 291, 45, 3, 17, 4, 8, 396, 2308, 107, 5, 13, 3, 9, 7, 10, 2, 4, 4704, 46,
  2, 23, 9, 116, 60, 246, 10, 39, 2, 74, 8, 112, 21, 70, 154, 20, 12, 87, 9, 25, 135, 85, 1, 71, 1,
  2, 2, 1, 2, 2, 2, 4, 1, 12, 1, 1, 1, 7, 1, 65, 1, 4, 2, 8, 1, 7, 1, 28, 1, 4, 1, 5, 1, 1, 3, 7,
  1, 340, 2, 292, 2, 702, 15, 5, 1, 15, 1104, 31, 225, 7, 1, 17, 2, 7, 1, 2, 1, 5, 213, 45, 3, 14,
  2, 10, 4, 2, 320, 31, 17, 58, 5, 1, 1248, 7, 1, 4, 1, 2, 1, 15, 1, 197, 2, 16, 41, 76, 4, 10, 4,
  2, 785, 68, 76, 61, 194, 4, 1, 27, 1, 2, 1, 1, 2, 1, 1, 10, 1, 4, 1, 1, 1, 1, 6, 1, 4, 1, 1, 1,
  1, 1, 1, 3, 1, 2, 1, 1, 2, 1, 1, 1, 1, 1, 1, 1, 1, 1, 1, 2, 1, 1, 2, 4, 1, 7, 1, 4, 1, 4, 1, 1,
  1, 10, 1, 17, 5, 3, 1, 5, 1, 17, 52, 2, 270, 44, 4, 100, 12, 15, 2, 15, 1, 15, 1, 37, 10, 174,
  56, 29, 13, 44, 4, 9, 7, 2, 14, 6, 154, 984, 5, 16, 3, 13, 3, 116, 12, 89, 7, 12, 4, 1, 15, 12,
  4, 56, 8, 10, 6, 40, 8, 30, 2, 2, 78, 340, 12, 14, 2, 5, 3, 5, 3, 7, 9, 29, 3, 11, 5, 6, 10, 10,
  6, 8, 8, 7, 9, 147, 1, 55, 37, 10, 1030, 42720, 32, 4153, 7, 222, 2, 5762, 14, 7473, 3103, 542,
  1506, 4939, 716213, 240]

/-- Code points that a quoted text shows as themselves. -/
def isPrintable (code : Nat) : Bool :=
  if code < 128 then 32 ≤ code && code < 127 else Runs.mem printableRuns code

end StylePrune
