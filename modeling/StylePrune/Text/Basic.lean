/-!
# Texts and their parts

How a text is cut into parts, where a part stands in it, and which characters are blank.
-/

namespace StylePrune

/-!
## Parts between separators

A text is cut at every separator; between two separators, and at both ends, a part may be empty.
Joining the parts with the separator gives the text back.
-/

/-- The parts of a text between the characters `separator`. -/
def splitOn (separator : Char) : List Char → List (List Char)
  | [] => [[]]
  | c :: rest =>
    if c = separator then [] :: splitOn separator rest
    else
      match splitOn separator rest with
      | part :: more => (c :: part) :: more
      | [] => [[c]]

/-- The parts of a string between the characters `separator`. -/
def splitString (separator : Char) (s : String) : List String :=
  (splitOn separator s.toList).map String.ofList

/-!
## Places in a text

Readers hold the text that is left. Where they stand is counted from the whole text and what is left
of it.
-/

/-- A place in a text: the offset of a character, and its line and column, counted from one. -/
structure TextPlace where
  offset : Nat
  line : Nat
  column : Nat
deriving DecidableEq, Repr

/-- The place at which `left` is what is left of `whole`. -/
def TextPlace.of (whole left : List Char) : TextPlace :=
  let offset := whole.length - left.length
  let before := whole.take offset
  ⟨offset, before.count '\n' + 1, (before.reverse.takeWhile (· ≠ '\n')).length + 1⟩

/-!
## Blank characters

The white space of running text: the ASCII blanks, the four ASCII separators, the next-line control
and the space separators of Unicode. `trim` and `splitBlank` work on characters with it.
-/

def isBlankCode (code : Nat) : Bool :=
  (9 ≤ code && code ≤ 13) || (28 ≤ code && code ≤ 32) ||
    code = 0x85 || code = 0xA0 || code = 0x1680 ||
    (0x2000 ≤ code && code ≤ 0x200A) || code = 0x2028 || code = 0x2029 || code = 0x202F ||
    code = 0x205F || code = 0x3000

def isBlank (c : Char) : Bool := isBlankCode c.toNat

/-- A list without its last members that satisfy `p`. -/
def dropWhileEnd {α : Type} (p : α → Bool) (xs : List α) : List α :=
  (xs.reverse.dropWhile p).reverse

/-- Characters without the blanks at both ends. -/
def trimChars (cs : List Char) : List Char := dropWhileEnd isBlank (cs.dropWhile isBlank)

/-- A string without the blanks at both ends. -/
def trim (s : String) : String := String.ofList (trimChars s.toList)

end StylePrune
