import StylePrune.Regex.Syntax
import StylePrune.Text.Basic
import StylePrune.Text.CharClass
import StylePrune.Text.LetterCase

/-!
# Testing characters

Which characters a test takes. Where case is ignored, a character is tested by its lower case; a set
none of whose members has case is tested as it stands.
-/

namespace StylePrune.Regex

namespace Category

def mem (category : Category) (ascii : Bool) (code : Nat) : Bool :=
  match category with
  | .digit => if ascii then 48 ≤ code && code ≤ 57 else isDecimal code
  | .space => if ascii then (9 ≤ code && code ≤ 13) || code = 32 else isBlankCode code
  | .word => if ascii then code < 128 && isWord code else isWord code

end Category

namespace CaseRule

def lower (case : CaseRule) (code : Nat) : Nat :=
  match case with
  | .exact => code
  | .ascii => asciiLowerCode code
  | .unicode => lowerCode code

/-- The codes that count as `code`. -/
def variants (case : CaseRule) (code : Nat) : List Nat :=
  match case with
  | .exact => [code]
  | .ascii => asciiVariants code
  | .unicode => caseVariants code

/-- Whether two codes have the same lower case. -/
def same (case : CaseRule) (a b : Nat) : Bool := case.lower a = case.lower b

/-- Whether two codes count as one letter; small letters with a common capital do. -/
def alike (case : CaseRule) (a b : Nat) : Bool :=
  match case with
  | .exact | .ascii => case.same a b
  | .unicode => sameIgnoringCase a b

/-- Whether a code between two, both included, has another case. -/
def meets (case : CaseRule) (first last : Nat) : Bool :=
  match case with
  | .exact => false
  | .ascii => (first ≤ 90 && 65 ≤ last) || (first ≤ 122 && 97 ≤ last)
  | .unicode => someHasCase first last

end CaseRule

/-- The last code of the plane that letters with case are looked up in one by one. -/
def basicPlane : Nat := 0xFFFF

namespace SetItem

/-- Whether an item makes its set compare by case: one of its codes has another case, or lies past
the basic plane. -/
def hasCase (case : CaseRule) : SetItem → Bool
  | one code => basicPlane < code || case.meets code code
  | range first last => basicPlane < last || case.meets first last
  | category .. => false

def mem (item : SetItem) (code : Nat) : Bool :=
  match item with
  | one c => code = c
  | range first last => first ≤ code && code ≤ last
  | category c negated ascii => c.mem ascii code != negated

/-- Whether an item has a code that is in lower case already. A code of its own past the basic plane
counts as it is written. A range that goes past it counts as far as it goes for lower case and
capitals alike. -/
def memLower (case : CaseRule) (item : SetItem) (code : Nat) : Bool :=
  match item with
  | one c => if basicPlane < c then code = c else case.alike c code
  | range _ last =>
    item.mem code || (case.variants code).any item.mem ||
      (basicPlane < last && item.mem (capitalCode code))
  | category .. => item.mem code

end SetItem

namespace CharTest

/-- The test for a code. -/
def ofCode (negated : Bool) (code : Nat) (case : CaseRule) : CharTest :=
  .literal negated code (if case.meets code code then case else .exact)

/-- The test for the members of a set, each of which counts once. -/
def ofItems (negated : Bool) (items : List SetItem) (case : CaseRule) : CharTest :=
  let items := items.eraseDups
  .set negated items (if items.any (·.hasCase case) then case else .exact)

/-- The test for the set that a user wrote: a set of one code is that code. -/
def ofSet (negated : Bool) (items : List SetItem) (case : CaseRule) : CharTest :=
  match items.eraseDups with
  | [.one code] => ofCode negated code case
  | items => ofItems negated items case

/-- The items of a test that is no negation. -/
def items? : CharTest → Option (List SetItem)
  | .literal false code _ => some [.one code]
  | .set false items _ => some items
  | _ => none

/-- Whether a run of characters that pass the test is taken in single steps: it compares by a set
of lower-case letters. -/
def isStepwise : CharTest → Bool
  | .literal _ code .unicode => 1 < (siblings (lowerCode code)).length
  | .literal .. | .any _ | .set _ _ .exact => false
  | .set .. => true

/-- Whether a test takes a code. -/
def holds (test : CharTest) (code : Nat) : Bool :=
  match test with
  | .literal negated c case => case.alike c code != negated
  | .set negated items .exact => items.any (·.mem code) != negated
  | .set negated items case => items.any (·.memLower case (case.lower code)) != negated
  | .any dotAll => dotAll || code != 10

end CharTest

end StylePrune.Regex
