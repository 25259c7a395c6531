import StylePrune.Text.CharName.Alphabets
import StylePrune.Text.CharName.Basic
import StylePrune.Text.CharName.Forms
import StylePrune.Text.CharName.Historic
import StylePrune.Text.CharName.Notations
import StylePrune.Text.CharName.Pictographs
import StylePrune.Text.CharName.Syllabics
import StylePrune.Text.CharName.Symbols

/-!
# Characters by name

The character of a name. Syllables of Hangul and unified ideographs are named by rule; all other
names stand in tables.
-/

namespace StylePrune.Hangul

/-!
## Names of Hangul syllables

A Hangul syllable is named by the sounds it is put together from: a lead, a vowel and a tail, of
which lead and tail may be silent. Its code point follows from the three by counting.
-/

def leads : List String :=
  ["G", "GG", "N", "D", "DD", "R", "M", "B", "BB", "S", "SS", "", "J", "JJ", "C", "K", "T", "P",
    "H"]

def vowels : List String :=
  ["A", "AE", "YA", "YAE", "EO", "E", "YEO", "YE", "O", "WA", "WAE", "OE", "YO", "U", "WEO", "WE",
    "WI", "YU", "EU", "YI", "I"]

def tails : List String :=
  ["", "G", "GG", "GS", "N", "NJ", "NH", "D", "L", "LG", "LM", "LB", "LS", "LT", "LP", "LH", "M",
    "B", "BS", "S", "SS", "NG", "J", "C", "K", "T", "P", "H"]

/-- The longest of the sounds that a text starts with, as its number and the text behind it. -/
def sound? (text : List Char) (number : Nat) : List String → Option (Nat × List Char)
  | [] => none
  | name :: rest =>
    let later := sound? text (number + 1) rest
    if name.toList.isPrefixOf text then
      match later with
      | some (n, left) =>
        if left.length + name.length < text.length then some (n, left)
        else some (number, text.drop name.length)
      | none => some (number, text.drop name.length)
    else later

/-- The code point of the syllable of which `text` names the sounds. -/
def syllable? (text : List Char) : Option Nat := do
  let (lead, text) ← sound? text 0 leads
  let (vowel, text) ← sound? text 0 vowels
  let (tail, text) ← sound? text 0 tails
  if text.isEmpty then some (0xAC00 + (lead * vowels.length + vowel) * tails.length + tail)
  else none

end StylePrune.Hangul

namespace StylePrune

/-!
## Characters by name

The character of a name. Syllables of Hangul and unified ideographs are named by rule, and their
names are written in capitals; the names of a few more ideographs end in their code point. All other
names stand in tables, and their case does not matter.
-/

namespace CharName

/-- The text behind `start`, if `text` starts so. -/
def behind? (start : String) (text : List Char) : Option (List Char) :=
  if start.toList.isPrefixOf text then some (text.drop start.length) else none

/-- The code points of unified ideographs, as first and last ones of their blocks. -/
def ideographs : List (Nat × Nat) :=
  [(0x3400, 0x4DBF), (0x4E00, 0x9FFF), (0x20000, 0x2A6DF), (0x2A700, 0x2B738), (0x2B740, 0x2B81D),
    (0x2B820, 0x2CEA1), (0x2CEB0, 0x2EBE0), (0x30000, 0x3134A)]

/-- Names that end in their code point: how they start, and the code points that have them. -/
def numbered : List (String × List (Nat × Nat)) :=
  [("CJK COMPATIBILITY IDEOGRAPH-", [(0xF900, 0xFA6D), (0xFA70, 0xFAD9), (0x2F800, 0x2FA1D)]),
    ("KHITAN SMALL SCRIPT CHARACTER-", [(0x18B00, 0x18CD5)]),
    ("NUSHU CHARACTER-", [(0x1B170, 0x1B2FB)])]

/-- The value of hexadecimal digits in capitals. -/
def hexValue? (digits : List Char) : Option Nat :=
  digits.foldl (fun value c => do
    let value ← value
    if '0' ≤ c ∧ c ≤ '9' then some (16 * value + (c.toNat - 48))
    else if 'A' ≤ c ∧ c ≤ 'F' then some (16 * value + (c.toNat - 55))
    else none) (some 0)

def within (blocks : List (Nat × Nat)) (code : Nat) : Bool :=
  blocks.any fun (first, last) => first ≤ code && code ≤ last

/-- The unified ideograph whose code point is written with four or five digits. -/
def ideograph? (digits : List Char) : Option Nat :=
  if digits.length = 4 ∨ digits.length = 5 then (hexValue? digits).filter (within ideographs)
  else none

/-- The code point of a name that ends in it, written with as many digits as it needs but no fewer
than four. -/
def numbered? (name : List Char) : Option Nat :=
  numbered.findSome? fun (start, blocks) => do
    let digits ← behind? start name
    let code ← (hexValue? digits).filter (within blocks)
    if digits.length = if code < 0x10000 then 4 else 5 then some code else none

/-- All names that stand in tables. -/
def tables : List (List NameRun) :=
  [alphabets, abugidas, syllabics, symbols, arrows, strokes, forms, historic, hieroglyphs,
    notations, signs, pictographs, aliases]

/-- The code point of a name in capitals that stands in a table. -/
def listed? (name : String) : Option Nat :=
  let wanted := name.splitOn " "
  tables.findSome? fun runs => runs.findSome? fun r => r.find? wanted

end CharName

/-- The code point of the character that has a name. -/
def codeOfName? (name : String) : Option Nat :=
  match CharName.behind? "HANGUL SYLLABLE " name.toList,
    CharName.behind? "CJK UNIFIED IDEOGRAPH-" name.toList with
  | some sounds, _ => Hangul.syllable? sounds
  | none, some digits => CharName.ideograph? digits
  | none, none =>
    let capitals := name.map Char.toUpper
    match CharName.numbered? capitals.toList with
    | some code => some code
    | none => CharName.listed? capitals

end StylePrune
