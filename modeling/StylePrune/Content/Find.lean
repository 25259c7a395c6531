import StylePrune.Text.CharClass
import StylePrune.Text.Words

/-!
# Finding things in a text

A recogniser looks at one place of a text, knowing the character before it, and says what starts
there. `findAll` applies it at every place from left to right and goes on behind each find, so finds
do not overlap.
-/

namespace StylePrune.Content

/-- Something found at a place: its value, where the value starts, and how much of the text the find
takes up, both counted from that place. -/
structure Find where
  value : List Char
  offset : Nat
  length : Nat
deriving DecidableEq, Repr

/-- What starts at a place; the first argument is the character before it. -/
abbrev Recogniser := Option Char → List Char → Option Find

/-- Finds from `index` on, each with its index; the first `skip` places belong to an earlier find.
-/
def findAllFrom (recognise : Recogniser) (skip : Nat) (before : Option Char) (index : Nat) :
    List Char → List (Nat × Find)
  | [] => []
  | c :: rest =>
    match skip with
    | skip + 1 => findAllFrom recognise skip (some c) (index + 1) rest
    | 0 =>
      match recognise before (c :: rest) with
      | some found =>
        (index, found) :: findAllFrom recognise (found.length - 1) (some c) (index + 1) rest
      | none => findAllFrom recognise 0 (some c) (index + 1) rest

/-- All finds of a text. -/
def findAll (recognise : Recogniser) (text : List Char) : List (Nat × Find) :=
  findAllFrom recognise 0 none 0 text

/-- The values of all finds. -/
def valuesOf (recognise : Recogniser) (text : List Char) : List (List Char) :=
  (findAll recognise text).map fun (_, found) => found.value

/-- A find in `text`, whose value starts where `start` does and which ends where `rest` starts. -/
def Find.between (text value start rest : List Char) : Find :=
  ⟨value, text.length - start.length, text.length - rest.length⟩

def dropBlanks (cs : List Char) : List Char := cs.dropWhile isBlank

/-- The text after a word it starts with. -/
def dropWord? (word : List Char) (cs : List Char) : Option (List Char) :=
  if word.isPrefixOf cs then some (cs.drop word.length) else none

/-- The text after the first of some words it starts with. -/
def dropOneOf? (words : List (List Char)) (cs : List Char) : Option (List Char) :=
  words.findSome? fun word => dropWord? word cs

/-- The text after an equals sign and the blanks around it. -/
def dropEquals? (cs : List Char) : Option (List Char) :=
  match dropBlanks cs with
  | '=' :: rest => some (dropBlanks rest)
  | _ => none

def isQuoteMark (c : Char) : Bool := c = '"' || c = '\x27'

/-- Whether no word character stands before the place. -/
def atWordStart (before : Option Char) : Bool :=
  match before with
  | some c => !isWord c.toNat
  | none => true

/-- The text before a character and the text behind it. -/
def cutAt? (c : Char) (cs : List Char) : Option (List Char × List Char) :=
  match cs.dropWhile (· ≠ c) with
  | _ :: rest => some (cs.takeWhile (· ≠ c), rest)
  | [] => none

end StylePrune.Content
