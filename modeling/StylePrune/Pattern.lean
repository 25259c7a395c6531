import StylePrune.Json.Shown
import StylePrune.Regex.Matcher
import StylePrune.Regex.Reader

/-!
# Patterns as users write them

An entry is a plain pattern body, or `/body/flags`. A pattern is written back in the second form
with those of the flags `i`, `m` and `s` that it has; two patterns written alike count as one.
-/

namespace StylePrune

open Regex (Pattern PatternError)

/-- Characters that mean something in a pattern. -/
def specialChars : List Char := "()[]{}?*+-|^$\\.&~# \t\n\r\x0b\x0c".toList

/-- A text with every character escaped that means something in a pattern. -/
def escapeRegex (s : String) : String :=
  String.ofList (s.toList.flatMap fun c => if specialChars.contains c then ['\\', c] else [c])

/-- An entry of a pattern list; what is neither text nor pattern is ignored. -/
inductive PatternEntry where
  | text (text : String)
  | pattern (pattern : Pattern)
  | other (value : Json)

namespace PatternEntry

/-- The flag letters that may follow a body; only three of them mean something. -/
def isFlagLetter (c : Char) : Bool := "gimsuy".toList.contains c

/-- The body and flag letters of `/body/flags`. -/
def splitSlashes? (value : List Char) : Option (List Char × List Char) :=
  match value with
  | '/' :: rest =>
    let letters := (rest.reverse.takeWhile (· ≠ '/')).reverse
    let body := rest.take (rest.length - letters.length - 1)
    if letters.length < rest.length && !body.isEmpty && !body.contains '\n' &&
        letters.all isFlagLetter then
      some (body, letters)
    else none
  | _ => none

def flagsOf (letters : List Char) : Regex.Flags where
  ignoreCase := letters.contains 'i'
  multiline := letters.contains 'm'
  dotAll := letters.contains 's'

/-- Reads an entry written as text. -/
def read (text : List Char) : Except PatternError Pattern :=
  match splitSlashes? text with
  | some (body, letters) => Pattern.read (String.ofList body) (flagsOf letters)
  | none => Pattern.read (String.ofList text) {}

end PatternEntry

/-- The patterns of a list. Blank entries and bodies that cannot be read are dropped; the two
refusals that are no matter of syntax are passed on. -/
def readPatterns : List PatternEntry → Except PatternError (List Pattern)
  | [] => .ok []
  | .pattern p :: rest => (readPatterns rest).map (p :: ·)
  | .other _ :: rest => readPatterns rest
  | .text text :: rest =>
    let value := trimChars text.toList
    if value.isEmpty then readPatterns rest
    else
      match PatternEntry.read value with
      | .ok p => (readPatterns rest).map (p :: ·)
      | .error (.malformed ..) => readPatterns rest
      | .error e => .error e

namespace Regex.Pattern

def flagLetters (p : Pattern) : String :=
  (if p.flags.ignoreCase then "i" else "") ++ (if p.flags.multiline then "m" else "") ++
    (if p.flags.dotAll then "s" else "")

/-- The pattern as `/source/flags`. -/
def written (p : Pattern) : String := "/" ++ p.source ++ "/" ++ p.flagLetters

/-- The names of the flags that a message shows. -/
def flagNames (p : Pattern) : List String :=
  [(p.flags.template, "re.TEMPLATE"), (p.flags.ignoreCase, "re.IGNORECASE"),
    (p.flags.multiline, "re.MULTILINE"), (p.flags.dotAll, "re.DOTALL"),
    (p.flags.verbose, "re.VERBOSE"), (p.flags.ascii, "re.ASCII")].filterMap
      fun (isSet, name) => if isSet then some name else none

/-- The pattern within a message: its source in quotes, cut short at two hundred characters, and its
flags. -/
def display (p : Pattern) : String :=
  let source := String.ofList ((Quoted.string p.source).toList.take 200)
  "re.compile(" ++ Json.joinWith ", "
    (source :: if p.flagNames.isEmpty then [] else [Json.joinWith "|" p.flagNames]) ++ ")"

/-- The first match in a text. -/
def find? (p : Pattern) (codes : List Nat) : Option Match :=
  (searchFrom? p.body false [] 0 codes.length codes).map (·.1)

/-- All matches in a text, from left to right. -/
def allMatches (p : Pattern) (codes : List Nat) : List Match :=
  allFrom p.body (2 * codes.length + 2) false (.start codes)

/-- All matches in a text, if the groups of each are in order. -/
def checkedMatches (p : Pattern) (codes : List Nat) : Except PatternError (List Match) :=
  let found := p.allMatches codes
  if found.all (·.ordered) then .ok found else .error .disorderedGroups

end Regex.Pattern

/-- The first match of the first of some patterns that matches in a text. -/
def firstMatch? (codes : List Nat) (patterns : List Pattern) : Option Regex.Match :=
  patterns.findSome? fun p => p.find? codes

/-- Whether one of some patterns matches in a text. -/
def matchesAny (codes : List Nat) (patterns : List Pattern) : Bool :=
  (firstMatch? codes patterns).isSome

/-- Whether one of some patterns matches in a text, if the groups of the match are in order. -/
def checkedMatch (codes : List Nat) (patterns : List Pattern) : Except PatternError Bool :=
  match firstMatch? codes patterns with
  | none => .ok false
  | some m => if m.ordered then .ok true else .error .disorderedGroups

/-- The patterns whose written form does not occur in `seen` or earlier in the list. -/
def dedupeFrom (seen : List String) : List Pattern → List Pattern
  | [] => []
  | p :: rest =>
    if seen.contains p.written then dedupeFrom seen rest
    else p :: dedupeFrom (p.written :: seen) rest

/-- The first pattern of each written form. -/
def dedupePatterns (patterns : List Pattern) : List Pattern := dedupeFrom [] patterns

end StylePrune
