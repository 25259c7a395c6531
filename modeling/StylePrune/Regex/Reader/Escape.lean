import StylePrune.Regex.CharTest
import StylePrune.Regex.Reader.Basic
import StylePrune.Text.CharName
import StylePrune.Text.Quoted

/-!
# Escapes and sets

What stands behind a backslash, outside sets and within them, and the members of a set.
-/

namespace StylePrune.Regex.Reader

/-- What an escape stands for. -/
inductive Escape where
  | code (code : Nat)
  | category (category : Category) (negated : Bool)
  | anchor (anchor : Anchor)
  | group (index : Nat)

/-- Escapes of single characters. -/
def controlEscape? : Char → Option Nat
  | 'a' => some 7
  | 'b' => some 8
  | 'f' => some 12
  | 'n' => some 10
  | 'r' => some 13
  | 't' => some 9
  | 'v' => some 11
  | '\\' => some 92
  | _ => none

def categoryEscape? : Char → Option (Category × Bool)
  | 'd' => some (.digit, false)
  | 'D' => some (.digit, true)
  | 's' => some (.space, false)
  | 'S' => some (.space, true)
  | 'w' => some (.word, false)
  | 'W' => some (.word, true)
  | _ => none

def badEscape {α : Type} (text : List Char) : Read α :=
  fail s!"bad escape {String.ofList text}" text.length

/-- An escape of exactly `width` hexadecimal digits after the letter `c`. -/
def hexEscape (c : Char) (width : Nat) : Read Escape := do
  let digits ← takeWhile isHex width
  let text := '\\' :: c :: digits
  if digits.length ≠ width then
    fail s!"incomplete escape {String.ofList text}" text.length
  let code := number 16 digits
  if code > 0x10FFFF then badEscape text
  return .code code

/-- An escape by the name of a character. -/
def namedEscape : Read Escape := do
  if !(← accept '\x7b') then fail "missing \x7b" 0
  let name ← takeUntil '\x7d' "character name" (← leftLength) []
  match codeOfName? name with
  | some code => return .code code
  | none => fail s!"undefined character name {Quoted.string name}" (name.length + 4)

def octalTooLarge {α : Type} (text : List Char) : Read α :=
  fail s!"octal escape value {String.ofList text} outside of range 0-0o377" text.length

/-- The escapes that mean the same inside and outside a set. -/
def commonEscape (c : Char) : Read Escape := do
  if c = 'x' then hexEscape c 2
  else if c = 'u' then hexEscape c 4
  else if c = 'U' then hexEscape c 8
  else if c = 'N' then namedEscape
  else if isAsciiLetter c || isDigit c then badEscape ['\\', c]
  else return .code c.toNat

def setEscape (c : Char) : Read Escape := do
  match controlEscape? c, categoryEscape? c with
  | some code, _ => return .code code
  | none, some (category, negated) => return .category category negated
  | none, none =>
    if isOctal c then
      let digits := c :: (← takeWhile isOctal 2)
      let code := number 8 digits
      if code > 0xFF then octalTooLarge ('\\' :: digits)
      return .code code
    else commonEscape c

/-- Refuses a group that the place may not refer to. -/
def checkLookbehind (index : Nat) : Read Unit := do
  let s ← get
  match s.lookbehindGroups with
  | none => pure ()
  | some groups =>
    if ((s.widths[index]?).getD none).isNone then fail "cannot refer to an open group" 0
    if index ≥ groups then
      fail "cannot refer to group defined in the same lookbehind subpattern" 0

/-- A reference by number, or an escape of three octal digits. -/
def numericEscape (c : Char) : Read Escape := do
  let mut text := [c]
  if ← nextIs isDigit then
    text := text ++ (← takeWhile isDigit 1)
    if text.all isOctal && (← nextIs isOctal) then
      text := text ++ (← takeWhile isOctal 1)
      let code := number 8 text
      if code > 0xFF then octalTooLarge ('\\' :: text)
      return .code code
  let index := number 10 text
  let s ← get
  if index < s.widths.length then
    if ((s.widths[index]?).getD none).isNone then
      fail "cannot refer to an open group" (text.length + 1)
    checkLookbehind index
    return .group index
  else fail s!"invalid group reference {index}" text.length

def escape (flags : Flags) (c : Char) : Read Escape := do
  if c = 'A' then return .anchor .textStart
  else if c = 'Z' then return .anchor .textEnd
  else if c = 'b' then return .anchor (.wordBoundary false flags.ascii)
  else if c = 'B' then return .anchor (.wordBoundary true flags.ascii)
  else
    match categoryEscape? c, controlEscape? c with
    | some (category, negated), _ => return .category category negated
    | none, some code => return .code code
    | none, none =>
      if c = '0' then
        let digits ← takeWhile isOctal 2
        return .code (number 8 digits)
      else if isDigit c then numericEscape c
      else commonEscape c

def literal (flags : Flags) (code : Nat) : Node := .one (.ofCode false code flags.caseRule)

def Escape.toNode (flags : Flags) : Escape → Node
  | .code n => literal flags n
  | .category c negated => .one (.ofItems false [.category c negated flags.ascii] flags.caseRule)
  | .anchor a => .anchor a
  | .group index => .backreference index flags.caseRule

def Escape.toItem (flags : Flags) : Escape → SetItem
  | .code n => .one n
  | .category c negated => .category c negated flags.ascii
  | _ => .one 0

/-- The escape or character that a token of a set stands for. -/
def setMember (t : Token) : Read Escape :=
  match t with
  | .plain c => return .code c.toNat
  | .escape c => setEscape c

/-- The members of a set after its opening bracket at `start`; those read so far are given last one
first. -/
def setItems (flags : Flags) (start : Nat) : Nat → List SetItem → Read (List SetItem)
  | 0, _ => fail "unterminated character set" 0
  | fuel + 1, items => do
    match ← take with
    | none => throw (.malformed "unterminated character set" (some start))
    | some t =>
      if t = .plain ']' && !items.isEmpty then return items.reverse
      let low ← setMember t
      if ← accept '-' then
        match ← take with
        | none => throw (.malformed "unterminated character set" (some start))
        | some u =>
          if u = .plain ']' then return (.one 45 :: low.toItem flags :: items).reverse
          let high ← setMember u
          let bad : Read (List SetItem) :=
            fail s!"bad character range {String.ofList t.chars}-{String.ofList u.chars}"
              (t.length + 1 + u.length)
          match low, high with
          | .code first, .code last =>
            if last < first then bad
            else setItems flags start fuel (.range first last :: items)
          | _, _ => bad
      else setItems flags start fuel (low.toItem flags :: items)

end StylePrune.Regex.Reader
