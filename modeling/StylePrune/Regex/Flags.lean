import StylePrune.Regex.Syntax

/-!
# Flags

Flags change how a pattern is read and what it matches. They may be set for the whole pattern, and
for a group, which turns some on and others off.
-/

namespace StylePrune.Regex

structure Flags where
  ignoreCase : Bool := false
  multiline : Bool := false
  dotAll : Bool := false
  verbose : Bool := false
  ascii : Bool := false
  /-- Asked for by name; every pattern that does not ask for ASCII reads Unicode. -/
  unicode : Bool := false
  /-- The flag of an old kind of pattern, which changes nothing here. -/
  template : Bool := false
deriving DecidableEq, Repr, Inhabited

namespace Flags

/-- How characters are compared under the flags. -/
def caseRule (flags : Flags) : CaseRule :=
  if !flags.ignoreCase then .exact else if flags.ascii then .ascii else .unicode

def union (a b : Flags) : Flags where
  ignoreCase := a.ignoreCase || b.ignoreCase
  multiline := a.multiline || b.multiline
  dotAll := a.dotAll || b.dotAll
  verbose := a.verbose || b.verbose
  ascii := a.ascii || b.ascii
  unicode := a.unicode || b.unicode
  template := a.template || b.template

/-- The flags within a group that turns some on and others off. -/
def within (flags on off : Flags) : Flags where
  ignoreCase := (flags.ignoreCase || on.ignoreCase) && !off.ignoreCase
  multiline := (flags.multiline || on.multiline) && !off.multiline
  dotAll := (flags.dotAll || on.dotAll) && !off.dotAll
  verbose := (flags.verbose || on.verbose) && !off.verbose
  ascii := on.ascii || (flags.ascii && !on.unicode)
  unicode := flags.unicode
  template := flags.template

/-- Whether a flag that a group can turn on and off is in both. -/
def meets (a b : Flags) : Bool :=
  (a.ignoreCase && b.ignoreCase) || (a.multiline && b.multiline) || (a.dotAll && b.dotAll) ||
    (a.verbose && b.verbose)

/-- The flags with the flag of a letter. -/
def withLetter? (flags : Flags) (c : Char) : Option Flags :=
  match c with
  | 'i' => some { flags with ignoreCase := true }
  | 'm' => some { flags with multiline := true }
  | 's' => some { flags with dotAll := true }
  | 'x' => some { flags with verbose := true }
  | 'a' => some { flags with ascii := true }
  | 'u' => some { flags with unicode := true }
  | 't' => some { flags with template := true }
  | _ => none

/-- Whether a letter names a flag, be it one that no pattern may set. -/
def isLetter (c : Char) : Bool := c = 'L' || (withLetter? {} c).isSome

end Flags

end StylePrune.Regex
