import StylePrune.Names
import StylePrune.Pattern
import StylePrune.Text.Words

/-!
# What scanning content finds

A scan holds the classes found, patterns for classes that are put together when the program runs,
the places where each class was found, and warnings. Scans of several files are merged into one.
-/

namespace StylePrune

open Regex (Pattern)

/-- Origins of classes, in the order in which the classes were first found. -/
abbrev Origins := List (String × List String)

structure Scan where
  classes : List String := []
  dynamicPatterns : List Pattern := []
  origins : Origins := []
  warnings : List String := []
deriving Inhabited

namespace Origins

/-- Adds origins to a class. -/
def add (origins : Origins) (name : String) (places : List String) : Origins :=
  match origins with
  | [] => [(name, Sorted.strings places)]
  | (other, known) :: rest =>
    if other = name then (other, Sorted.unionStrings known places) :: rest
    else (other, known) :: add rest name places

end Origins

namespace Scan

def addClass (scan : Scan) (name : String) (origin : Option String) : Scan :=
  { scan with
    classes := Sorted.insertString name scan.classes
    origins :=
      match origin with
      | none => scan.origins
      | some place => Origins.add scan.origins name [place] }

/-- What either scan found. -/
def merge (a b : Scan) : Scan where
  classes := Sorted.unionStrings a.classes b.classes
  dynamicPatterns := a.dynamicPatterns ++ b.dynamicPatterns
  origins := b.origins.foldl (fun origins entry => Origins.add origins entry.1 entry.2) a.origins
  warnings := a.warnings ++ b.warnings

end Scan

/-- The scan of a whole project. -/
structure ProjectScan where
  scan : Scan := {}
  filesScanned : Nat := 0
deriving Inhabited

end StylePrune
