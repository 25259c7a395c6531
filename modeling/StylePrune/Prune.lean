import StylePrune.Css.Generate
import StylePrune.Css.Selector
import StylePrune.Css.Tree
import StylePrune.Css.Walk
import StylePrune.Scan

/-!
# Pruning a style sheet

A rule stays if it declares custom properties of the root, if one of its selectors names no class,
or if one names a class that is used. Block at-rules with nothing left in them go too, but for the
few whose emptiness means something. A text that is no style sheet is given back as it is.
-/

namespace StylePrune

open Regex (Pattern PatternError)
open Css (Sheet Node Rule Token)

/-- What decides whether a class counts as used. -/
structure Usage where
  names : List String
  patterns : List Pattern
deriving Inhabited

namespace Usage

/-- A class is used if it is one of the names or a pattern matches it. -/
def uses (u : Usage) (name : Text) : Bool :=
  (u.names.any fun n => Text.ofString n = name) || matchesAny name.codes u.patterns

/-- Why it cannot be said whether a class is used. -/
def fault? (u : Usage) (name : Text) : Option PatternError :=
  if u.names.any fun n => Text.ofString n = name then none
  else
    match checkedMatch name.codes u.patterns with
    | .ok _ => none
    | .error e => some e

end Usage

namespace Prune

/-- At-rules that stay when their block is empty. -/
def preservedAtRules : List String :=
  ["charset", "import", "font-face", "keyframes", "namespace", "page", "property", "counter-style",
    "font-feature-values", "font-palette-values", "layer"]

def isPreserved (n : Node) : Bool := preservedAtRules.any fun name => n.name = Text.ofString name

/-- Whether one text stands within another. -/
def occursIn (part : Text) : Text → Bool
  | [] => part.isEmpty
  | p :: rest => part.isPrefixOf (p :: rest) || occursIn part rest

/-- A rule about `:root` that declares custom properties. -/
def declaresRootProperties (r : Rule) : Bool :=
  occursIn (Text.ofString ":root") r.selectorText && Css.declaresCustomProperty r.content

/-- A selector is used if it names no class, or a used one. -/
def selectorUsed (u : Usage) (selector : List Token) : Bool :=
  let names := Css.classNames selector
  names.isEmpty || names.any u.uses

/-- Whether a rule stays. -/
def keeps (u : Usage) (r : Rule) : Bool :=
  declaresRootProperties r || r.selectors.any (selectorUsed u)

def isUnused (u : Usage) : Node → Bool
  | .rule r => !keeps u r
  | _ => false

/-- Block at-rules that go because nothing is left in them. -/
def isEmptied (n : Node) : Bool := !isPreserved n && n.isEmptyBlock

/-- The rules of a tree, at every depth. -/
def rules (sheet : Sheet) : List Rule :=
  (Sheet.walk sheet Node.isRule false).filterMap fun (_, n) =>
    match n with
    | .rule r => some r
    | _ => none

def removeRules (u : Usage) (sheet : Sheet) : Sheet := Css.removeWhere (isUnused u) false sheet

def removeEmptied (sheet : Sheet) : Sheet := Css.removeWhere isEmptied false sheet

/-- The tree with unused rules and emptied at-rules taken out. -/
def sheet (u : Usage) (s : Sheet) : Sheet := removeEmptied (removeRules u s)

end Prune

structure PruneStats where
  totalRules : Nat := 0
  removedRules : Nat := 0
  keptRules : Nat := 0
  sizeBefore : Nat := 0
  sizeAfter : Nat := 0
deriving DecidableEq, Repr, Inhabited

structure PruneOptions where
  safelist : List String := []
  safelistPatterns : List PatternEntry := []
  minify : Bool := false
deriving Inhabited

/-- A pruned style sheet, and its classes in order, apart as removed and kept. `parsed` is false for
a text that was given back as it is. -/
structure PruneResult where
  css : String
  stats : PruneStats
  removedClasses : List Text
  keptClasses : List Text
  parsed : Bool
deriving Inhabited

/-- Why a style sheet cannot be pruned. -/
inductive PruneError where
  /-- The output holds a surrogate. -/
  | unencodable (fault : Text.Unencodable)
  | integerTooLong (digits : Nat)
  | pattern (error : PatternError)
deriving DecidableEq, Repr

def PruneError.message : PruneError → String
  | unencodable fault =>
    let digits := String.ofList (Nat.toDigits 16 fault.code)
    if fault.run = 1 then
      s!"'utf-8' codec can't encode character '\\u{digits}' in position {fault.first}: " ++
        "surrogates not allowed"
    else
      let last := fault.first + fault.run - 1
      s!"'utf-8' codec can't encode characters in position {fault.first}-{last}: " ++
        "surrogates not allowed"
  | integerTooLong digits => (Css.ReadError.integerTooLong digits).message
  | pattern e => e.message ""

/-- The class names that the selectors of a style sheet name, without the empty name. -/
def classNamesOf (s : Sheet) : List Text :=
  Sorted.ofList Text.lt (((Prune.rules s).flatMap Rule.classNames).filter fun n => !n.isEmpty)

/-- The class names of a text; none if it is no style sheet. -/
def collectClassNames (css : String) : Except PruneError (List Text) :=
  match Css.read css.toList with
  | .ok s => .ok (classNamesOf s)
  | .error (.broken _) => .ok []
  | .error (.integerTooLong digits) => .error (.integerTooLong digits)

/-- The classes that a scan and options make used. -/
def usageOf (scan : Scan) (options : PruneOptions) : Except PatternError Usage :=
  (readPatterns options.safelistPatterns).map fun safelist =>
    ⟨scan.classes ++ options.safelist.flatMap fun entry => tokenizeClassList entry.toList,
      scan.dynamicPatterns ++ safelist⟩

/-- Prunes a style sheet that was read. -/
def pruneSheet (u : Usage) (minify : Bool) (sizeBefore : Nat) (s : Sheet) :
    Except PruneError PruneResult :=
  let pruned := Prune.sheet u s
  let names := classNamesOf s
  let text := Css.generateAll minify (if minify then Sheet.stripComments pruned else pruned)
  match names.findSome? u.fault?, Text.toString? text with
  | some e, _ => .error (.pattern e)
  | none, .error fault => .error (.unencodable fault)
  | none, .ok css =>
    let total := (Prune.rules s).length
    let removed := ((Prune.rules s).filter fun r => !Prune.keeps u r).length
    .ok
      { css
        stats := ⟨total, removed, total - removed, sizeBefore, css.utf8ByteSize⟩
        removedClasses := names.filter fun n => !u.uses n
        keptClasses := names.filter u.uses
        parsed := true }

/-- Removes the rules of a style sheet that no used class needs. -/
def pruneCss (css : String) (scan : Scan) (options : PruneOptions) :
    Except PruneError PruneResult :=
  match usageOf scan options with
  | .error e => .error (.pattern e)
  | .ok u =>
    match Css.read css.toList with
    | .error (.integerTooLong digits) => .error (.integerTooLong digits)
    | .error (.broken _) =>
      .ok ⟨css, ⟨0, 0, 0, css.utf8ByteSize, css.utf8ByteSize⟩, [], [], false⟩
    | .ok s => pruneSheet u options.minify css.utf8ByteSize s

end StylePrune
