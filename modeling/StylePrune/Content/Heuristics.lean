import StylePrune.Content.Expression
import StylePrune.Content.Position
import StylePrune.Scan

/-!
# Scanning content

Content is never run: classes are found where a recogniser knows that classes are written. A class
is found at the line of the class list, name, expression or argument list that yields it.
-/

namespace StylePrune.Content

/-- Where a scan notes classes: the label of the text, if origins are kept, and its lines. -/
structure Source where
  label : Option String
  lines : LineTable

def Source.origin (s : Source) (index : Nat) : Option String :=
  s.label.map fun label => s!"{label}:{s.lines.line index}"

/-- Class tokens with the index at which they stand, and patterns; what recognisers yield. -/
structure Yield where
  tokens : List (String × Nat)
  patterns : List Regex.Pattern

def yieldExpression (constants : Constants) (collectDynamic : Bool) (expression : List Char)
    (index : Nat) : Yield :=
  ⟨(expressionTokens expression constants).map (·, index),
    if collectDynamic then deriveDynamicPatterns expression else []⟩

def listYields (content : List Char) : List Yield :=
  classLists.flatMap fun r => (findAll r content).map fun (index, found) =>
    ⟨(tokenizeClassList found.value).map (·, index + found.offset), []⟩

def nameYields (content : List Char) : List Yield :=
  classNames.flatMap fun r => (findAll r content).map fun (index, found) =>
    ⟨[(String.ofList found.value, index + found.offset)], []⟩

def expressionYields (constants : Constants) (collectDynamic : Bool) (content : List Char) :
    List Yield :=
  expressions.flatMap fun r => (findAll r content).map fun (index, found) =>
    yieldExpression constants collectDynamic found.value (index + found.offset)

def bracedYields (constants : Constants) (collectDynamic : Bool) (content : List Char) :
    List Yield :=
  bracedAttributes.flatMap fun r => (findAll r content).filterMap fun (index, found) =>
    (readBraced found.value).map fun expression =>
      yieldExpression constants collectDynamic expression (index + found.offset)

/-- The arguments that count. -/
def chosen (position : Option Nat) (args : List (List Char)) : List (List Char) :=
  match position with
  | none => args
  | some i => (args.drop i).take 1

def callYields (constants : Constants) (collectDynamic : Bool) (content : List Char) : List Yield :=
  calls.flatMap fun (r, position) => (findAll r content).flatMap fun (index, found) =>
    (chosen position (splitArguments found.value)).map fun arg =>
      yieldExpression constants collectDynamic arg (index + found.offset)

/-- All that the recognisers yield in a text. -/
def yields (collectDynamic : Bool) (content : List Char) : List Yield :=
  let constants := collectConstants content
  listYields content ++ nameYields content ++ expressionYields constants collectDynamic content ++
    bracedYields constants collectDynamic content ++ callYields constants collectDynamic content

def addYield (source : Source) (scan : Scan) (y : Yield) : Scan :=
  let scan :=
    y.tokens.foldl (fun scan (token, index) => scan.addClass token (source.origin index)) scan
  { scan with dynamicPatterns := scan.dynamicPatterns ++ y.patterns }

/-- Scans a text. Origins are kept only under a label that is not empty. -/
def scan (collectDynamic : Bool) (label : Option String) (content : List Char) : Scan :=
  let source : Source := ⟨label.filter (· ≠ ""), LineTable.ofChars content⟩
  let found := (yields collectDynamic content).foldl (addYield source) {}
  { found with dynamicPatterns := dedupePatterns found.dynamicPatterns }

end StylePrune.Content
