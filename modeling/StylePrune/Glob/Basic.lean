import StylePrune.Text.Basic
import StylePrune.Text.Words

/-!
# Globs

Patterns of paths: lists of them in one text, their brace groups, and what they match.
-/

namespace StylePrune.Glob

/-!
## Lists of globs in one text

A text may hold several globs apart by commas. A comma within a brace group belongs to the group.
-/

/-- The parts between the commas at depth zero; `depth` braces are open, and the part read so far is
given last character first. -/
def partsFrom (depth : Nat) (current : List Char) : List Char → List (List Char)
  | [] => [current.reverse]
  | c :: rest =>
    if c = ',' && depth = 0 then current.reverse :: partsFrom 0 [] rest
    else
      let depth := if c = '\x7b' then depth + 1 else if c = '\x7d' then depth - 1 else depth
      partsFrom depth (c :: current) rest

/-- The globs of a text, without the blanks around them and without empty ones. -/
def splitList (value : String) : List String :=
  (((partsFrom 0 [] value.toList).map trimChars).filter fun part => !part.isEmpty).map String.ofList

/-!
## Brace groups

A group is a list of alternatives between braces, apart by commas. Expanding a pattern takes its
leftmost innermost group and puts each alternative in its place, until no group is left. Braces that
do not close, and empty ones, are text.
-/

def isBrace (c : Char) : Bool := c = '\x7b' || c = '\x7d'

/-- The text before, within and after the first group that holds no other. -/
def group? : List Char → Option (List Char × List Char × List Char)
  | [] => none
  | c :: rest =>
    let body := rest.takeWhile fun d => !isBrace d
    let here :=
      if c = '\x7b' && !body.isEmpty then
        match rest.drop body.length with
        | '\x7d' :: after => some ([], body, after)
        | _ => none
      else none
    here.or ((group? rest).map fun (before, body, after) => (c :: before, body, after))

/-- All expansions of a pattern with at most `fuel` groups, repeated ones included. -/
def expandFrom : Nat → List Char → List (List Char)
  | 0, pattern => [pattern]
  | fuel + 1, pattern =>
    match group? pattern with
    | none => [pattern]
    | some (before, body, after) =>
      (splitOn ',' body).flatMap fun part => expandFrom fuel (before ++ trimChars part ++ after)

/-- The expansions of a pattern, each once. Each step uses up an opening brace. -/
def expandBraces (pattern : String) : List String :=
  ((expandFrom (pattern.toList.count '\x7b') pattern.toList).map String.ofList).eraseDups

/-!
## Globs

In a glob one asterisk stands for any characters of one name, two for any characters, two with a
slash for any number of directories, and a question mark for one character of a name. A glob matches
a whole path, or all of it but one line end at its end; the stretches that cross names hold no line
end.
-/

inductive Piece where
  | char (c : Char)
  /-- One character of a name. -/
  | one
  /-- Any characters of one name. -/
  | within
  /-- Any characters. -/
  | anything
  /-- Nothing, or any characters up to a slash. -/
  | directories
deriving DecidableEq, Repr

/-- The pieces of a glob. -/
def pieces : List Char → List Piece
  | '*' :: '*' :: '/' :: rest => .directories :: pieces rest
  | '*' :: '*' :: rest => .anything :: pieces rest
  | '*' :: rest => .within :: pieces rest
  | '?' :: rest => .one :: pieces rest
  | c :: rest => .char c :: pieces rest
  | [] => []

/-- Whether `goal` holds of what is left after some of the first characters, all of which `skips`
allows. -/
def afterSome (skips : Char → Bool) (goal : List Char → Bool) : List Char → Bool
  | [] => goal []
  | c :: rest => goal (c :: rest) || (skips c && afterSome skips goal rest)

/-- Whether `goal` holds of what is left after some slash on the same line. -/
def afterSlash (goal : List Char → Bool) : List Char → Bool
  | [] => false
  | c :: rest => (c = '/' && goal rest) || (c ≠ '\n' && afterSlash goal rest)

def inName (c : Char) : Bool := c ≠ '/'

def inLine (c : Char) : Bool := c ≠ '\n'

/-- Whether pieces match a text from its start to its end. -/
def piecesMatch : List Piece → List Char → Bool
  | [], text => text = [] || text = ['\n']
  | .char c :: more, text =>
    match text with
    | d :: rest => d = c && piecesMatch more rest
    | [] => false
  | .one :: more, text =>
    match text with
    | d :: rest => inName d && piecesMatch more rest
    | [] => false
  | .within :: more, text => afterSome inName (piecesMatch more) text
  | .anything :: more, text => afterSome inLine (piecesMatch more) text
  | .directories :: more, text => piecesMatch more text || afterSlash (piecesMatch more) text

/-- Whether a glob matches a path. In the glob a backslash counts as a slash. -/
def isMatch (glob path : String) : Bool :=
  piecesMatch (pieces (normalizeSlashes glob).toList) path.toList

/-- Characters that make a pattern more than a path. -/
def isToken (c : Char) : Bool := c = '*' || c = '?' || c = '\x7b'

def hasToken (pattern : String) : Bool := pattern.toList.any isToken

/-- The directory below which all matches of a pattern lie: what stands before the last slash that
precedes every token. A pattern without tokens is given back. -/
def walkRoot (pattern : String) : String :=
  let text := (normalizeSlashes pattern).toList
  if text.any isToken then
    let fixed := text.takeWhile fun c => !isToken c
    match (fixed.reverse.dropWhile (· ≠ '/')).reverse with
    | [] => "."
    | ['/'] => "/"
    | directory => String.ofList directory.dropLast
  else String.ofList text

end StylePrune.Glob
