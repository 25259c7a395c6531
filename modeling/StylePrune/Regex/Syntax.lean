/-!
# Patterns as trees

The syntax of patterns once it is read. Flags are resolved where they matter: a node says itself
whether it ignores case, spans lines or keeps to ASCII. `Node.width` bounds the length of what a
node can match.
-/

namespace StylePrune.Regex

/-!
## Widths

Bounds on the length of what a pattern matches. Upper bounds are counted up to `Width.most`, which
stands for every length from there on and for no bound, and lower bounds stop short of it, so a
width that is too great to be counted is not a fixed one.
-/

structure Width where
  min : Nat
  max : Nat
deriving DecidableEq, Repr, Inhabited

namespace Width

/-- The upper bound of patterns without one. -/
def most : Nat := 4294967295

/-- A width with its bounds counted as far as they go. -/
def capped (min max : Nat) : Width := ⟨Nat.min (most - 1) min, Nat.min most max⟩

def zero : Width := ⟨0, 0⟩
def single : Width := ⟨1, 1⟩

def add (a b : Width) : Width := capped (a.min + b.min) (a.max + b.max)

def either (a b : Width) : Width := ⟨Nat.min a.min b.min, Nat.max a.max b.max⟩

/-- The width of `min` up to `max` rounds, `none` for any number of them. -/
def times (a : Width) (min : Nat) (max : Option Nat) : Width :=
  capped (a.min * min) (a.max * max.getD most)

end Width

/-! ## Patterns as trees -/

/-- How letters compare. -/
inductive CaseRule where
  | exact
  | ascii
  | unicode
deriving DecidableEq, Repr, Inhabited

inductive Category where
  | digit
  | space
  | word
deriving DecidableEq, Repr, Inhabited

/-- A member of a character set. -/
inductive SetItem where
  | one (code : Nat)
  | range (first last : Nat)
  | category (category : Category) (negated : Bool) (ascii : Bool)
deriving DecidableEq, Repr, Inhabited

/-- What a single character has to be. -/
inductive CharTest where
  | literal (negated : Bool) (code : Nat) (case : CaseRule)
  | set (negated : Bool) (items : List SetItem) (case : CaseRule)
  | any (dotAll : Bool)
deriving DecidableEq, Repr, Inhabited

inductive Anchor where
  | textStart
  | textEnd
  /-- The start of the text, or of any of its lines. -/
  | lineStart (everyLine : Bool)
  /-- The end of the text, also before a line end that ends it, or the end of any of its lines. -/
  | lineEnd (everyLine : Bool)
  | wordBoundary (negated ascii : Bool)
deriving DecidableEq, Repr, Inhabited

inductive Greed where
  | greedy
  | lazy
  /-- Greedy, and never given back. -/
  | possessive
deriving DecidableEq, Repr, Inhabited

inductive Node where
  | one (test : CharTest)
  | anchor (anchor : Anchor)
  | seq (nodes : List Node)
  | choice (alternatives : List Node)
  | capture (index : Nat) (body : Node)
  /-- A group that captures nothing and changes flags. -/
  | scoped (body : Node)
  /-- `max` is `none` for no bound. -/
  | repeated (greed : Greed) (min : Nat) (max : Option Nat) (body : Node)
  | atomic (body : Node)
  | lookahead (negated : Bool) (body : Node)
  /-- The body, of the given width, has to match up to here. -/
  | lookbehind (negated : Bool) (width : Width) (body : Node)
  | backreference (index : Nat) (case : CaseRule)
  | conditional (index : Nat) (yes no : Node)
deriving Repr, Inhabited

mutual

/-- The width of a node, given the widths of the groups closed so far. -/
def Node.width (groups : Nat → Width) : Node → Width
  | .one _ => .single
  | .anchor _ | .lookahead .. | .lookbehind .. => .zero
  | .seq nodes => seqWidth groups nodes
  | .choice [] => .zero
  | .choice (n :: rest) => choiceWidth groups (n.width groups) rest
  | .capture _ body | .scoped body | .atomic body => body.width groups
  | .repeated _ min max body => (body.width groups).times min max
  | .backreference index _ => groups index
  | .conditional _ yes no => (yes.width groups).either (no.width groups)

def seqWidth (groups : Nat → Width) : List Node → Width
  | [] => .zero
  | n :: rest => (n.width groups).add (seqWidth groups rest)

def choiceWidth (groups : Nat → Width) (width : Width) : List Node → Width
  | [] => width
  | n :: rest => choiceWidth groups (width.either (n.width groups)) rest

end

/-- The test of a node that takes exactly one character and captures nothing. -/
def Node.single? : Node → Option CharTest
  | .one test => some test
  | .seq [n] => n.single?
  | .scoped body => body.single?
  | _ => none

end StylePrune.Regex
