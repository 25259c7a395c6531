import StylePrune.Css.Balance
import StylePrune.Css.Nesting
import StylePrune.Css.Serialize
import StylePrune.Text.LetterCase

/-!
# The tree of a style sheet

A style sheet is a list of nodes: white space, comments, rules and at-rules. An at-rule is a
statement, a block of raw tokens, or a block of further nodes. A block that should hold nodes but
cannot be read as such keeps its raw tokens, so only the top level of a text can be refused.
-/

namespace StylePrune.Css

/-- A rule: its selector list and the tokens of its declaration block. -/
structure Rule where
  selector : List Token
  content : List Token
deriving Repr, Inhabited

inductive Node where
  | whitespace (text : List Char)
  | comment (text : List Char)
  | rule (rule : Rule)
  | statement (keyword : Text) (prelude : List Token)
  | rawBlock (keyword : Text) (prelude : List Token) (content : List Token)
  | ruleBlock (keyword : Text) (prelude : List Token) (children : List Node)
deriving Repr, Inhabited

/-- The nodes of a style sheet, in order. -/
abbrev Sheet := List Node

/-- Why a text is not taken for a style sheet. -/
inductive SyntaxError where
  | unbalanced (imbalance : Imbalance)
  /-- The text ended before the block of a rule; the place is that of the last token. -/
  | noBlock (position : Position)
  /-- A block with no selector before it. -/
  | noSelector (position : Position)
deriving DecidableEq, Repr

inductive ReadError where
  | broken (error : SyntaxError)
  | integerTooLong (digits : Nat)
deriving DecidableEq, Repr

def Imbalance.message : Imbalance → String
  | .unexpected closer line => s!"Unexpected '{closer}' (line {line}, column None)"
  | .unclosed closer line =>
    s!"Unclosed block, expected '{closer}' (line {line}, column None)"

def SyntaxError.message : SyntaxError → String
  | .unbalanced i => i.message
  | .noBlock p =>
    s!"EOF reached before \x7b\x7d block for a qualified rule. (line {p.line}, column {p.column})"
  | .noSelector p => s!"Rule without a selector (line {p.line}, column {p.column})"

def ReadError.message : ReadError → String
  | .broken e => e.message
  | .integerTooLong digits => Decimal.integerTooLongMessage digits

/-- Block at-rules whose body is a list of declarations, in lower case. -/
def declarationAtRules : List String :=
  ["font-face", "page", "property", "counter-style", "font-feature-values", "font-palette-values",
    "viewport", "-ms-viewport", "color-profile"]

def holdsDeclarations (keyword : Text) : Bool :=
  declarationAtRules.any fun name => Lexer.asciiLower keyword = Text.ofString name

namespace Reading

/-- The rule that is being read; tokens before its block are held last one first. -/
inductive Pending where
  | nothing
  | rule (position : Position) (last : Token) (before : List Token)
  | atRule (keyword : Text) (before : List Token)

/-- Reads nodes from tokens. At the top level of a text the marks `<!--` and `-->` are skipped
between rules. -/
def nodes (top : Bool) : Pending → List Token → Except SyntaxError (List Node)
  | .nothing, [] => .ok []
  | .rule _ last _, [] => .error (.noBlock last.position)
  | .atRule keyword before, [] => .ok [.statement keyword before.reverse]
  | pending, .block position .curly content _ :: rest =>
    match pending with
    | .nothing => .error (.noSelector position)
    | .rule _ _ before =>
      (nodes top .nothing rest).map (.rule ⟨before.reverse, content⟩ :: ·)
    | .atRule keyword before =>
      let node :=
        if holdsDeclarations keyword then .rawBlock keyword before.reverse content
        else
          match nodes false .nothing content with
          | .ok children => .ruleBlock keyword before.reverse children
          | .error _ => .rawBlock keyword before.reverse content
      (nodes top .nothing rest).map (node :: ·)
  | .nothing, t :: rest =>
    match t with
    | .leaf _ (.whitespace text) => (nodes top .nothing rest).map (.whitespace text :: ·)
    | .leaf _ (.comment text) => (nodes top .nothing rest).map (.comment text :: ·)
    | .leaf _ (.atKeyword keyword) => nodes top (.atRule keyword []) rest
    | t =>
      if top && (t.isLiteral "<!--" || t.isLiteral "-->") then nodes top .nothing rest
      else nodes top (.rule t.position t [t]) rest
  | .rule position _ before, t :: rest => nodes top (.rule position t (t :: before)) rest
  | .atRule keyword before, t :: rest =>
    if t.isLiteral ";" then
      (nodes top .nothing rest).map (.statement keyword before.reverse :: ·)
    else nodes top (.atRule keyword (t :: before)) rest
termination_by _ tokens => sizeOf tokens
decreasing_by
  all_goals (simp only [List.cons.sizeOf_spec, Token.block.sizeOf_spec]; omega)

end Reading

/-- Reads a style sheet whose brackets must pair up and whose rules must be whole. -/
def read (css : List Char) : Except ReadError Sheet :=
  match checkBalance css with
  | .error e => .error (.broken (.unbalanced e))
  | .ok () =>
    match tokenize css with
    | .error e => .error (.integerTooLong e.digits)
    | .ok tokens => (Reading.nodes true .nothing tokens).mapError .broken

namespace Rule

/-- The single selectors of the list, parted at top-level commas; blank ones are left out. -/
def selectors (r : Rule) : List (List Token) :=
  (split r.selector).filter fun s => s.any fun t => !t.isBlank
where
  split : List Token → List (List Token)
    | [] => [[]]
    | t :: rest =>
      if t.isLiteral "," then [] :: split rest
      else
        match split rest with
        | s :: more => (t :: s) :: more
        | [] => [[t]]

end Rule

namespace Node

def isBlank : Node → Bool
  | whitespace _ | comment _ => true
  | _ => false

def isWhitespace : Node → Bool
  | whitespace _ => true
  | _ => false

def isComment : Node → Bool
  | comment _ => true
  | _ => false

def isRule : Node → Bool
  | rule _ => true
  | _ => false

/-- The keyword of an at-rule as written. -/
def keyword? : Node → Option Text
  | statement k _ | rawBlock k _ _ | ruleBlock k _ _ => some k
  | _ => none

def isAtRule (n : Node) : Bool := n.keyword?.isSome

def hasBlock : Node → Bool
  | rawBlock .. | ruleBlock .. => true
  | _ => false

/-- A block with nothing but white space and comments in it. -/
def isEmptyBlock : Node → Bool
  | ruleBlock _ _ children => children.all isBlank
  | rawBlock _ _ content => content.all Token.isBlank
  | _ => false

end Node

/-!
## At-rule names

The name of an at-rule is its keyword in lower case, letters of any script included.
-/

/-- Lower case of one point. -/
def lowerPoint (p : Point) : Text :=
  match p with
  | .char c => (lowerCodes c.toNat).map Point.ofCode
  | .surrogate _ => [p]

def lowerText (t : Text) : Text := t.flatMap lowerPoint

/-- The name of an at-rule, empty for other nodes. -/
def Node.name (n : Node) : Text := lowerText (n.keyword?.getD [])

end StylePrune.Css
