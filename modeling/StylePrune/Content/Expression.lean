import StylePrune.Content.Find
import StylePrune.Pattern

/-!
# Classes in expressions

An expression of code yields the class tokens of its string literals, of the fixed parts of its
template literals, of the keys of its objects, and of the constants it names. When it joins texts, a
fixed part that ends in a hyphen yields a pattern for the classes that start with it.
-/

namespace StylePrune.Content

open Regex (Pattern)

/-- Class tokens by the name of the constant that holds them, in order of declaration. -/
abbrev Constants := List (String × List String)

/-- The text of a string literal after its opening quote, and the text behind its closing quote. A
backslash keeps the next character from ending the literal, but not a line end. -/
def literalRest (quote : Char) : List Char → Option (List Char × List Char)
  | [] => none
  | '\\' :: [] => none
  | '\\' :: c :: rest =>
    if c = '\n' then none
    else (literalRest quote rest).map fun (text, after) => ('\\' :: c :: text, after)
  | c :: rest =>
    if c = quote then some ([], rest)
    else (literalRest quote rest).map fun (text, after) => (c :: text, after)

def stringLiteral : Recogniser := fun _ cs =>
  match cs with
  | c :: rest =>
    if isQuoteMark c then
      (literalRest c rest).map fun (text, after) => .between cs text rest after
    else none
  | [] => none

def templateLiteral : Recogniser := fun _ cs =>
  match cs with
  | c :: rest =>
    if c = '\x60' then (cutAt? c rest).map fun (text, after) => .between cs text rest after
    else none
  | [] => none

/-- A placeholder up to its first closing brace. -/
def placeholder : Recogniser := fun _ cs =>
  match cs with
  | '$' :: '\x7b' :: rest =>
    (cutAt? '\x7d' rest).map fun (text, after) => .between cs text rest after
  | _ => none

/-- The parts of a text between finds. -/
def partsBetween (text : List Char) (index : Nat) : List (Nat × Find) → List (List Char)
  | [] => [text]
  | (at_, found) :: rest =>
    let width := at_ - index
    text.take width :: partsBetween (text.drop (width + found.length)) (at_ + found.length) rest

/-- The fixed parts of a template literal, blank ones left out. -/
def fixedParts (template : List Char) : List (List Char) :=
  (partsBetween template 0 (findAll placeholder template)).filter fun part => !part.all isBlank

def quotedStrings (expression : List Char) : List (List Char) := valuesOf stringLiteral expression

def templateParts (expression : List Char) : List (List Char) :=
  (valuesOf templateLiteral expression).flatMap fixedParts

/-- An object key with its colon, at the place where the key or its quote starts. -/
def keyAt (text : List Char) (cs : List Char) : Option Find :=
  let isKeyStart (cs : List Char) : Bool :=
    match cs with
    | c :: _ => ClassList.isFirst c
    | [] => false
  match cs with
  | [] => none
  | q :: inner =>
    if isQuoteMark q then
      let key := inner.takeWhile ClassList.isLater
      match inner.drop key.length with
      | d :: after =>
        if isKeyStart inner && d = q then
          match dropBlanks after with
          | ':' :: rest => some (.between text key inner rest)
          | _ => none
        else none
      | [] => none
    else if isKeyStart cs then
      let run := cs.takeWhile ClassList.isLater
      match dropBlanks (cs.drop run.length) with
      | ':' :: rest => some (.between text run cs rest)
      | _ =>
        let tail := run.reverse.takeWhile (· ≠ ':')
        let key := run.take (run.length - tail.length - 1)
        if tail.length < run.length && !key.isEmpty then
          some (.between text key cs (cs.drop (key.length + 1)))
        else none
    else none

/-- An object key stands at the start of the expression or behind a brace or comma. -/
def objectKey : Recogniser := fun before cs =>
  let first := if before.isNone then keyAt cs cs else none
  match first with
  | some found => some found
  | none =>
    match cs with
    | c :: rest => if c = '\x7b' || c = ',' then keyAt cs (dropBlanks rest) else none
    | [] => none

def objectKeys (expression : List Char) : List (List Char) := valuesOf objectKey expression

def isIdentifierStart (c : Char) : Bool :=
  ('a' ≤ c && c ≤ 'z') || ('A' ≤ c && c ≤ 'Z') || c = '_' || c = '$'

def isIdentifierRest (c : Char) : Bool := isWord c.toNat || c = '$'

def takeIdentifier (cs : List Char) : List Char :=
  match cs with
  | c :: rest => if isIdentifierStart c then c :: rest.takeWhile isIdentifierRest else []
  | [] => []

def identifier : Recogniser := fun _ cs =>
  let name := takeIdentifier cs
  if name.isEmpty then none else some ⟨name, 0, name.length⟩

/-- Members in the order of their first occurrence. -/
def distinct (xs : List String) : List String :=
  (xs.foldl (fun kept x => if kept.contains x then kept else x :: kept) []).reverse

/-- The class tokens of some texts. -/
def tokensOf (texts : List (List Char)) : List String := texts.flatMap tokenizeClassList

/-- The declaration of a constant: its name, and as value the text up to the next semicolon. -/
structure Declaration where
  name : List Char
  value : List Char

/-- A declaration at a place, and the text behind it. -/
def declarationAt? (before : Option Char) (cs : List Char) : Option (Declaration × List Char) :=
  if atWordStart before then
    match dropOneOf? ["const".toList, "let".toList, "var".toList] cs with
    | some rest =>
      let spaced := dropBlanks rest
      let name := takeIdentifier spaced
      if spaced.length < rest.length && !name.isEmpty then
        match dropEquals? (spaced.drop name.length) with
        | some value =>
          let text := value.takeWhile (· ≠ ';')
          if text.isEmpty then none else some (⟨name, text⟩, value.drop (text.length + 1))
        | none => none
      else none
    | none => none
  else none

/-- The declarations of a text, each behind the one before. -/
def declarationsFrom (skip : Nat) (before : Option Char) : List Char → List Declaration
  | [] => []
  | c :: rest =>
    match skip with
    | skip + 1 => declarationsFrom skip (some c) rest
    | 0 =>
      match declarationAt? before (c :: rest) with
      | some (d, after) => d :: declarationsFrom (rest.length - after.length) (some c) rest
      | none => declarationsFrom 0 (some c) rest

def setConstant (constants : Constants) (name : String) (tokens : List String) : Constants :=
  if constants.any fun c => c.1 = name then
    constants.map fun c => if c.1 = name then (name, tokens) else c
  else constants ++ [(name, tokens)]

/-- The constants of a text; one without class tokens is left out, and of several declarations of
one name the last counts. -/
def collectConstants (content : List Char) : Constants :=
  (declarationsFrom 0 none content).foldl
    (fun constants d =>
      let tokens := distinct (tokensOf (quotedStrings d.value ++ templateParts d.value))
      if tokens.isEmpty then constants else setConstant constants (String.ofList d.name) tokens)
    []

/-- The tokens of the constants that an expression names. -/
def resolveIdentifiers (expression : List Char) (constants : Constants) : List String :=
  (valuesOf identifier expression).flatMap fun name =>
    (constants.lookup (String.ofList name)).getD []

/-- Whether `${` stands in a text. -/
def hasPlaceholder : List Char → Bool
  | [] => false
  | '$' :: '\x7b' :: _ => true
  | _ :: rest => hasPlaceholder rest

/-- Whether an expression joins texts: it has a plus sign, or a placeholder behind a backtick. -/
def isDynamic (expression : List Char) : Bool :=
  expression.contains '+' || hasPlaceholder (expression.dropWhile (· ≠ '\x60'))

/-- The pattern of all texts that start with `token`. -/
def startPattern (token : String) : Pattern where
  source := "^" ++ escapeRegex token
  flags := {}
  groups := 0
  body := .seq (.anchor (.lineStart false) ::
    token.toList.map fun c => .one (.ofCode false c.toNat .exact))

/-- Patterns for classes that an expression puts together. -/
def deriveDynamicPatterns (expression : List Char) : List Pattern :=
  if isDynamic expression then
    ((tokensOf (quotedStrings expression ++ templateParts expression)).filter
      fun token => token.toList.getLast? = some '-').map startPattern
  else []

/-- The class tokens of an expression, each once. -/
def expressionTokens (expression : List Char) (constants : Constants) : List String :=
  distinct
    (tokensOf (quotedStrings expression ++ templateParts expression ++ objectKeys expression) ++
      resolveIdentifiers expression constants)

end StylePrune.Content
