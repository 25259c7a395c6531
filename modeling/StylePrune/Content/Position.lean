import StylePrune.Content.Find

/-!
# Where classes stand in content

The recognisers for the places of markup and code where classes are written: attributes with a fixed
class list, directives that name one class, attributes and assignments with an expression, braced
expressions, and calls of helpers. Each gives the class list, name, expression or argument list as
its value.
-/

namespace StylePrune.Content

/-- A quoted value that holds neither quote; either quote may end it. -/
def plainQuoted (text cs : List Char) : Option Find :=
  match cs with
  | q :: inner =>
    if isQuoteMark q then
      let value := inner.takeWhile fun c => !isQuoteMark c
      match inner.drop value.length with
      | _ :: rest => if value.isEmpty then none else some (.between text value inner rest)
      | [] => none
    else none
  | [] => none

/-- A quoted value that the same quote ends. -/
def sameQuoted (text cs : List Char) : Option Find :=
  match cs with
  | q :: inner =>
    if isQuoteMark q then (cutAt? q inner).map fun (value, rest) => .between text value inner rest
    else none
  | [] => none

/-- A class attribute with a fixed list, at the start of the text or behind a blank or `<`. -/
def classAttribute : Recogniser := fun before cs =>
  let from? (text : List Char) : Option Find := do
    plainQuoted cs (← dropEquals? (← dropWord? "class".toList text))
  let first := if before.isNone then from? cs else none
  match first with
  | some found => some found
  | none =>
    match cs with
    | c :: rest => if isBlank c || c = '<' then from? rest else none
    | [] => none

def classNameAttribute : Recogniser := fun before cs => do
  if !atWordStart before then none
  else plainQuoted cs (← dropEquals? (← dropWord? "className".toList cs))

/-- The keyword form of a class list. -/
def classKeyword : Recogniser := fun before cs => do
  if !atWordStart before then none
  else plainQuoted cs (dropBlanks (← dropWord? "class:".toList cs))

/-- Attributes whose value is a fixed class list. -/
def classLists : List Recogniser := [classAttribute, classNameAttribute, classKeyword]

/-- A directive that names one class; `class:list` is no name but takes an expression. -/
def classDirective : Recogniser := fun before cs => do
  if !atWordStart before then none
  else
    let rest ← dropWord? "class:".toList cs
    let name := rest.takeWhile ClassList.isFirst
    if name.isEmpty || name = "list".toList then none
    else some (.between cs name rest (rest.drop name.length))

/-- A binding of one class to a quoted condition. -/
def classBinding : Recogniser := fun _ cs => do
  let rest ← dropWord? "[class.".toList cs
  let name := rest.takeWhile ClassList.isFirst
  if name.isEmpty then none
  else
    match ← dropEquals? (← dropWord? "]".toList (rest.drop name.length)) with
    | q :: inner =>
      if isQuoteMark q then
        match inner.dropWhile fun c => !isQuoteMark c with
        | _ :: after => some (.between cs name rest after)
        | [] => none
      else none
    | [] => none

/-- Directives that name one class. -/
def classNames : List Recogniser := [classDirective, classBinding]

/-- An attribute of the given name with a quoted expression. -/
def quotedExpression (name : String) (wordStart : Bool) : Recogniser := fun before cs => do
  if wordStart && !atWordStart before then none
  else sameQuoted cs (← dropEquals? (← dropWord? name.toList cs))

/-- The class argument of `.setAttribute`. -/
def setAttributeCall : Recogniser := fun _ cs => do
  match dropBlanks (← dropWord? ".setAttribute".toList cs) with
  | '(' :: rest =>
    match dropBlanks rest with
    | q :: rest =>
      if !isQuoteMark q then none
      else
        match ← dropWord? "class".toList rest with
        | q :: rest =>
          if !isQuoteMark q then none
          else
            match dropBlanks rest with
            | ',' :: rest =>
              let start := dropBlanks rest
              let (value, after) ← cutAt? ')' start
              if value.isEmpty then none else some (.between cs value start after)
            | _ => none
        | [] => none
    | [] => none
  | _ => none

/-- An assignment to `.className`, up to the end of the line or statement. -/
def classNameAssignment : Recogniser := fun _ cs => do
  let start ← dropEquals? (← dropWord? ".className".toList cs)
  let value := start.takeWhile fun c => c ≠ '\n' && c ≠ ';'
  if value.isEmpty then none else some (.between cs value start (start.drop value.length))

/-- Attributes and assignments whose value is an expression. -/
def expressions : List Recogniser :=
  [quotedExpression ":class" false, quotedExpression "class:list" true,
    quotedExpression "[ngClass]" false, setAttributeCall, classNameAssignment]

/-- An attribute whose value is braced. The value is all text behind the opening brace, out of which
the braced part is read. -/
def bracedAttribute (name : String) : Recogniser := fun before cs => do
  if !atWordStart before then none
  else
    match ← dropEquals? (← dropWord? name.toList cs) with
    | '\x7b' :: rest => some (.between cs rest rest rest)
    | _ => none

def bracedAttributes : List Recogniser :=
  ["className", "classList", "class:list", "class"].map bracedAttribute

/-- A call of one of some names, with its argument list up to the first closing bracket. -/
def callOf (names : List String) (wordStart : Bool) : Recogniser := fun before cs =>
  if wordStart && !atWordStart before then none
  else
    names.findSome? fun name => do
      match dropBlanks (← dropWord? name.toList cs) with
      | '(' :: start =>
        let (args, rest) ← cutAt? ')' start
        some (.between cs args start rest)
      | _ => none

/-- Helper calls. With an index only the argument there counts. -/
def calls : List (Recogniser × Option Nat) :=
  [(callOf ["classList.add", "classList.remove", "classList.toggle", "classList.contains",
      "classList.replace"] true, none),
    (callOf ["addClass", "removeClass", "toggleClass", "hasClass"] true, none),
    (callOf ["renderer.addClass", "renderer.removeClass"] true, some 1),
    (callOf ["clsx", "classnames"] true, none),
    (callOf ["@class"] false, none),
    (callOf ["class_names", "classNames"] true, none)]

end StylePrune.Content
