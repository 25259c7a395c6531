import StylePrune.Css.Tree
import StylePrune.Text.Basic

/-!
# What selectors and declarations name

The classes that a selector names, also within functional pseudo-classes, and the custom properties
that a block declares.
-/

namespace StylePrune.Css

mutual

/-- Class names in a list of tokens: identifiers directly after a dot. `dotted` says whether a dot
stands right before the list. Attribute selectors and curly blocks are not searched. -/
def classNamesAfter (dotted : Bool) : List Token → List Text
  | [] => []
  | t :: rest => classNamesOf dotted t ++ classNamesAfter (t.isLiteral ".") rest

def classNamesOf (dotted : Bool) : Token → List Text
  | .leaf _ (.ident name) => if dotted then [name] else []
  | .leaf .. => []
  | .function _ _ arguments _ => classNamesAfter false arguments
  | .block _ .paren content _ => classNamesAfter false content
  | .block .. => []

end

/-- The classes that one selector names, in order. -/
def classNames (selector : List Token) : List Text := classNamesAfter false selector

/-- The classes that the selectors of a rule name. -/
def Rule.classNames (r : Rule) : List Text := r.selectors.flatMap Css.classNames

namespace CustomProperties

/-- What may come next in a block: the start of a declaration, the colon of a custom property, or
the rest of a declaration. -/
inductive Expecting where
  | declaration
  | colon
  | rest

/-- Whether a custom property is declared in the tokens that follow. -/
def find : Expecting → List Token → Bool
  | _, [] => false
  | expecting, t :: more =>
    if t.isBlank then find expecting more
    else
      match expecting with
      | .colon =>
        if t.isLiteral ":" then true
        else if t.isLiteral ";" then find .declaration more
        else find .rest more
      | .declaration =>
        if t.isLiteral ";" then find .declaration more
        else
          match t with
          | .leaf _ (.ident (p :: q :: _)) =>
            if p.is '-' && q.is '-' then find .colon more else find .rest more
          | _ => find .rest more
      | .rest => if t.isLiteral ";" then find .declaration more else find .rest more

end CustomProperties

/-- Whether a declaration block declares a property whose name starts with two hyphens. -/
def declaresCustomProperty (content : List Token) : Bool :=
  CustomProperties.find .declaration content

/-- A text without the blanks at both ends. -/
def trimText (t : Text) : Text :=
  dropWhileEnd (isBlankCode ∘ Point.code) (t.dropWhile (isBlankCode ∘ Point.code))

/-- The selector list of a rule as text. -/
def Rule.selectorText (r : Rule) : Text := trimText (Serialize.tokens r.selector)

end StylePrune.Css
