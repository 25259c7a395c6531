import StylePrune.Decimal.Shortest
import StylePrune.Text.Point

/-!
# JSON values

Integers keep all their digits, other numbers are floating-point, and the members of an object keep
their order. A string with an unpaired surrogate, which an escape can write, is kept apart from the
strings that are text, and so is a name.
-/

namespace StylePrune

inductive Json where
  | null
  | bool (b : Bool)
  | int (n : Int)
  | float (f : Float)
  | str (s : String)
  /-- A string with an unpaired surrogate. -/
  | broken (t : Text)
  /-- A date or time, by the name of its kind and as text. Only configuration files hold one. -/
  | moment (kind shown : String)
  | arr (items : List Json)
  | obj (members : List (String × Json))
deriving Inhabited

namespace Json

/-- The string a value is, U+FFFD standing for unpaired surrogates. -/
def string? : Json → Option String
  | str s => some s
  | broken t => some t.toStringLossy
  | _ => none

def isString (v : Json) : Bool := v.string?.isSome

/-- A text as a value. -/
def ofText (t : Text) : Json :=
  match t.toString? with
  | .ok s => .str s
  | .error _ => .broken t

/-- What stands for a point in the stand-in of a name. -/
def standIn : Point → List Char
  | .char c => if c = '\uFFFD' then [c, c] else [c]
  | .surrogate offset => '\uFFFD' :: Nat.toDigits 16 (0xD800 + offset.val)

/-- The name of a member. A text with an unpaired surrogate is no string; it has a stand-in, which
tells it from all other such texts. -/
def nameOf (t : Text) : String :=
  match t.toString? with
  | .ok s => s
  | .error _ => String.ofList (t.flatMap standIn)

def strings (xs : List String) : Json := .arr (xs.map .str)

/-- The list of strings a value is. -/
def stringList? : Json → Option (List String)
  | arr items => items.mapM string?
  | _ => none

/-- A member of an object. -/
def member? (v : Json) (name : String) : Option Json :=
  match v with
  | obj members => members.lookup name
  | _ => none

end Json

/-- Sets a member, in its old place if there was one and else at the end. -/
def setMember {α : Type} (members : List (String × α)) (name : String) (value : α) :
    List (String × α) :=
  if members.any fun m => m.1 = name then
    members.map fun m => if m.1 = name then (name, value) else m
  else members ++ [(name, value)]

end StylePrune
