/-!
# Sorted sets

A set of names or texts is held as a list that is strictly increasing in the order of the members,
which is also the order in which sets are shown. `Sorted.insert` keeps it so.
-/

namespace StylePrune.Sorted

/-- Puts a member into a strictly increasing list, unless it is there. -/
def insert {α : Type} (lt : α → α → Bool) (x : α) : List α → List α
  | [] => [x]
  | y :: rest =>
    if lt x y then x :: y :: rest
    else if lt y x then y :: insert lt x rest
    else y :: rest

def union {α : Type} (lt : α → α → Bool) (xs ys : List α) : List α :=
  ys.foldl (fun set y => insert lt y set) xs

def ofList {α : Type} (lt : α → α → Bool) (xs : List α) : List α := union lt [] xs

/-- Strings are ordered by code point. -/
def stringLt (a b : String) : Bool := decide (a < b)

/-- The set of some strings. -/
def strings (xs : List String) : List String := ofList stringLt xs

def insertString (x : String) (set : List String) : List String := insert stringLt x set

def unionStrings (xs ys : List String) : List String := union stringLt xs ys

end StylePrune.Sorted
