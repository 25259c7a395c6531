/-!
# Code points of decoded text

An escape in a style sheet may name any code point, also one of the surrogates, which no string of
characters holds. A decoded text is therefore a list of `Point`s. `Text.toString?` gives the string
back, and says where the first unpaired surrogate stands when there is none.
-/

namespace StylePrune

/-- A character, or the surrogate `0xD800 + offset`. -/
inductive Point where
  | char (c : Char)
  | surrogate (offset : Fin 2048)
deriving DecidableEq, Repr, Inhabited

namespace Point

def code : Point → Nat
  | .char c => c.toNat
  | .surrogate offset => 0xD800 + offset.val

/-- The point of a code, and U+FFFD for a number that is no code point. -/
def ofCode (n : Nat) : Point :=
  if h : 0xD800 ≤ n ∧ n < 0xE000 then .surrogate ⟨n - 0xD800, by omega⟩
  else if n ≤ 0x10FFFF then .char (Char.ofNat n)
  else .char '\uFFFD'

/-- A comparison with a character never holds of a surrogate. -/
def is (p : Point) (c : Char) : Bool := p = .char c

end Point

/-- Text that may hold unpaired surrogates. -/
abbrev Text := List Point

namespace Text

def ofChars (cs : List Char) : Text := cs.map .char

def ofString (s : String) : Text := ofChars s.toList

/-- The codes of a text, which is what patterns read. -/
def codes (t : Text) : List Nat := t.map Point.code

/-- Why a text is no string: its first surrogate stands at index `first`, and `run` surrogates
follow one another there. -/
structure Unencodable where
  first : Nat
  run : Nat
  code : Nat
deriving DecidableEq, Repr

def surrogateRun : Text → Nat
  | .surrogate _ :: rest => surrogateRun rest + 1
  | _ => 0

/-- The characters of a text whose first point has index `index` in the whole text. -/
def toCharsFrom? (index : Nat) : Text → Except Unencodable (List Char)
  | [] => .ok []
  | .char c :: rest => (toCharsFrom? (index + 1) rest).map (c :: ·)
  | p@(.surrogate _) :: rest => .error ⟨index, surrogateRun rest + 1, p.code⟩

def toString? (t : Text) : Except Unencodable String :=
  (toCharsFrom? 0 t).map String.ofList

/-- The text as a string in which U+FFFD stands for each surrogate. -/
def toStringLossy (t : Text) : String :=
  String.ofList (t.map fun
    | .char c => c
    | .surrogate _ => '\uFFFD')

/-- The order of texts by code point. -/
def lt : Text → Text → Bool
  | [], [] => false
  | [], _ :: _ => true
  | _ :: _, [] => false
  | p :: ps, q :: qs =>
    if p.code < q.code then true else if q.code < p.code then false else lt ps qs

end Text

end StylePrune
