import StylePrune.Css.Serialize
import StylePrune.Proofs.Selectors.Document

/-!
# Selector lists as they read

A selector list says what the row of its commas, combinators and simple selectors says. A comma or a
combinator stands for itself, whatever blanks are around it; between two other tokens white space is
the descendant combinator. A comment is no token and parts nothing. What stands in brackets or is
passed to a function is read in the same way, but between square brackets white space tells only
beside a bar, which ties a namespace to its name. Curly blocks are no part of a selector.

`signsAfter_parting`: taking comments for white space changes the reading just if a comment, with no
white space beside it, stands between two tokens that white space would part.
-/

namespace StylePrune.Selectors

open Css (Token Leaf Serialize.leaf)

/-- One sign of a selector list. -/
inductive Sign where
  | comma
  | combinator (k : Combinator)
  | simple (l : Leaf)
  | block (b : Css.Bracket) (content : List Sign)
  | function (name : Text) (arguments : List Sign)

/-- A comma or a combinator, by how it is written. -/
def Sign.ofText? : Text → Option Sign
  | [.char ','] => some .comma
  | [.char '>'] => some (.combinator .child)
  | [.char '+'] => some (.combinator .next)
  | [.char '~'] => some (.combinator .subsequent)
  | _ => none

def Sign.ofLeaf (l : Leaf) : Sign := (ofText? (Serialize.leaf l)).getD (.simple l)

/-- What a token makes of white space beside it: it means nothing at either end of a list and beside
a comma or a combinator. -/
inductive Side where
  | mark
  | bar
  | other
deriving DecidableEq

def side : Token → Side
  | .leaf _ l =>
    if (Sign.ofText? (Serialize.leaf l)).isSome then .mark
    else if l = .literal ['|'] then .bar
    else .other
  | .block .. | .function .. => .other

/-- Whether white space between two neighbours tells something. -/
def tells (square : Bool) (a b : Side) : Bool :=
  a ≠ .mark && b ≠ .mark && (!square || a = .bar || b = .bar)

/-- What white space reads as where it tells something. -/
def gap (square : Bool) : Sign :=
  if square then .simple (.whitespace [' ']) else .combinator .descendant

def isComment : Token → Bool
  | .leaf _ (.comment _) => true
  | _ => false

mutual

def sign (parting : Bool) : Token → Sign
  | .leaf _ l => .ofLeaf l
  | .block _ .curly _ _ => .block .curly []
  | .block _ b content _ => .block b (signsAfter parting (b = .square) .mark false content)
  | .function _ n arguments _ => .function n (signsAfter parting false .mark false arguments)

/-- The signs of tokens: `before` is what stands before them, with white space since if `blank`.
Comments count as white space if they are `parting`. -/
def signsAfter (parting square : Bool) (before : Side) (blank : Bool) : List Token → List Sign
  | [] => []
  | t :: rest =>
    if t.isBlank then
      signsAfter parting square before (blank || parting || !isComment t) rest
    else
      (if blank && tells square before (side t) then [gap square] else []) ++
        sign parting t :: signsAfter parting square (side t) false rest

end

/-- What a selector list says. -/
def signs (ts : List Token) : List Sign := signsAfter false false .mark false ts

/-- What a selector list says if comments are taken for white space. -/
def partedSigns (ts : List Token) : List Sign := signsAfter true false .mark false ts

mutual

def holdsJoint : Token → Bool
  | .leaf .. | .block _ .curly _ _ => false
  | .block _ b content _ => jointAfter (b = .square) .mark false false content
  | .function _ _ arguments _ => jointAfter false .mark false false arguments

/-- Whether somewhere in the tokens a comment stands alone between two neighbours that white space
would part; `comment` and `blank` say what stands between `before` and the tokens. -/
def jointAfter (square : Bool) (before : Side) (comment blank : Bool) : List Token → Bool
  | [] => false
  | t :: rest =>
    if t.isBlank then
      jointAfter square before (comment || isComment t) (blank || !isComment t) rest
    else
      (comment && !blank && tells square before (side t)) || holdsJoint t ||
        jointAfter square (side t) false false rest

end

/-- Whether a comment stands alone between two tokens of a selector list that white space would
part. -/
def commentJoins (ts : List Token) : Bool := jointAfter false .mark false false ts

theorem sides_of_tells {square : Bool} {a b : Side} (h : tells square a b = true) :
    a ≠ .mark ∧ b ≠ .mark := by
  simp only [tells, Bool.and_eq_true, decide_eq_true_eq] at h
  exact h.1

/-- No token reads as white space does. -/
theorem sign_ne_gap {t : Token} (parting square : Bool) (hblank : t.isBlank = false)
    (hside : side t ≠ .mark) : sign parting t ≠ gap square := by
  cases t with
  | leaf p l =>
    have hl : Sign.ofText? (Serialize.leaf l) = none := by
      rw [← Option.not_isSome_iff_eq_none]
      exact fun h => hside (if_pos h)
    rw [sign, Sign.ofLeaf, hl, gap]
    cases square with
    | false => exact Sign.noConfusion
    | true =>
      rintro h
      cases Sign.simple.inj h
      cases hblank
  | block p b content closed => cases b <;> cases square <;> simp [sign, gap]
  | function p n arguments closed => cases square <;> simp [sign, gap]

mutual

theorem sign_parting : ∀ t : Token, sign true t = sign false t ↔ holdsJoint t = false
  | .leaf .. => ⟨fun _ => rfl, fun _ => rfl⟩
  | .block _ .curly _ _ => ⟨fun _ => rfl, fun _ => rfl⟩
  | .block _ .paren content _ => by
    have ih := signsAfter_parting content false .mark false false
    simpa [sign, holdsJoint] using ih
  | .block _ .square content _ => by
    have ih := signsAfter_parting content true .mark false false
    simpa [sign, holdsJoint] using ih
  | .function _ n arguments _ => by
    have ih := signsAfter_parting arguments false .mark false false
    simpa [sign, holdsJoint] using ih

theorem signsAfter_parting : ∀ (ts : List Token) (square : Bool) (before : Side)
    (comment blank : Bool),
    signsAfter true square before (comment || blank) ts = signsAfter false square before blank ts ↔
      jointAfter square before comment blank ts = false
  | [], _, _, _, _ => ⟨fun _ => rfl, fun _ => rfl⟩
  | t :: rest, square, before, comment, blank => by
    rw [signsAfter, signsAfter, jointAfter]
    cases hblank : t.isBlank with
    | true =>
      have ih := signsAfter_parting rest square before (comment || isComment t)
        (blank || !isComment t)
      cases hcomment : isComment t <;> simpa [hcomment] using ih
    | false =>
      have ih := signsAfter_parting rest square (side t) false false
      have ihead := sign_parting t
      cases htells : tells square before (side t) with
      | false => simpa using and_congr ihead ih
      | true =>
        -- At a joint one reading has white space where the other has the token itself.
        have hgap := sign_ne_gap false square hblank (sides_of_tells htells).2
        cases blank with
        | true => simpa using and_congr ihead ih
        | false =>
          cases comment with
          | true => simpa using fun h => absurd h.symm hgap
          | false => simpa using and_congr ihead ih

end

theorem partedSigns_eq_iff (ts : List Token) :
    partedSigns ts = signs ts ↔ commentJoins ts = false :=
  signsAfter_parting ts false .mark false false

end StylePrune.Selectors
