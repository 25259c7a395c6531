import StylePrune.Css.Token
import StylePrune.Proofs.Selectors.Document

/-!
# What selectors match

Selectors as trees, with the places of a document that they match. A class test is given from
outside (`carries`), so that matching can be compared under two of them: it depends on the test only
for the classes that the selector names (`Selector.matches_congr`). With a test that always fails, a
selector that `demands` a class matches nothing, and one that is `assured` matches everywhere
(`Selector.matches_never`).
-/

namespace StylePrune.Selectors

open Css (Token)

mutual

/-- A simple selector. `any` is `:is()` or `:where()`, `none` is `:not()`. -/
inductive Simple where
  | type (name : Text)
  | universal
  | cls (name : Text)
  | attr (content : List Token)
  | other (tokens : List Token)
  | any (list : List Selector)
  | none (list : List Selector)

/-- Compound selectors with a combinator between each two. -/
inductive Selector where
  | compound (parts : List Simple)
  | combined (left : Selector) (combinator : Combinator) (parts : List Simple)

end

/-- What the selectors that name no class test. -/
structure Meaning where
  type : Text → Element → Prop
  attr : List Token → Element → Prop
  other : List Token → Spot → Prop

/-- An element carries a class. -/
def Element.Carries (e : Element) (name : Text) : Prop := name ∈ e.classes

mutual

def Simple.Matches (m : Meaning) (carries : Element → Text → Prop) : Simple → Spot → Prop
  | .type name, s => m.type name s.element
  | .universal, _ => True
  | .cls name, s => carries s.element name
  | .attr content, s => m.attr content s.element
  | .other tokens, s => m.other tokens s
  | .any list, s => SomeMatches m carries list s
  | .none list, s => ¬ SomeMatches m carries list s

/-- All simple selectors of a compound one match. -/
def AllMatch (m : Meaning) (carries : Element → Text → Prop) : List Simple → Spot → Prop
  | [], _ => True
  | p :: rest, s => p.Matches m carries s ∧ AllMatch m carries rest s

/-- The last compound selector matches here, and what is left of it where its combinator looks. -/
def Selector.Matches (m : Meaning) (carries : Element → Text → Prop) : Selector → Spot → Prop
  | .compound parts, s => AllMatch m carries parts s
  | .combined left k parts, s =>
    AllMatch m carries parts s ∧ ∃ a ∈ k.reach s, left.Matches m carries a

/-- A selector of a list matches. -/
def SomeMatches (m : Meaning) (carries : Element → Text → Prop) : List Selector → Spot → Prop
  | [], _ => False
  | c :: rest, s => c.Matches m carries s ∨ SomeMatches m carries rest s

end

mutual

/-- The classes that a selector names, in order. -/
def Simple.names : Simple → List Text
  | .cls name => [name]
  | .any list | .none list => namesOfList list
  | .type _ | .universal | .attr _ | .other _ => []

def namesOfParts : List Simple → List Text
  | [] => []
  | p :: rest => p.names ++ namesOfParts rest

def Selector.names : Selector → List Text
  | .compound parts => namesOfParts parts
  | .combined left _ parts => left.names ++ namesOfParts parts

def namesOfList : List Selector → List Text
  | [] => []
  | c :: rest => c.names ++ namesOfList rest

end

/-! ## Tests that agree -/

section Congr

variable {m : Meaning} {doc : ElementTree} {f g : Element → Text → Prop}

/-- Two class tests agree on the elements of a document for some names. -/
def AgreeOn (doc : ElementTree) (f g : Element → Text → Prop) (names : List Text) : Prop :=
  ∀ e ∈ doc.elements, ∀ name ∈ names, f e name ↔ g e name

theorem agreeOn_append {xs ys : List Text} :
    AgreeOn doc f g (xs ++ ys) ↔ AgreeOn doc f g xs ∧ AgreeOn doc f g ys := by
  simp only [AgreeOn, List.mem_append, or_imp, forall_and]

mutual

theorem Simple.matches_congr : ∀ (p : Simple), AgreeOn doc f g p.names → ∀ s, In doc s →
    (p.Matches m f s ↔ p.Matches m g s)
  | .type _, _, _, _ | .universal, _, _, _ | .attr _, _, _, _ | .other _, _, _, _ => by
    simp only [Simple.Matches]
  | .cls name, h, s, hs => by
    simpa only [Simple.Matches] using h s.element hs.element name (by simp [Simple.names])
  | .any list, h, s, hs => by
    rw [Simple.names] at h
    simpa only [Simple.Matches] using someMatches_congr list h s hs
  | .none list, h, s, hs => by
    rw [Simple.names] at h
    simpa only [Simple.Matches] using not_congr (someMatches_congr list h s hs)

theorem allMatch_congr : ∀ (parts : List Simple), AgreeOn doc f g (namesOfParts parts) → ∀ s,
    In doc s → (AllMatch m f parts s ↔ AllMatch m g parts s)
  | [], _, _, _ => by simp only [AllMatch]
  | p :: rest, h, s, hs => by
    rw [namesOfParts, agreeOn_append] at h
    rw [AllMatch, AllMatch]
    exact and_congr (p.matches_congr h.1 s hs) (allMatch_congr rest h.2 s hs)

/-- Matching depends on the class test only for the names that stand in the selector. -/
theorem Selector.matches_congr : ∀ (c : Selector), AgreeOn doc f g c.names → ∀ s, In doc s →
    (c.Matches m f s ↔ c.Matches m g s)
  | .compound parts, h, s, hs => by
    rw [Selector.names] at h
    simpa only [Selector.Matches] using allMatch_congr parts h s hs
  | .combined left k parts, h, s, hs => by
    rw [Selector.names, agreeOn_append] at h
    rw [Selector.Matches, Selector.Matches]
    refine and_congr (allMatch_congr parts h.2 s hs) ?_
    exact exists_congr fun a => and_congr_right fun ha => left.matches_congr h.1 a (hs.reach k a ha)

theorem someMatches_congr : ∀ (list : List Selector), AgreeOn doc f g (namesOfList list) → ∀ s,
    In doc s → (SomeMatches m f list s ↔ SomeMatches m g list s)
  | [], _, _, _ => by simp only [SomeMatches]
  | c :: rest, h, s, hs => by
    rw [namesOfList, agreeOn_append] at h
    rw [SomeMatches, SomeMatches]
    exact or_congr (c.matches_congr h.1 s hs) (someMatches_congr rest h.2 s hs)

end

end Congr

/-! ## A test that always fails -/

mutual

/-- Without classes the selector matches nothing, whatever it tests besides. -/
def Simple.demands : Simple → Bool
  | .cls _ => true
  | .any list => allDemand list
  | .none list => someAssured list
  | .type _ | .universal | .attr _ | .other _ => false

/-- Without classes the selector matches everything, whatever it tests besides. -/
def Simple.assured : Simple → Bool
  | .universal => true
  | .any list => someAssured list
  | .none list => allDemand list
  | .type _ | .cls _ | .attr _ | .other _ => false

def partsDemand : List Simple → Bool
  | [] => false
  | p :: rest => p.demands || partsDemand rest

def partsAssured : List Simple → Bool
  | [] => true
  | p :: rest => p.assured && partsAssured rest

def Selector.demands : Selector → Bool
  | .compound parts => partsDemand parts
  | .combined left _ parts => left.demands || partsDemand parts

def Selector.assured : Selector → Bool
  | .compound parts => partsAssured parts
  | .combined .. => false

def allDemand : List Selector → Bool
  | [] => true
  | c :: rest => c.demands && allDemand rest

def someAssured : List Selector → Bool
  | [] => false
  | c :: rest => c.assured || someAssured rest

end

/-- The class test that always fails. -/
def never : Element → Text → Prop := fun _ _ => False

section Never

variable {m : Meaning}

mutual

theorem Simple.matches_never : ∀ (p : Simple) (s : Spot),
    (p.demands = true → ¬ p.Matches m never s) ∧ (p.assured = true → p.Matches m never s)
  | .type _, _ | .attr _, _ | .other _, _ => by simp [Simple.demands, Simple.assured]
  | .universal, _ => by simp [Simple.demands, Simple.Matches]
  | .cls _, _ => by simp [Simple.assured, Simple.Matches, never]
  | .any list, s => by
    rw [Simple.demands, Simple.assured, Simple.Matches]
    exact ⟨(someMatches_never list s).1, (someMatches_never list s).2⟩
  | .none list, s => by
    rw [Simple.demands, Simple.assured, Simple.Matches]
    exact ⟨fun h => not_not_intro ((someMatches_never list s).2 h), (someMatches_never list s).1⟩

theorem allMatch_never : ∀ (parts : List Simple) (s : Spot),
    (partsDemand parts = true → ¬ AllMatch m never parts s) ∧
      (partsAssured parts = true → AllMatch m never parts s)
  | [], _ => by simp [partsDemand, AllMatch]
  | p :: rest, s => by
    have hp := p.matches_never s
    have hrest := allMatch_never rest s
    rw [partsDemand, partsAssured, AllMatch, Bool.or_eq_true, Bool.and_eq_true]
    exact ⟨fun h hm => h.elim (fun h => hp.1 h hm.1) fun h => hrest.1 h hm.2,
      fun h => ⟨hp.2 h.1, hrest.2 h.2⟩⟩

theorem Selector.matches_never : ∀ (c : Selector) (s : Spot),
    (c.demands = true → ¬ c.Matches m never s) ∧ (c.assured = true → c.Matches m never s)
  | .compound parts, s => by
    rw [Selector.demands, Selector.assured, Selector.Matches]
    exact allMatch_never parts s
  | .combined left k parts, s => by
    rw [Selector.demands, Selector.assured, Selector.Matches, Bool.or_eq_true]
    refine ⟨fun h ⟨hparts, a, _, hleft⟩ => ?_, fun h => by cases h⟩
    exact h.elim (fun h => (left.matches_never a).1 h hleft) fun h =>
      (allMatch_never parts s).1 h hparts

theorem someMatches_never : ∀ (list : List Selector) (s : Spot),
    (allDemand list = true → ¬ SomeMatches m never list s) ∧
      (someAssured list = true → SomeMatches m never list s)
  | [], _ => by simp [someAssured, SomeMatches]
  | c :: rest, s => by
    have hc := c.matches_never s
    have hrest := someMatches_never rest s
    rw [allDemand, someAssured, SomeMatches, Bool.and_eq_true, Bool.or_eq_true]
    exact ⟨fun h hm => hm.elim (hc.1 h.1) (hrest.1 h.2),
      fun h => h.imp hc.2 hrest.2⟩

end

end Never

end StylePrune.Selectors
