import StylePrune.Text.Point

/-!
# Documents

A document is a tree of elements. A `Spot` is a place in one, with what a combinator may look at:
the elements before it under the same parent and the spot of that parent. What a combinator reaches
from a place of a document is again a place of it (`In.reach`), and the element there is one of its
elements (`In.element`).
-/

namespace StylePrune.Selectors

/-- What the simple selectors tell elements apart by, but for their place. -/
structure Element where
  type : Text
  classes : List Text
  attributes : List (Text × Text)

inductive ElementTree where
  | node (element : Element) (children : List ElementTree)

namespace ElementTree

def element : ElementTree → Element
  | node e _ => e

def children : ElementTree → List ElementTree
  | node _ ts => ts

end ElementTree

mutual

/-- The elements of a tree in document order. -/
def ElementTree.elements : ElementTree → List Element
  | .node e children => e :: elementsOf children

def elementsOf : List ElementTree → List Element
  | [] => []
  | t :: rest => t.elements ++ elementsOf rest

end

/-- A place in a document: its top, or a place under another one. The elements before it there are
held nearest first. -/
inductive Spot where
  | top (tree : ElementTree)
  | under (parent : Spot) (before : List ElementTree) (tree : ElementTree)

namespace Spot

def tree : Spot → ElementTree
  | top t | under _ _ t => t

def element (s : Spot) : Element := s.tree.element

/-- The places around a place, from the inside out. -/
def ancestors : Spot → List Spot
  | top _ => []
  | under p _ _ => p :: p.ancestors

/-- The places of some elements before a place, nearest first. -/
def beside (parent : Spot) : List ElementTree → List Spot
  | [] => []
  | t :: before => under parent before t :: beside parent before

def earlier : Spot → List Spot
  | top _ => []
  | under p before _ => p.beside before

end Spot

inductive Combinator where
  | descendant
  | child
  | next
  | subsequent

/-- The places that a combinator looks at from the place to its right. -/
def Combinator.reach : Combinator → Spot → List Spot
  | descendant, s => s.ancestors
  | child, s => s.ancestors.take 1
  | next, s => s.earlier.take 1
  | subsequent, s => s.earlier

/-- The places of a document. -/
inductive In (doc : ElementTree) : Spot → Prop
  | top : In doc (.top doc)
  | under {p before t after} (parent : In doc p)
      (split : p.tree.children = before.reverse ++ t :: after) : In doc (.under p before t)

variable {doc : ElementTree}

theorem In.ancestors : ∀ {s : Spot}, In doc s → ∀ a ∈ s.ancestors, In doc a
  | .top _, _, a, ha => by cases ha
  | .under p _ _, .under hp _, a, ha => by
    rcases List.mem_cons.1 ha with rfl | ha
    · exact hp
    · exact hp.ancestors a ha

theorem In.beside {p : Spot} (hp : In doc p) : ∀ (before : List ElementTree) (t : ElementTree)
    (after : List ElementTree), p.tree.children = before.reverse ++ t :: after →
      ∀ b ∈ p.beside before, In doc b
  | [], _, _, _, b, hb => by cases hb
  | u :: before, t, after, h, b, hb => by
    have split : p.tree.children = before.reverse ++ u :: t :: after := by simpa using h
    rcases List.mem_cons.1 hb with rfl | hb
    · exact .under hp split
    · exact hp.beside before u (t :: after) split b hb

/-- A combinator does not leave the document. -/
theorem In.reach {s : Spot} (hs : In doc s) (k : Combinator) : ∀ a ∈ k.reach s, In doc a := by
  have earlier : ∀ b ∈ s.earlier, In doc b := by
    cases hs with
    | top => exact fun _ hb => by cases hb
    | under hp split => exact hp.beside _ _ _ split
  cases k with
  | descendant => exact hs.ancestors
  | child => exact fun a ha => hs.ancestors a (List.mem_of_mem_take ha)
  | next => exact fun b hb => earlier b (List.mem_of_mem_take hb)
  | subsequent => exact earlier

theorem elements_of_mem {t : ElementTree} : ∀ {ts : List ElementTree}, t ∈ ts →
    ∀ e ∈ t.elements, e ∈ elementsOf ts
  | u :: rest, h, e, he => by
    rw [elementsOf, List.mem_append]
    rcases List.mem_cons.1 h with rfl | h
    · exact .inl he
    · exact .inr (elements_of_mem h e he)

theorem ElementTree.elements_children : ∀ t : ElementTree, ∀ e ∈ elementsOf t.children,
    e ∈ t.elements
  | .node _ _, _, he => .tail _ he

theorem ElementTree.element_mem : ∀ t : ElementTree, t.element ∈ t.elements
  | .node _ _ => .head _

theorem In.elements {s : Spot} (hs : In doc s) : ∀ e ∈ s.tree.elements, e ∈ doc.elements := by
  induction hs with
  | top => exact fun _ he => he
  | under _ split ih =>
    refine fun e he => ih e (ElementTree.elements_children _ e (elements_of_mem ?_ e he))
    rw [split]
    exact List.mem_append_right _ (.head _)

/-- The element at a place of a document is one of its elements. -/
theorem In.element {s : Spot} (hs : In doc s) : s.element ∈ doc.elements :=
  hs.elements _ (ElementTree.element_mem _)

end StylePrune.Selectors
