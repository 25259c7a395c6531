import StylePrune.Proofs.Prune.Passes
import StylePrune.Proofs.Selectors.Spelling

/-!
# What the removed rules match

No class that a removed rule names counts as used (`unused_of_removed`). So in a document whose
classes all count, a selector of a removed rule matches just what it would match if no class test
ever held, and removal loses nothing for a selector that demands a class. A selector such as
`div:not(.x)` demands none: it matches elements without the class, and its rule is removed all the
same.
-/

namespace StylePrune.Prune

open Regex (Pattern)
open Css (Sheet Rule Token)
open Selectors (Simple Selector ListSpelled Element ElementTree Spot Meaning In never blanks_nil
  comments_nil)

theorem selectorUsed_eq_false {u : Usage} {ts : List Token} :
    selectorUsed u ts = false ↔
      Css.classNames ts ≠ [] ∧ ∀ name ∈ Css.classNames ts, u.uses name = false := by
  rw [selectorUsed]
  simp

/-- No class of a selector counts when the rule is removed. -/
theorem unused_of_removed {u : Usage} {s : Sheet} {x : List Css.Enclosing × Rule}
    (hx : x ∈ s.placed) (hr : x ∉ (sheet u s).placed) {ts : List Token} (hts : ts ∈ x.2.selectors) :
    ∀ name ∈ Css.classNames ts, u.uses name = false := by
  rw [placed_sheet, List.mem_filter, not_and] at hr
  have hk : keeps u x.2 = false := by simpa using hr hx
  rw [keeps, Bool.or_eq_false_iff, List.any_eq_false] at hk
  have hs : selectorUsed u ts = false := by simpa using hk.2 ts hts
  exact (selectorUsed_eq_false.1 hs).2

/-- In a document whose classes all count, a selector of a removed rule matches as if no element had
a class, and nothing at all if it demands one. -/
theorem removed_matches_never {css : String} {scan : Scan} {options : PruneOptions}
    {safelist : List Pattern} {s : Sheet}
    (hp : readPatterns options.safelistPatterns = .ok safelist)
    (hs : Css.read css.toList = .ok s) :
    ∃ u, usageOf scan options = .ok u ∧
      pruneCss css scan options = pruneSheet u options.minify css.utf8ByteSize s ∧
      ∀ x ∈ s.placed, x ∉ (sheet u s).placed →
      ∀ ts ∈ x.2.selectors, ∀ c : Selector, ListSpelled [c] ts →
      ∀ (m : Meaning) (doc : ElementTree),
        (∀ e ∈ doc.elements, ∀ name ∈ e.classes, Counts scan options safelist name) →
        ∀ spot, In doc spot →
          (c.Matches m Element.Carries spot ↔ c.Matches m never spot) ∧
          (c.demands = true → ¬ c.Matches m Element.Carries spot) := by
  obtain ⟨u, hu⟩ : ∃ u, usageOf scan options = .ok u := ⟨_, usageOf_eq hp⟩
  refine ⟨u, hu, pruneCss_eq hu hs, fun x hx hr ts hts c hc m doc hdoc spot hspot => ?_⟩
  have unused : ∀ name ∈ c.names, ¬ Counts scan options safelist name := fun name hn => by
    have hnames : Css.classNames ts = c.names := by
      have := hc.naming.eq
      rwa [Selectors.namesOfList, Selectors.namesOfList, List.append_nil] at this
    rw [← uses_iff hp hu, unused_of_removed hx hr hts name (hnames ▸ hn)]
    exact Bool.false_ne_true
  have agree : Selectors.AgreeOn doc Element.Carries never c.names := fun e he name hn =>
    iff_of_false (fun h => unused name hn (hdoc e he name h)) id
  have same := c.matches_congr (m := m) agree spot hspot
  exact ⟨same, fun hd hm => (c.matches_never spot).1 hd (same.1 hm)⟩

/-- A rule goes if it declares no custom property and none of its selectors is used. -/
theorem keeps_eq_false {u : Usage} {r : Rule} (hd : Css.declaresCustomProperty r.content = false)
    (hs : r.selectors.any (selectorUsed u) = false) : keeps u r = false := by
  rw [keeps, declaresRootProperties, hd, hs, Bool.and_false, Bool.or_false]

theorem removed_of_unkept {u : Usage} {s : Sheet} {x : List Css.Enclosing × Rule}
    (h : keeps u x.2 = false) : x ∉ (sheet u s).placed := by
  rw [placed_sheet, List.mem_filter, h]
  exact fun hx => Bool.false_ne_true hx.2

/-- Types are told apart by their names; no other test holds. -/
def byType : Meaning := ⟨fun name e => e.type = name, fun _ _ => False, fun _ _ => False⟩

/-- A document of one element without classes. -/
def lone (type : Text) : ElementTree := .node ⟨type, [], []⟩ []

theorem lone_classes (type : Text) {P : Text → Prop} :
    ∀ e ∈ (lone type).elements, ∀ name ∈ e.classes, P name := fun e he name hn => by
  rw [lone, ElementTree.elements, Selectors.elementsOf] at he
  rw [List.mem_singleton.1 he] at hn
  cases hn

/-- The tokens of `.x p`. -/
def belowX : List Token :=
  [.leaf ⟨1, 1⟩ (.literal ['.']), .leaf ⟨1, 2⟩ (.ident (Text.ofString "x")),
    .leaf ⟨1, 3⟩ (.whitespace [' ']), .leaf ⟨1, 4⟩ (.ident (Text.ofString "p"))]

/-- A class that is demanded of an ancestor. -/
theorem removed_matches_never_below :
    readPatterns [] = .ok [] ∧
    ∃ s u, Css.read ".x p{}".toList = .ok s ∧ usageOf {} {} = .ok u ∧
      ∃ c : Selector, ListSpelled [c] belowX ∧
        ¬ c.Matches byType Element.Carries (.top (lone (Text.ofString "p"))) := by
  have read : Css.read ".x p{}".toList = .ok [.rule ⟨belowX, []⟩] := by with_unfolding_all rfl
  have spelled : ListSpelled
      [.combined (.compound [.cls (Text.ofString "x")]) .descendant [.type (Text.ofString "p")]]
      belowX :=
    .single (.combined (.compound (.one .cls)) (.descendant blanks_nil blanks_nil) (.one .type))
  obtain ⟨u, hu, -, h⟩ := @removed_matches_never _ {} {} [] _ rfl read
  obtain rfl := Except.ok.inj hu
  have unkept : keeps ⟨[], []⟩ ⟨belowX, []⟩ = false := keeps_eq_false rfl (by decide +kernel)
  refine ⟨rfl, _, _, read, hu, _, spelled, ?_⟩
  have hts : belowX ∈ Rule.selectors ⟨belowX, []⟩ := by
    rw [show Rule.selectors ⟨belowX, []⟩ = [belowX] from rfl]
    exact .head _
  exact (h ([], ⟨belowX, []⟩) (.head _) (removed_of_unkept unkept) belowX hts _ spelled byType _
    (lone_classes _) _ .top).2 rfl

/-- The tokens of `div:not(.x)`. -/
def divNotX : List Token :=
  [.leaf ⟨1, 1⟩ (.ident (Text.ofString "div")), .leaf ⟨1, 4⟩ (.literal [':']),
    .function ⟨1, 5⟩ (Text.ofString "not")
      [.leaf ⟨1, 9⟩ (.literal ['.']), .leaf ⟨1, 10⟩ (.ident (Text.ofString "x"))] true]

def colorRed : List Token :=
  [.leaf ⟨1, 13⟩ (.ident (Text.ofString "color")), .leaf ⟨1, 18⟩ (.literal [':']),
    .leaf ⟨1, 19⟩ (.ident (Text.ofString "red"))]

/-- A rule is removed whose selector matches an element without classes. -/
theorem removed_negation :
    ∃ (s : Sheet) (x : List Css.Enclosing × Rule) (ts : List Token) (c : Selector)
      (doc : ElementTree) (spot : Spot),
      Css.read "div:not(.x){color:red}".toList = .ok s ∧ usageOf {} {} = .ok ⟨[], []⟩ ∧
      x ∈ s.placed ∧ x ∉ (sheet ⟨[], []⟩ s).placed ∧ ts ∈ x.2.selectors ∧ ListSpelled [c] ts ∧
      (∀ e ∈ doc.elements, ∀ name ∈ e.classes, Counts {} {} [] name) ∧ In doc spot ∧
      c.Matches byType Element.Carries spot := by
  have read : Css.read "div:not(.x){color:red}".toList = .ok [.rule ⟨divNotX, colorRed⟩] := by
    with_unfolding_all rfl
  have spelled : ListSpelled
      [.compound [.type (Text.ofString "div"), .none [.compound [.cls (Text.ofString "x")]]]]
      divNotX :=
    .single (.compound (.cons .type
      (.one (.none (by decide +kernel) comments_nil (.single (.compound (.one .cls)))))))
  have unkept : keeps ⟨[], []⟩ ⟨divNotX, colorRed⟩ = false :=
    keeps_eq_false (by decide +kernel) (by decide +kernel)
  refine ⟨_, ([], ⟨divNotX, colorRed⟩), divNotX, _, lone (Text.ofString "div"), .top (lone _), read,
    rfl, .head _, removed_of_unkept unkept, ?_, spelled, lone_classes _, .top, ?_⟩
  · rw [show Rule.selectors ⟨divNotX, colorRed⟩ = [divNotX] from rfl]
    exact .head _
  · simp [Selector.Matches, Selectors.AllMatch, Simple.Matches, Selectors.SomeMatches, byType, lone,
      Spot.element, Spot.tree, ElementTree.element, Element.Carries]

end StylePrune.Prune
