import StylePrune.Proofs.Prune.ClassLists
import StylePrune.Proofs.Text.Words

/-!
# Names on the safelist

An entry of the safelist is read as a class list. A name on it counts as used if it is a class token
(`counts_of_safelisted`), and then every rule that names it stays; a name that is no token, such as
one with a bracket in it, is dropped, and no safelist makes it count (`counts_iff_of_not_token`).
-/

namespace StylePrune.Prune

open Regex (Pattern)
open Css (Sheet Rule)

theorem ofString_injective {a b : String} (h : Text.ofString a = Text.ofString b) : a = b := by
  refine String.toList_injective ?_
  exact (List.map_inj_right fun _ _ hc => Point.char.inj hc).1 h

section

variable {scan : Scan} {options : PruneOptions} {safelist : List Pattern} {name : String}

/-- A token on the safelist counts. -/
theorem counts_of_safelisted (hm : name ∈ options.safelist)
    (ht : ClassList.isToken name.toList = true) :
    Counts scan options safelist (Text.ofString name) :=
  .inr (.inl ⟨name, hm, name, mem_own_tokens.2 ht, rfl⟩)

/-- No safelist makes a name count that is no token. -/
theorem counts_iff_of_not_token (ht : ClassList.isToken name.toList = false) :
    Counts scan options safelist (Text.ofString name) ↔
      name ∈ scan.classes ∨
        ∃ p ∈ scan.dynamicPatterns ++ safelist, (p.find? (Text.ofString name).codes).isSome := by
  constructor
  · rintro (⟨c, hc, he⟩ | ⟨entry, -, c, hc, he⟩ | h)
    · exact .inl (ofString_injective he ▸ hc)
    · rw [ofString_injective he] at hc
      rw [isToken_of_mem hc] at ht
      cases ht
    · exact .inr h
  · rintro (h | h)
    · exact .inl ⟨name, h, rfl⟩
    · exact .inr (.inr h)

/-- A name on the safelist that is a token keeps every rule that names it, in its place, and is a
kept class of every style sheet that names it; one that is no token counts as used only if the scan
found it or a pattern matches it. -/
theorem safelisted_classes (hm : name ∈ options.safelist)
    (hp : readPatterns options.safelistPatterns = .ok safelist) :
    (ClassList.isToken name.toList = true → ∃ u, usageOf scan options = .ok u ∧
      ∀ (css : String) s, Css.read css.toList = .ok s →
        ((passed u s).placed.filter fun x => x.2.classNames.contains (Text.ofString name)) =
          s.placed.filter (fun x => x.2.classNames.contains (Text.ofString name)) ∧
        ∀ result, pruneCss css scan options = .ok result →
          (Text.ofString name ∈ result.keptClasses ↔ Named s (Text.ofString name))) ∧
    (ClassList.isToken name.toList = false →
      (Counts scan options safelist (Text.ofString name) ↔ name ∈ scan.classes ∨
        ∃ p ∈ scan.dynamicPatterns ++ safelist, (p.find? (Text.ofString name).codes).isSome)) := by
  refine ⟨fun ht => ?_, counts_iff_of_not_token⟩
  obtain ⟨u, hu⟩ : ∃ u, usageOf scan options = .ok u := ⟨_, usageOf_eq hp⟩
  have hc : Counts scan options safelist (Text.ofString name) := counts_of_safelisted hm ht
  refine ⟨u, hu, fun css s hs => ⟨?_, fun result hr => ?_⟩⟩
  · rw [passed_eq]
    refine placed_filter (fun x hx => ?_) s
    exact (keeps_iff_counts hp hu x.2).2 (Stays.of_named (List.contains_iff_mem.1 hx) hc)
  · rw [pruneCss_eq hu hs] at hr
    obtain ⟨-, -, hkept, -⟩ := pruneSheet_ok hr
    rw [hkept, List.mem_filter, mem_classNamesOf hs, and_iff_left]
    exact (uses_iff hp hu _).2 hc

end

/-- A name with a colon, which stands behind a backslash in the style sheet. -/
theorem safelisted_classes_variant :
    "sm:grid" ∈ ["sm:grid"] ∧ readPatterns [] = .ok [] ∧
      ClassList.isToken "sm:grid".toList = true ∧
      ∃ s result, Css.read ".sm\\:grid{}.x{}".toList = .ok s ∧
        pruneCss ".sm\\:grid{}.x{}" {} { safelist := ["sm:grid"] } = .ok result ∧
        (Text.ofString "sm:grid" ∈ result.keptClasses ↔ Named s (Text.ofString "sm:grid")) ∧
        result.keptClasses = [Text.ofString "sm:grid"] := by
  have ht : ClassList.isToken "sm:grid".toList = true := by decide +kernel
  have ok : (Css.read ".sm\\:grid{}.x{}".toList).isOk = true := by decide +kernel
  have kept : (pruneCss ".sm\\:grid{}.x{}" {} { safelist := ["sm:grid"] }).toOption.map
      (·.keptClasses) = some [Text.ofString "sm:grid"] := by decide +kernel
  refine ⟨.head _, rfl, ht, ?_⟩
  obtain ⟨u, -, h⟩ := (@safelisted_classes {} { safelist := ["sm:grid"] } [] "sm:grid"
    (.head _) rfl).1 ht
  cases hs : Css.read ".sm\\:grid{}.x{}".toList with
  | error e => rw [hs] at ok; cases ok
  | ok s =>
    cases hr : pruneCss ".sm\\:grid{}.x{}" {} { safelist := ["sm:grid"] } with
    | error e => rw [hr] at kept; cases kept
    | ok result =>
      rw [hr] at kept
      exact ⟨s, result, rfl, rfl, (h _ s hs).2 result hr, Option.some.inj kept⟩

/-- A name with brackets on the safelist does not keep the rule that names it. -/
theorem safelisted_bracket_lost :
    ∃ s result, Css.read ".w-\\[10px\\]{}".toList = .ok s ∧
      Named s (Text.ofString "w-[10px]") ∧
      pruneCss ".w-\\[10px\\]{}" {} { safelist := ["w-[10px]"] } = .ok result ∧
      result.keptClasses = [] ∧ result.css = "" := by
  have named : (match Css.read ".w-\\[10px\\]{}".toList with
      | .ok s => s.placed.any fun x => x.2.classNames.contains (Text.ofString "w-[10px]")
      | .error _ => false) = true := by decide +kernel
  have lost : (pruneCss ".w-\\[10px\\]{}" {} { safelist := ["w-[10px]"] }).toOption.map
      (fun result => (result.keptClasses, result.css)) = some ([], "") := by decide +kernel
  cases hs : Css.read ".w-\\[10px\\]{}".toList with
  | error e => rw [hs] at named; cases named
  | ok s =>
    rw [hs] at named
    obtain ⟨x, hx, hn⟩ := List.any_eq_true.1 named
    cases hr : pruneCss ".w-\\[10px\\]{}" {} { safelist := ["w-[10px]"] } with
    | error e => rw [hr] at lost; cases lost
    | ok result =>
      rw [hr] at lost
      obtain ⟨hkept, hcss⟩ := Prod.mk.inj (Option.some.inj lost)
      exact ⟨s, result, rfl, ⟨x, hx, List.contains_iff_mem.1 hn⟩, rfl, hkept, hcss⟩

end StylePrune.Prune
