import StylePrune.Options
import StylePrune.Proofs.Extractor.Isolation
import StylePrune.Proofs.Scan.Plain

/-!
# Scans of texts

A scan of a text has its classes and the places of each in order (`ordered_scanText`). Its patterns
are known by their written form (`plain_scanText`), unless an extractor gives a pattern that was
compiled with flags which its written form leaves out.
-/

namespace StylePrune

open Outcome (bind_eq_ok mapError_eq_ok map_eq_ok)

/-- An extractor that gives no patterns but plain ones, beside patterns as text. -/
def Extractor.GivesPlain (e : Extractor) : Prop :=
  ∀ context r items, e.attempt context = .ok (some r) → r.dynamicPatterns.itemsOrNone = .ok items →
    ∀ p, .pattern p ∈ items → p.Plain

namespace Extractor

variable {context : Context} {label : Option String} {e : Extractor} {scan : Scan}

theorem plain_patternEntry {items : List Value} (h : ∀ p, .pattern p ∈ items → p.Plain)
    (p : Regex.Pattern) (hp : .pattern p ∈ items.map patternEntry) : p.Plain := by
  obtain ⟨v, hv, heq⟩ := List.mem_map.1 hp
  cases v with
  | pattern q =>
    obtain rfl := PatternEntry.pattern.inj heq
    exact h q hv
  | data d =>
    rw [patternEntry] at heq
    split at heq <;> cases heq
  | _ => cases heq

theorem patterns_addFound (found : Option (List Char × Nat)) (scan : Scan) :
    (addFound label scan found).dynamicPatterns = scan.dynamicPatterns := by
  cases found with
  | none => rfl
  | some found =>
    obtain ⟨text, line⟩ := found
    rw [addFound]
    induction tokenizeClassList text generalizing scan with
    | nil => rfl
    | cons token rest ih => exact ih (scan.addClass token _)

theorem Reading.patterns_addTo (reading : Reading) (name : String) (scan : Scan) :
    (reading.addTo name label scan).dynamicPatterns = scan.dynamicPatterns ++ reading.patterns := by
  have hfolded : ∀ (entries : List (Option (List Char × Nat))) (scan : Scan),
      (entries.foldl (addFound label) scan).dynamicPatterns = scan.dynamicPatterns := by
    intro entries
    induction entries with
    | nil => exact fun _ => rfl
    | cons entry rest ih => exact fun scan => (ih _).trans (patterns_addFound entry scan)
  exact congrArg (· ++ reading.patterns) (hfolded reading.entries _)

theorem plain_contribution (he : e.GivesPlain) (h : contribution context label e = .ok scan) :
    ∀ p ∈ scan.dynamicPatterns, p.Plain := by
  rw [contribution] at h
  split at h
  · cases h
    exact fun _ hp => (List.not_mem_nil hp).elim
  · cases h
    exact fun _ hp => (List.not_mem_nil hp).elim
  · rename_i r hr
    rw [applyResult_eq] at h
    obtain ⟨reading, hread, rfl⟩ := map_eq_ok.1 h
    simp only [Result.read, bind_eq_ok, mapError_eq_ok] at hread
    obtain ⟨_, -, _, -, _, -, _, -, items, hitems, patterns, hpatterns, heq⟩ := hread
    obtain rfl := Except.ok.inj heq
    rw [Reading.patterns_addTo]
    exact plain_of_readPatterns (plain_patternEntry (he context r items hr hitems)) hpatterns

theorem ordered_run {es : List Extractor} {content cwd : String}
    (h : run es content label cwd = .ok scan) : scan.Ordered := by
  rw [run_eq] at h
  obtain ⟨scans, -, rfl⟩ := map_eq_ok.1 h
  have hfolded : (scans.foldl Scan.merge {}).Ordered := Scan.ordered_foldl Scan.Ordered.empty
  exact ⟨hfolded.classes, hfolded.origins⟩

theorem plain_run {es : List Extractor} {content cwd : String} (hes : ∀ e ∈ es, e.GivesPlain)
    (h : run es content label cwd = .ok scan) : ∀ p ∈ scan.dynamicPatterns, p.Plain := by
  rw [run_eq] at h
  obtain ⟨scans, hscans, rfl⟩ := map_eq_ok.1 h
  intro p hp
  have hp := mem_dedupePatterns hp
  rw [Scan.patterns_foldl] at hp
  obtain ⟨s, hs, hp⟩ := List.mem_flatMap.1 ((List.mem_append.1 hp).resolve_left List.not_mem_nil)
  obtain ⟨e, he, hcontribution⟩ := Outcome.exists_of_mem_mapM hscans hs
  exact plain_contribution (hes e he) hcontribution p hp

end Extractor

section

variable {o : Options} {extractors : List Extractor} {content cwd : String} {label : Option String}
  {scan : Scan}

theorem ordered_scanText (h : scanText o extractors content label cwd = .ok scan) :
    scan.Ordered := by
  rw [scanText] at h
  split at h
  · obtain rfl := Except.ok.inj h
    exact (Content.wellFormed_scan ..).ordered
  · exact Extractor.ordered_run (mapError_eq_ok.1 h)

theorem plain_scanText (hextractors : ∀ e ∈ extractors, e.GivesPlain)
    (h : scanText o extractors content label cwd = .ok scan) :
    ∀ p ∈ scan.dynamicPatterns, p.Plain := by
  rw [scanText] at h
  split at h
  · obtain rfl := Except.ok.inj h
    exact fun p hp => Content.plain_of_isStart ((Content.wellFormed_scan ..).patterns p hp)
  · exact Extractor.plain_run hextractors (mapError_eq_ok.1 h)

end

end StylePrune
