import StylePrune.Proofs.Css.Escapes
import StylePrune.Proofs.Prune.ClassLists

/-!
# When pruning answers

Pruning goes through patterns, text, class names and output, and each may refuse. The patterns are
read if every entry is (`isOk_readPatterns`), a text without long numbers is read or given back, and
a text whose escapes name no surrogate is written again (`isPlain_written_sheet`). What is left are
matches of patterns with their groups out of order (`Usage.Answers`), so all four together decide
whether there is a result (`pruneCss_answers`).
-/

namespace StylePrune

open Regex (Pattern PatternError)
open Css (Sheet)
open Css.Lexer (PlainEscapes ShortNumbers)

/-! ## Patterns -/

/-- An entry that is used or dropped: a text that is blank, a pattern, or refused for its syntax. -/
def PatternEntry.isReadable : PatternEntry → Bool
  | .text value =>
    (trimChars value.toList).isEmpty ||
      match PatternEntry.read (trimChars value.toList) with
      | .ok _ | .error (.malformed ..) => true
      | .error _ => false
  | .pattern _ | .other _ => true

/-- Patterns are read just if every entry is. -/
theorem isOk_readPatterns : ∀ entries : List PatternEntry,
    (readPatterns entries).isOk = entries.all PatternEntry.isReadable
  | [] => rfl
  | entry :: rest => by
    have ih := isOk_readPatterns rest
    have hmap : ∀ p : Pattern, ((readPatterns rest).map (p :: ·)).isOk =
        rest.all PatternEntry.isReadable := fun p => by
      rw [← ih]
      cases readPatterns rest <;> rfl
    rw [List.all_cons]
    cases entry with
    | pattern p => exact hmap p
    | other value => exact ih
    | text text =>
      rw [readPatterns, PatternEntry.isReadable]
      split
      · rename_i hblank
        rw [hblank, ih]
        rfl
      · rename_i hblank
        rw [Bool.not_eq_true] at hblank
        rw [hblank, Bool.false_or]
        cases PatternEntry.read (trimChars text.toList) with
        | ok p => exact hmap p
        | error e =>
          cases e with
          | malformed message position => exact ih
          | _ => rfl

/-! ## Classes -/

namespace Usage

/-- It can be said whether a class is used: it is named, or the match that decides has its groups in
order. -/
def Answers (u : Usage) (name : Text) : Prop :=
  (∃ n ∈ u.names, Text.ofString n = name) ∨
    ∀ m, firstMatch? name.codes u.patterns = some m → m.ordered = true

theorem answers_iff {u : Usage} {name : Text} : u.Answers name ↔ u.fault? name = none := by
  have hnamed : (u.names.any fun n => Text.ofString n = name) = true ↔
      ∃ n ∈ u.names, Text.ofString n = name := by simp
  rw [Answers, fault?, ← hnamed, checkedMatch]
  split
  · exact iff_of_true (.inl ‹_›) rfl
  · rename_i hnot
    rw [or_iff_right hnot]
    cases firstMatch? name.codes u.patterns with
    | none => exact iff_of_true (fun m h => by cases h) rfl
    | some m =>
      dsimp only
      cases hm : m.ordered with
      | true =>
        refine iff_of_true (fun other h => ?_) rfl
        rw [← Option.some.inj h, hm]
      | false =>
        refine iff_of_false (fun h => ?_) fun h => by cases h
        rw [h m rfl] at hm
        cases hm

end Usage

namespace Prune

/-! ## Output -/

/-- What is left of a plain style sheet is written as plain text. -/
theorem isPlain_written_sheet (u : Usage) (minify : Bool) {s : Sheet}
    (h : Css.Sheet.isPlain s = true) : (Css.written minify (sheet u s)).isPlain = true := by
  refine Css.isPlain_written_of_plain minify ?_
  exact Css.isPlain_removeWhere _ _ false (Css.isPlain_removeWhere _ s false h)

end Prune

/-! ## Results -/

section

variable {css : String} {scan : Scan} {options : PruneOptions}

/-- The patterns of a safelist decide whether it can be said what counts as used. -/
theorem isOk_usageOf : (usageOf scan options).isOk =
    options.safelistPatterns.all PatternEntry.isReadable := by
  rw [← isOk_readPatterns, usageOf]
  cases readPatterns options.safelistPatterns <;> rfl

/-- A text that is no style sheet is given back as it is. -/
theorem pruneCss_broken {u : Usage} {e : Css.SyntaxError} (hu : usageOf scan options = .ok u)
    (he : Css.read css.toList = .error (.broken e)) : pruneCss css scan options =
      .ok ⟨css, ⟨0, 0, 0, css.utf8ByteSize, css.utf8ByteSize⟩, [], [], false⟩ := by
  rw [pruneCss, hu, he]

/-- A text whose escapes name no surrogate and whose numbers are not too long is pruned just if the
patterns of the safelist are all read or dropped and it can be said of every class that it names
whether it is used. A text that is no style sheet is given back as it is. -/
theorem pruneCss_answers (hescapes : PlainEscapes css.toList) (hnumbers : ShortNumbers css.toList) :
    ((∃ result, pruneCss css scan options = .ok result) ↔
      (∀ entry ∈ options.safelistPatterns, entry.isReadable = true) ∧
        ∀ u s, usageOf scan options = .ok u → Css.read css.toList = .ok s →
          ∀ name, Prune.Named s name → u.Answers name) ∧
      ∀ e result, Css.read css.toList = .error e → pruneCss css scan options = .ok result →
        result = ⟨css, ⟨0, 0, 0, css.utf8ByteSize, css.utf8ByteSize⟩, [], [], false⟩ := by
  have husage : (usageOf scan options).isOk =
      options.safelistPatterns.all PatternEntry.isReadable := isOk_usageOf
  rw [← List.all_eq_true, ← husage]
  cases hu : usageOf scan options with
  | error e =>
    have hnone : ∀ result, pruneCss css scan options ≠ .ok result := fun result h => by
      rw [pruneCss, hu] at h
      cases h
    exact ⟨iff_of_false (fun h => hnone _ h.choose_spec) fun h => (by cases h.1),
      fun e result _ h => absurd h (hnone result)⟩
  | ok u =>
    cases hs : Css.read css.toList with
    | error e =>
      cases e with
      | integerTooLong digits => exact absurd hs (Css.read_ne_integerTooLong hnumbers digits)
      | broken e =>
        have hresult := pruneCss_broken hu hs
        refine ⟨iff_of_true ⟨_, hresult⟩ ⟨rfl, fun u s _ h => by cases h⟩, fun _ result _ h => ?_⟩
        exact (Except.ok.inj (hresult.symm.trans h)).symm
    | ok s =>
      refine ⟨?_, fun e result h => by cases h⟩
      have hplain := Prune.isPlain_written_sheet u options.minify (Css.isPlain_read hescapes hs)
      have hok : (∃ result, pruneCss css scan options = .ok result) ↔
          ∀ name ∈ classNamesOf s, u.fault? name = none := by
        rw [pruneCss_eq hu hs, ← Outcome.isOk_iff, pruneSheet_isOk]
        exact and_iff_left hplain
      simp only [hok, Prune.mem_classNamesOf hs, ← Usage.answers_iff]
      refine ⟨fun h => ⟨rfl, fun u' s' hu' hs' => ?_⟩, fun h => h.2 u s rfl rfl⟩
      obtain rfl := Except.ok.inj hu'
      obtain rfl := Except.ok.inj hs'
      exact h

end

/-- Escapes, a number, and a safelist with a pattern that is dropped for its syntax. -/
theorem pruneCss_answers_dropped :
    let css := ".a\\62 c\x7bx:12px\x7d.d\x7b\x7d"
    let options : PruneOptions := { safelistPatterns := [.text "a(", .text " ^ab"] }
    PlainEscapes css.toList ∧ ShortNumbers css.toList ∧
      ∃ result, pruneCss css {} options = .ok result := by
  intro css options
  have hescapes : PlainEscapes css.toList := by decide +kernel
  have hnumbers : ShortNumbers css.toList := by decide +kernel
  have hreadable : options.safelistPatterns.all PatternEntry.isReadable = true := by decide +kernel
  have hfault : ((usageOf {} options).toOption.all fun u =>
      (Css.read css.toList).toOption.all fun s =>
        (classNamesOf s).all fun name => (u.fault? name).isNone) = true := by decide +kernel
  refine ⟨hescapes, hnumbers, (pruneCss_answers hescapes hnumbers).1.2
    ⟨List.all_eq_true.1 hreadable, fun u s hu hs name hname => ?_⟩⟩
  rw [hu, hs] at hfault
  have hmem := (Prune.mem_classNamesOf hs name).2 hname
  exact Usage.answers_iff.2 (Option.isNone_iff_eq_none.1 (List.all_eq_true.1 hfault name hmem))

/-- A repetition number that is too large is no matter of syntax, and a surrogate that an escape
names cannot be written. -/
theorem pruneCss_refuses :
    pruneCss ".a\x7bb:c\x7d" { classes := ["a"] }
        { safelistPatterns := [.text "a\x7b99999999999\x7d"] } =
      .error (.pattern .repetitionTooLarge) ∧
    pruneCss ".a\x7bb:\\d800 \x7d" { classes := ["a"] } {} =
      .error (.unencodable ⟨5, 1, 0xD800⟩) := by
  have refused : ∀ {x : Except PruneError PruneResult} {e : PruneError},
      (match x with
        | .error e' => some e'
        | .ok _ => none) = some e → x = .error e := by
    intro x e h
    cases x with
    | error e' => rw [Option.some.inj h]
    | ok result => cases h
  exact ⟨refused (by decide +kernel), refused (by decide +kernel)⟩

end StylePrune
