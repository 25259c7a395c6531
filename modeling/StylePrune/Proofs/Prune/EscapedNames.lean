import StylePrune.Proofs.Css.WrittenNames
import StylePrune.Proofs.Prune.Answers
import StylePrune.Proofs.Prune.Safelist

/-!
# Escaped class names

A rule whose selector is one class, written with the escapes that its name needs, names the class
itself: it is found, kept and removed by its plain name (`escaped_class`).
-/

namespace StylePrune

open Regex (Pattern)
open Css (Rule Token Node)

theorem toString?_ofString (s : String) : Text.toString? (Text.ofString s) = .ok s := by
  have hok := Text.isOk_toString? (Text.ofString s)
  rw [Text.isPlain_ofString] at hok
  cases h : Text.toString? (Text.ofString s) with
  | error fault =>
    rw [h] at hok
    cases hok
  | ok s' => rw [Prune.ofString_injective (Text.eq_ofString_of_toString? h)]

namespace Prune

/-- The rule with an empty block whose selector is one class. -/
def oneClass (dot ident : Css.Position) (name : Text) : Rule :=
  ⟨[.leaf dot (.literal ['.']), .leaf ident (.ident name)], []⟩

variable {dot ident : Css.Position} {name : Text} {u : Usage} {minify : Bool}

theorem selectors_oneClass :
    (oneClass dot ident name).selectors = [(oneClass dot ident name).selector] := rfl

theorem classNames_oneClass : Css.classNames (oneClass dot ident name).selector = [name] := rfl

theorem classNamesOf_oneClass (hne : name ≠ []) :
    classNamesOf [.rule (oneClass dot ident name)] = [name] := by
  have hnames : (rules [.rule (oneClass dot ident name)]).flatMap Rule.classNames = [name] := rfl
  rw [classNamesOf, hnames, List.filter_cons_of_pos (by simpa using hne), List.filter_nil]
  rfl

theorem keeps_oneClass : keeps u (oneClass dot ident name) = u.uses name := by
  have hroot : declaresRootProperties (oneClass dot ident name) = false := Bool.and_false _
  rw [keeps, hroot, selectors_oneClass, List.any_cons, List.any_nil, selectorUsed,
    classNames_oneClass, List.any_cons, List.any_nil]
  simp

theorem sheet_oneClass : sheet u [.rule (oneClass dot ident name)] =
    if u.uses name then [.rule (oneClass dot ident name)] else [] := by
  have hrule : isUnused u (.rule (oneClass dot ident name)) = !u.uses name := by
    rw [isUnused, keeps_oneClass]
  have hremoved : removeRules u [.rule (oneClass dot ident name)] =
      if isUnused u (.rule (oneClass dot ident name)) then []
      else [.rule (oneClass dot ident name)] := rfl
  rw [sheet, hremoved, hrule]
  cases u.uses name <;> rfl

theorem generate_oneClass : Node.generate minify (.rule (oneClass dot ident name)) =
    .char '.' :: Css.Serialize.identifier name ++ [.char '\x7b', .char '\x7d'] := by
  have hplain : Css.Serialize.tokens (oneClass dot ident name).selector =
      .char '.' :: Css.Serialize.identifier name :=
    congrArg (Point.char '.' :: ·) (List.append_nil _)
  have hcompact : Css.Compact.tokens Css.Compact.selectorTight (oneClass dot ident name).selector =
      .char '.' :: Css.Serialize.identifier name :=
    congrArg (Point.char '.' :: ·) (List.append_nil _)
  cases minify with
  | false =>
    rw [Node.generate, if_neg Bool.false_ne_true, hplain]
    rfl
  | true =>
    rw [Node.generate, if_pos rfl, hcompact]
    rfl

theorem written_oneClass : Css.written minify [.rule (oneClass dot ident name)] =
    .char '.' :: Css.Serialize.identifier name ++ [.char '\x7b', .char '\x7d'] := by
  have hstrip : Css.Sheet.stripComments [.rule (oneClass dot ident name)] =
      [.rule (oneClass dot ident name)] := rfl
  rw [Css.written, hstrip, ite_self, Css.generateAll.eq_def]
  dsimp only
  rw [generate_oneClass, Css.generateAll, List.append_nil]

/-- What is left of the rule for a class, with the class as kept or as removed. -/
theorem pruneSheet_oneClass {css : String} {size : Nat} (hne : name ≠ [])
    (hfault : u.fault? name = none)
    (hcss : Text.ofString css =
      .char '.' :: Css.Serialize.identifier name ++ [.char '\x7b', .char '\x7d']) :
    pruneSheet u minify size [.rule (oneClass dot ident name)] = .ok
      (if u.uses name then ⟨css, ⟨1, 0, 1, size, css.utf8ByteSize⟩, [], [name], true⟩
      else ⟨"", ⟨1, 1, 0, size, 0⟩, [name], [], true⟩) := by
  have hrules : rules [.rule (oneClass dot ident name)] = [oneClass dot ident name] := rfl
  have hwritten : Text.toString? (Css.written minify (sheet u [.rule (oneClass dot ident name)])) =
      .ok (if u.uses name then css else "") := by
    rw [sheet_oneClass]
    cases u.uses name with
    | true => rw [if_pos rfl, if_pos rfl, written_oneClass, ← hcss, toString?_ofString]
    | false =>
      cases minify <;> rfl
  rw [Css.written] at hwritten
  rw [pruneSheet, classNamesOf_oneClass hne, hrules]
  simp only [hwritten, List.findSome?_cons, hfault, List.findSome?_nil, List.filter_cons,
    List.filter_nil, keeps_oneClass]
  cases u.uses name <;> rfl

/-- It can always be said of a class that it is not used. -/
theorem fault?_of_unused (h : u.uses name = false) : u.fault? name = none := by
  rw [← Usage.answers_iff]
  refine .inr fun m hm => ?_
  obtain ⟨-, hmatches⟩ := Bool.or_eq_false_iff.1 h
  rw [matchesAny, hm] at hmatches
  cases hmatches

/-- A rule with an empty block whose selector is one class, written with the escapes that its name
needs, is a style sheet that names this class alone. Pruning keeps the rule if the scan found the
class by its plain name, and removes it if the class does not count as used. -/
theorem escaped_class {n : String} (hne : n ≠ "") (hnul : '\x00' ∉ n.toList) :
    ∃ css : String,
      Text.ofString css = Text.ofString "." ++ Css.Serialize.identifier (Text.ofString n) ++
        Text.ofString "\x7b\x7d" ∧
      (∃ s, Css.read css.toList = .ok s ∧ (rules s).length = 1) ∧
      collectClassNames css = .ok [Text.ofString n] ∧
      ∀ (scan : Scan) (options : PruneOptions) (safelist : List Pattern),
        readPatterns options.safelistPatterns = .ok safelist →
        (n ∈ scan.classes → pruneCss css scan options = .ok
          ⟨css, ⟨1, 0, 1, css.utf8ByteSize, css.utf8ByteSize⟩, [], [Text.ofString n], true⟩) ∧
        (¬ Counts scan options safelist (Text.ofString n) → pruneCss css scan options = .ok
          ⟨"", ⟨1, 1, 0, css.utf8ByteSize, 0⟩, [Text.ofString n], [], true⟩) := by
  have hchars : n.toList ≠ [] := by simpa using hne
  have hname : Text.ofString n ≠ [] := by simpa [Text.ofString, Text.ofChars] using hchars
  obtain ⟨text, htext, hspells, hstart⟩ := Css.Lexer.identifier_spells hchars hnul
  obtain ⟨dot, ident, hrule⟩ := Css.read_classRule hspells hstart
  have hread : Css.read (String.ofList (Css.Lexer.classRule text)).toList =
      .ok [.rule (oneClass dot ident (Text.ofString n))] := by
    rw [String.toList_ofList]
    exact hrule
  have hcss : Text.ofString (String.ofList (Css.Lexer.classRule text)) =
      .char '.' :: Css.Serialize.identifier (Text.ofString n) ++
        [.char '\x7b', .char '\x7d'] := by
    rw [Text.ofString, String.toList_ofList, Text.ofString, htext, Css.Lexer.classRule]
    exact congrArg (Point.char '.' :: ·) (Text.ofChars_append text _)
  refine ⟨_, hcss, ⟨_, hread, rfl⟩, ?_, ?_⟩
  · rw [collectClassNames, hread]
    exact congrArg Except.ok (classNamesOf_oneClass hname)
  · intro scan options safelist hsafelist
    obtain ⟨u, hu, hnames⟩ : ∃ u, usageOf scan options = .ok u ∧ ∀ c ∈ scan.classes, c ∈ u.names :=
      ⟨_, usageOf_eq hsafelist, fun c hc => List.mem_append_left _ hc⟩
    have huses := uses_iff hsafelist hu (Text.ofString n)
    rw [pruneCss_eq hu hread]
    constructor
    · intro hmem
      have hused := huses.2 (.inl ⟨n, hmem, rfl⟩)
      have hanswers := Usage.answers_iff.1 (.inl ⟨n, hnames n hmem, rfl⟩)
      rw [pruneSheet_oneClass hname hanswers hcss, if_pos hused]
    · intro hnot
      have hunused := Bool.eq_false_iff.2 (mt huses.1 hnot)
      rw [pruneSheet_oneClass hname (fault?_of_unused hunused) hcss, hunused]
      rfl

/-- A name with a bracket, a quote, a comment mark and a line end that starts with a hyphen and a
digit. -/
theorem escaped_class_punctuation :
    let n := "-1[\"/*\n"
    let css := ".-\\31 \\[\\\"\\/\\*\\A \x7b\x7d"
    n ≠ "" ∧ '\x00' ∉ n.toList ∧ readPatterns [] = .ok [] ∧ n ∈ [n] ∧
      ¬ Counts {} {} [] (Text.ofString n) ∧ collectClassNames css = .ok [Text.ofString n] ∧
      pruneCss css { classes := [n] } {} = .ok
        ⟨css, ⟨1, 0, 1, css.utf8ByteSize, css.utf8ByteSize⟩, [], [Text.ofString n], true⟩ ∧
      pruneCss css {} {} = .ok
        ⟨"", ⟨1, 1, 0, css.utf8ByteSize, 0⟩, [Text.ofString n], [], true⟩ := by
  intro n css
  have hne : n ≠ "" := by decide +kernel
  have hnul : '\x00' ∉ n.toList := by decide +kernel
  have hunused : ¬ Counts {} {} [] (Text.ofString n) := by simp [Counts]
  obtain ⟨written, hwritten, -, hclasses, hprune⟩ := escaped_class hne hnul
  have hcss : Text.ofString "." ++ Css.Serialize.identifier (Text.ofString n) ++
      Text.ofString "\x7b\x7d" = Text.ofString css := by decide +kernel
  obtain rfl : written = css := ofString_injective (hwritten.trans hcss)
  exact ⟨hne, hnul, rfl, .head _, hunused, hclasses,
    (hprune { classes := [n] } {} [] rfl).1 (.head _), (hprune {} {} [] rfl).2 hunused⟩

end Prune

end StylePrune
