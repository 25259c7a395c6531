import StylePrune.Project.Options
import StylePrune.Proofs.Outcome
import StylePrune.Proofs.Prune.Together
import StylePrune.Proofs.Text.Utf8

/-!
# Style sheets in several files

The files of a project are put together as one text before it is read. That gives what the files
give one by one if all but the last end whole (`pruneCss_files`); if one leaves an at-rule open,
the rules of the next file become part of it.
-/

namespace StylePrune

namespace StyleSource

/-- Files are read with plain line ends. -/
theorem not_mem_readFile {disk : Disk} {path css : String} (h : readFile disk path = .ok css) :
    '\r' ∉ css.toList := by
  rw [readFile, Disk.readText] at h
  cases hf : disk.file path with
  | error e =>
    rw [hf] at h
    obtain rfl := Except.ok.inj h
    exact List.not_mem_nil
  | ok f =>
    rw [hf] at h
    obtain ⟨text, -, rfl⟩ := Outcome.map_eq_ok.1 h
    rw [String.toList_ofList]
    exact Utf8.not_mem_plainLines text

theorem read_files {disk : Disk} {directory : String} {paths texts : List String}
    (h : paths.mapM (fun path => readFile disk (Path.join directory path)) = .ok texts) :
    read disk directory (.files paths) = .ok (String.intercalate "\n" texts) := by
  rw [read, h]
  rfl

end StyleSource

/-- Style sheets in files are pruned as if one by one, if each but the last ends whole: the counts
are the sums of theirs, the rules left are those left of the first file, of the second one and so
on, and the class lists are unions of theirs. -/
theorem pruneCss_files {disk : Disk} {directory : String} {paths : List String} {scan : Scan}
    {options : PruneOptions} {u : Usage} (hu : usageOf scan options = .ok u)
    (parts : List (PrunedAlone scan options))
    (hfiles : paths.mapM (fun path => StyleSource.readFile disk (Path.join directory path)) =
      .ok (parts.map (·.css)))
    (hend : ∀ p ∈ parts.dropLast, Css.EndsWhole p.css.toList) :
    ∃ css s result, StyleSource.read disk directory (.files paths) = .ok css ∧
      Css.read css.toList = .ok s ∧ pruneCss css scan options = .ok result ∧
      Together u s result parts := by
  have hline : ∀ p ∈ parts, '\r' ∉ p.css.toList := fun p hp => by
    obtain ⟨path, -, hpath⟩ := Outcome.exists_of_mem_mapM hfiles (List.mem_map_of_mem hp)
    exact StyleSource.not_mem_readFile hpath
  obtain ⟨c, hcss, htree⟩ := PrunedAlone.exists_joined hu parts fun p hp =>
    ⟨hend p hp, hline p (List.dropLast_subset parts hp)⟩
  refine ⟨c.css, c.sheet, c.result, ?_, c.read, c.pruned, .of_tree htree hu⟩
  rw [hcss, StyleSource.read_files hfiles]

namespace TwoSheets

def project (first second : String) : Disk where
  files := [(["p", "a.css"], ⟨Utf8.encode first, 1⟩), (["p", "b.css"], ⟨Utf8.encode second, 2⟩)]
  directories := [["p"]]
  clock := 9

theorem exists_alone {css : String} {scan : Scan} {options : PruneOptions} {total : Nat}
    (hread : (Css.read css.toList).isOk = true)
    (hpruned : (pruneCss css scan options).toOption.map (·.stats.totalRules) = some total) :
    ∃ p : PrunedAlone scan options, p.css = css ∧ p.result.stats.totalRules = total := by
  cases hs : Css.read css.toList with
  | error e => rw [hs] at hread; cases hread
  | ok s =>
    cases hr : pruneCss css scan options with
    | error e => rw [hr] at hpruned; cases hpruned
    | ok result =>
      rw [hr] at hpruned
      exact ⟨⟨css, s, result, hs, hr⟩, rfl, Option.some.inj hpruned⟩

/-- The first file ends whole and the second one does not need to. -/
theorem pruneCss_files_whole :
    let first := "@media x\x7b.a\x7b\x7d.b\x7b\x7d\x7d /* c */"
    let second := ".a\x7bc:d\x7d@import \"e\""
    let scan : Scan := { classes := ["b"] }
    ∃ parts : List (PrunedAlone scan {}), parts.map (·.css) = [first, second] ∧
      ["a.css", "b.css"].mapM (fun path =>
        StyleSource.readFile (project first second) (Path.join "/p" path)) =
          .ok (parts.map (·.css)) ∧
      (∀ p ∈ parts.dropLast, Css.EndsWhole p.css.toList) ∧
      ∃ css s result, StyleSource.read (project first second) "/p" (.files ["a.css", "b.css"]) =
          .ok css ∧ Css.read css.toList = .ok s ∧ pruneCss css scan {} = .ok result ∧
        Together ⟨["b"], []⟩ s result parts ∧ result.stats.totalRules = 3 := by
  intro first second scan
  obtain ⟨a, ha, hatotal⟩ : ∃ a : PrunedAlone scan {}, a.css = first ∧
      a.result.stats.totalRules = 2 := exists_alone (by decide +kernel) (by decide +kernel)
  obtain ⟨b, hb, hbtotal⟩ : ∃ b : PrunedAlone scan {}, b.css = second ∧
      b.result.stats.totalRules = 1 := exists_alone (by decide +kernel) (by decide +kernel)
  have hcss : [a, b].map (·.css) = [first, second] := by rw [← ha, ← hb]; rfl
  have hfiles : ["a.css", "b.css"].mapM (fun path =>
      StyleSource.readFile (project first second) (Path.join "/p" path)) =
        .ok ([a, b].map (·.css)) := by
    rw [hcss]
    decide +kernel
  have hend : ∀ p ∈ [a, b].dropLast, Css.EndsWhole p.css.toList := by
    intro p hp
    obtain rfl := List.mem_singleton.1 hp
    rw [ha]
    decide +kernel
  obtain ⟨css, s, result, hcssread, hs, hr, htogether⟩ :=
    @pruneCss_files (project first second) "/p" ["a.css", "b.css"] scan {} ⟨["b"], []⟩ rfl [a, b]
      hfiles hend
  refine ⟨[a, b], hcss, hfiles, hend, css, s, result, hcssread, hs, hr, htogether, ?_⟩
  rw [htogether.total, List.map_cons, List.map_singleton, hatotal, hbtotal]
  rfl

/-- A first file that ends in an at-rule without its semicolon takes in the rule of the second. -/
theorem pruneCss_files_open :
    let first := "@import \"x\""
    let second := ".a\x7bb:c\x7d"
    (∃ s, Css.read first.toList = .ok s) ∧ (∃ s, Css.read second.toList = .ok s) ∧
      StyleSource.read (project first second) "/p" (.files ["a.css", "b.css"]) =
        .ok (first ++ "\n" ++ second) ∧
      ∃ a b together, pruneCss first {} {} = .ok a ∧ pruneCss second {} {} = .ok b ∧
        pruneCss (first ++ "\n" ++ second) {} {} = .ok together ∧
        a.stats.totalRules = 0 ∧ b.stats.totalRules = 1 ∧ together.stats.totalRules = 0 := by
  intro first second
  obtain ⟨a, ha, hatotal⟩ : ∃ a : PrunedAlone {} {}, a.css = first ∧
      a.result.stats.totalRules = 0 := exists_alone (by decide +kernel) (by decide +kernel)
  obtain ⟨b, hb, hbtotal⟩ : ∃ b : PrunedAlone {} {}, b.css = second ∧
      b.result.stats.totalRules = 1 := exists_alone (by decide +kernel) (by decide +kernel)
  obtain ⟨c, hc, hctotal⟩ : ∃ c : PrunedAlone {} {}, c.css = first ++ "\n" ++ second ∧
      c.result.stats.totalRules = 0 := exists_alone (by decide +kernel) (by decide +kernel)
  refine ⟨⟨_, ha ▸ a.read⟩, ⟨_, hb ▸ b.read⟩, ?_, a.result, b.result, c.result, ha ▸ a.pruned,
    hb ▸ b.pruned, hc ▸ c.pruned, hatotal, hbtotal, hctotal⟩
  decide +kernel

end TwoSheets

end StylePrune
