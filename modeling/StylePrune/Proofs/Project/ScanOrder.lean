import StylePrune.Proofs.Cache.Answers
import StylePrune.Proofs.Prune.Usage

/-!
# The order of files

Each file gives the same at whatever place it is scanned (`Caching.scanEach_eq`), and scans merged
in any order are alike (`Scan.alike_of_perm`). So a project scan does not depend on the order of its
files, but for the order of origins, of patterns and of warnings (`scanFiles_perm`). The pruner asks
patterns one after the other, so it may refuse with one order of them what it prunes with another;
that is all that comes of it.
-/

namespace StylePrune

open Caching (answer total)
open Outcome (bind_eq_ok map_eq_ok)

variable {o : Options} {disk : Disk} {cwd base : String} {state again : ScanState}
  {paths paths' : List String} {scan named : Scan} {sum : ProjectScan}

namespace Caching

theorem total_eq (sum : ProjectScan) (found : List (Option Scan)) : total sum found =
    ⟨(found.filterMap id).foldl Scan.merge sum.scan,
      sum.filesScanned + (found.filterMap id).length⟩ := by
  rw [total]
  induction found.filterMap id generalizing sum with
  | nil => rfl
  | cons scan rest ih =>
    rw [List.foldl_cons, ih, List.foldl_cons, List.length_cons, Scanner.addScan, Nat.add_assoc,
      Nat.add_comm 1]

end Caching

/-! ## What the options name -/

/-- A safelist adds to the classes, by them alone. -/
theorem addSafelist_ok : ∀ {entries : List SafelistEntry} {scan named : Scan},
    addSafelist scan entries = .ok named → named = { scan with classes := named.classes } ∧
      ∀ other : Scan, other.classes = scan.classes →
        addSafelist other entries = .ok { other with classes := named.classes }
  | [], scan, named, h => by
    obtain rfl := Except.ok.inj h
    exact ⟨rfl, fun other hother => by rw [addSafelist, ← hother]⟩
  | .text list :: rest, scan, named, h => by
    rw [addSafelist] at h
    obtain ⟨hnamed, hrest⟩ := addSafelist_ok h
    refine ⟨hnamed, fun other hother => ?_⟩
    rw [addSafelist, hother]
    exact hrest _ rfl
  | .other value :: rest, scan, named, h => by cases h

/-- The patterns that options give do not depend on the scan that they are added to. -/
theorem addNamed_eq (o : Options) : ∃ given : Except ScanError (List Regex.Pattern), ∀ scan,
    addNamed o scan = (addSafelist scan o.safelist).bind fun scan => given.map fun given =>
      { scan with dynamicPatterns := dedupePatterns (scan.dynamicPatterns ++ given) } := by
  have hbind : ∀ (given : Except ScanError (List Regex.Pattern)) (scan : Scan),
      (given.bind fun given => .ok
        { scan with dynamicPatterns := dedupePatterns (scan.dynamicPatterns ++ given) }) =
      given.map fun given =>
        { scan with dynamicPatterns := dedupePatterns (scan.dynamicPatterns ++ given) } :=
    fun given scan => by cases given <;> rfl
  cases ho : o.dynamicPatterns with
  | given entries =>
    refine ⟨(readPatterns entries).mapError ScanError.pattern, fun scan => ?_⟩
    rw [addNamed, ho]
    exact congrArg _ (funext fun scan => hbind _ scan)
  | _ =>
    refine ⟨.ok [], fun scan => ?_⟩
    rw [addNamed, ho]
    rfl

/-- What options name is added to scans that are alike alike. -/
theorem addNamed_alike {other : Scan} (halike : scan.Alike other)
    (h : addNamed o scan = .ok named) : ∃ named', addNamed o other = .ok named' ∧
      named.Alike named' ∧
      (Told scan.dynamicPatterns →
        (∀ p, p ∈ scan.dynamicPatterns ↔ p ∈ other.dynamicPatterns) →
          ∀ p, p ∈ named.dynamicPatterns ↔ p ∈ named'.dynamicPatterns) := by
  obtain ⟨given, heq⟩ := addNamed_eq o
  rw [heq] at h
  obtain ⟨listed, hlisted, h⟩ := bind_eq_ok.1 h
  obtain ⟨given, rfl, rfl⟩ := map_eq_ok.1 h
  obtain ⟨hsame, hother⟩ := addSafelist_ok hlisted
  have hpatterns : listed.dynamicPatterns = scan.dynamicPatterns := by rw [hsame]
  refine ⟨{ other with
      classes := listed.classes
      dynamicPatterns := dedupePatterns (other.dynamicPatterns ++ given) }, ?_, ?_, ?_⟩
  · rw [heq, hother other halike.classes.symm]
    rfl
  · refine ⟨rfl, fun x => ?_, fun w => ?_, ?_⟩
    · rw [hsame]
      exact halike.origins x
    · simp only [written_dedupePatterns, List.map_append, List.mem_append, hpatterns,
        halike.patterns w]
    · rw [hsame]
      exact halike.warnings
  · intro htold hmem p
    simp only [hpatterns]
    exact mem_dedupePatterns_append htold hmem given p

/-! ## Scans of a project -/

section

variable {extractors : List Extractor}

/-- A project scan is made of what each file gives and of what options name. -/
theorem scanFiles_ok_iff (hcwd : Path.isAbsolute cwd = true)
    (hchecked : Extractor.checkAll o.extractors = .ok extractors) :
    (scanFiles o disk cwd base state paths).1 = .ok sum ↔ ∃ found named,
      paths.mapM (answer ⟨o, extractors, cwd, Path.absolute cwd base⟩ disk state) = .ok found ∧
        addNamed o (total {} found).scan = .ok named ∧
        sum = { total {} found with scan := named } := by
  obtain ⟨hsum, -⟩ := Caching.scanEach_eq (s := ⟨o, extractors, cwd, Path.absolute cwd base⟩) hcwd
    disk paths state {}
  rw [scanFiles, hchecked]
  dsimp only
  generalize Scanner.scanEach _ disk state {} paths = result at hsum
  obtain ⟨result, after⟩ := result
  obtain rfl : result = _ := hsum
  cases paths.mapM (answer ⟨o, extractors, cwd, Path.absolute cwd base⟩ disk state) with
  | error e => exact iff_of_false (fun h => by cases h) fun ⟨_, _, h, _⟩ => by cases h
  | ok found =>
    change (addNamed o (total {} found).scan).map (fun scan => { total {} found with scan }) =
      .ok sum ↔ _
    rw [map_eq_ok]
    refine ⟨fun ⟨named, hnamed, h⟩ => ⟨found, named, rfl, hnamed, h.symm⟩, ?_⟩
    rintro ⟨_, named, heq, hnamed, rfl⟩
    obtain rfl := Except.ok.inj heq
    exact ⟨named, hnamed, rfl⟩

/-- A project scan leaves what every file gives as it was. -/
theorem steady_scanFiles (hcwd : Path.isAbsolute cwd = true) (path : String)
    (hchecked : Extractor.checkAll o.extractors = .ok extractors) :
    answer ⟨o, extractors, cwd, Path.absolute cwd base⟩ disk
        (scanFiles o disk cwd base state paths).2 path =
      answer ⟨o, extractors, cwd, Path.absolute cwd base⟩ disk state path := by
  obtain ⟨-, hsteady⟩ := Caching.scanEach_eq (s := ⟨o, extractors, cwd, Path.absolute cwd base⟩)
    hcwd disk paths state {}
  rw [scanFiles, hchecked]
  dsimp only
  generalize Scanner.scanEach _ disk state {} paths = result at hsteady
  obtain ⟨result, after⟩ := result
  cases result <;> exact hsteady path

end

/-- A scan of files in another order, with the cache as it was or as the first scan left it, gives
a scan too. The two count the same files and differ in nothing but the order of origins, patterns
and warnings, patterns with the same source and flags `i`, `m` and `s` being one. Unless extractors
give patterns that were compiled with other flags, the patterns are the same, and every style sheet
is pruned alike with both, or refused with one of them because a match has its groups out of
order. -/
theorem scanFiles_perm (hcwd : Path.isAbsolute cwd = true)
    (hcache : ∀ cache, state.cache = some cache → cache.entries.Distinct)
    (hagain : again.cache = state.cache ∨
      again.cache = (scanFiles o disk cwd base state paths).2.cache)
    (hperm : paths.Perm paths') (h : (scanFiles o disk cwd base state paths).1 = .ok sum) :
    ∃ sum', (scanFiles o disk cwd base again paths').1 = .ok sum' ∧
      sum'.filesScanned = sum.filesScanned ∧ sum.scan.Alike sum'.scan ∧
      ((∀ extractors, Extractor.checkAll o.extractors = .ok extractors →
          ∀ e ∈ extractors, e.GivesPlain) →
        (∀ p, p ∈ sum.scan.dynamicPatterns ↔ p ∈ sum'.scan.dynamicPatterns) ∧
        ∀ css options, pruneCss css sum.scan options = pruneCss css sum'.scan options ∨
          pruneCss css sum.scan options = .error (.pattern .disorderedGroups) ∨
          pruneCss css sum'.scan options = .error (.pattern .disorderedGroups)) := by
  obtain ⟨extractors, hchecked⟩ : ∃ extractors,
      Extractor.checkAll o.extractors = .ok extractors := by
    cases hchecked : Extractor.checkAll o.extractors with
    | error e =>
      rw [scanFiles, hchecked] at h
      cases h
    | ok extractors => exact ⟨extractors, rfl⟩
  generalize hs : (⟨o, extractors, cwd, Path.absolute cwd base⟩ : Scanner) = s
  have hanswer : answer s disk again = answer s disk state := by
    funext path
    rcases hagain with hsame | hleft
    · exact Caching.answer_congr (by rw [hsame]) path
    · exact (Caching.answer_congr (by rw [hleft]) path).trans
        (hs ▸ steady_scanFiles hcwd path hchecked)
  obtain ⟨found, named, hfound, hnamed, rfl⟩ := (scanFiles_ok_iff hcwd hchecked).1 h
  rw [hs] at hfound
  obtain ⟨found', hfound', hfounds⟩ := Outcome.mapM_perm hperm hfound
  have hscans : (found.filterMap id).Perm (found'.filterMap id) := hfounds.filterMap id
  have hgives : ∀ scan ∈ found.filterMap id, ∃ path,
      answer s disk state path = .ok (some scan) := by
    intro scan hscan
    obtain ⟨given, hgiven, rfl⟩ := List.mem_filterMap.1 hscan
    obtain ⟨path, -, hpath⟩ := Outcome.exists_of_mem_mapM hfound hgiven
    exact ⟨path, hpath⟩
  have halike : (total {} found).scan.Alike (total {} found').scan := by
    rw [Caching.total_eq, Caching.total_eq]
    refine Scan.alike_of_perm hscans (fun scan hscan => ?_) Scan.Ordered.empty
    obtain ⟨path, hpath⟩ := hgives scan hscan
    exact Caching.ordered_answer hcache hpath
  obtain ⟨named', hnamed', hsame, hpatterns⟩ := addNamed_alike halike hnamed
  refine ⟨{ total {} found' with scan := named' }, ?scan, ?count, hsame, fun hplain => ?plain⟩
  case scan =>
    refine (scanFiles_ok_iff hcwd hchecked).2 ⟨found', named', ?_, hnamed', rfl⟩
    rw [hs, hanswer, hfound']
  case count =>
    rw [Caching.total_eq, Caching.total_eq]
    exact congrArg (0 + ·) hscans.length_eq.symm
  case plain =>
    have htold : Told (total {} found).scan.dynamicPatterns := by
      rw [Caching.total_eq, Scan.patterns_foldl]
      refine told_of_plain fun p hp => ?_
      obtain ⟨scan, hscan, hp⟩ :=
        List.mem_flatMap.1 ((List.mem_append.1 hp).resolve_left List.not_mem_nil)
      obtain ⟨path, hpath⟩ := hgives scan hscan
      refine Caching.plain_answer (fun e he => hplain extractors hchecked e ?_) hpath p hp
      rwa [← hs] at he
    have hmem := hpatterns htold fun p => by
      rw [Caching.total_eq, Caching.total_eq, Scan.patterns_foldl, Scan.patterns_foldl]
      exact ((hscans.flatMap_right _).append_left _).mem_iff
    exact ⟨hmem, pruneCss_of_same hsame.classes hmem⟩

/-! ## A project with two pages -/

namespace TwoPages

def project : Disk where
  files := [(["p", "a.jsx"], ⟨Utf8.encode "<p className=\x7b'btn-' + size\x7d>", 1⟩),
    (["p", "b.jsx"], ⟨Utf8.encode "<p class='xyz'>", 2⟩)]
  directories := [["p"]]
  clock := 9

/-- The first scan of the pages leaves both in the cache, and the second one finds them there. -/
theorem scanFiles_perm_cached :
    let o : Options := { dynamicPatterns := .collect }
    let first := scanFiles o project "/p" "" ⟨some {}, {}⟩ ["a.jsx", "b.jsx"]
    ["a.jsx", "b.jsx"].Perm ["b.jsx", "a.jsx"] ∧ ∃ sum sum', first.1 = .ok sum ∧
      sum.filesScanned = 2 ∧ sum.scan.dynamicPatterns.map Regex.Pattern.written = ["/^btn\\-/"] ∧
      (scanFiles o project "/p" "" first.2 ["b.jsx", "a.jsx"]).1 = .ok sum' ∧
      sum.scan.Alike sum'.scan ∧
      ∀ p, p ∈ sum.scan.dynamicPatterns ↔ p ∈ sum'.scan.dynamicPatterns := by
  intro o first
  have hperm : ["a.jsx", "b.jsx"].Perm ["b.jsx", "a.jsx"] := .swap ..
  have hread : first.1.toOption.map (fun sum =>
      (sum.filesScanned, sum.scan.dynamicPatterns.map Regex.Pattern.written)) =
        some (2, ["/^btn\\-/"]) := by decide +kernel
  cases hfirst : first.1 with
  | error e =>
    rw [hfirst] at hread
    cases hread
  | ok sum =>
    rw [hfirst] at hread
    obtain ⟨hcount, hpatterns⟩ := Prod.mk.inj (Option.some.inj hread)
    obtain ⟨sum', hsum', -, halike, hplain⟩ := @scanFiles_perm o project "/p" ""
      ⟨some {}, {}⟩ first.2 _ _ sum (by decide)
      (fun cache h => by cases h; exact ⟨.nil, fun _ h => by cases h⟩) (.inr rfl) hperm hfirst
    refine ⟨hperm, sum, sum', rfl, hcount, hpatterns, hsum', halike, (hplain ?_).1⟩
    rintro extractors h
    obtain rfl := Except.ok.inj h
    exact fun e he => by cases he

/-- Extractors that give a pattern for one page each. -/
def extractors : List Extractor.Definition :=
  [("a.jsx", "((x)|y|z)*+"), ("b.jsx", "^x")].map fun (page, pattern) =>
    .definition none (.usable (.function fun _ =>
      .ok (.mapping [("dynamicPatterns", Extractor.Value.ofStrings [pattern])])))
      (.predicate fun path => .ok (path = page))

/-- With one order of the pages a style sheet is pruned, and with the other it is refused. -/
theorem pruneCss_order :
    let o : Options := { extractors }
    ∃ sum sum', (scanFiles o project "/p" "" {} ["b.jsx", "a.jsx"]).1 = .ok sum ∧
      (scanFiles o project "/p" "" {} ["a.jsx", "b.jsx"]).1 = .ok sum' ∧
      (pruneCss ".xyz\x7b\x7d" sum.scan {}).toOption.map (·.css) = some ".xyz\x7b\x7d" ∧
      pruneCss ".xyz\x7b\x7d" sum'.scan {} = .error (.pattern .disorderedGroups) := by
  intro o
  have hkept : (scanFiles o project "/p" "" {} ["b.jsx", "a.jsx"]).1.toOption.bind (fun sum =>
      (pruneCss ".xyz\x7b\x7d" sum.scan {}).toOption.map (·.css)) = some ".xyz\x7b\x7d" := by
    decide +kernel
  have hrefused : (scanFiles o project "/p" "" {} ["a.jsx", "b.jsx"]).1.toOption.map (fun sum =>
      (pruneCss ".xyz\x7b\x7d" sum.scan {}).rec (motive := fun _ => Option PruneError) some
        fun _ => none) = some (some (.pattern .disorderedGroups)) := by decide +kernel
  cases hsum : (scanFiles o project "/p" "" {} ["b.jsx", "a.jsx"]).1 with
  | error e =>
    rw [hsum] at hkept
    cases hkept
  | ok sum =>
    rw [hsum] at hkept
    cases hsum' : (scanFiles o project "/p" "" {} ["a.jsx", "b.jsx"]).1 with
    | error e =>
      rw [hsum'] at hrefused
      cases hrefused
    | ok sum' =>
      rw [hsum'] at hrefused
      replace hrefused := Option.some.inj hrefused
      dsimp only at hrefused
      refine ⟨sum, sum', rfl, rfl, hkept, ?_⟩
      cases hpruned : pruneCss ".xyz\x7b\x7d" sum'.scan {} with
      | error e =>
        rw [hpruned] at hrefused
        rw [Option.some.inj hrefused]
      | ok result =>
        rw [hpruned] at hrefused
        cases hrefused

end TwoPages

end StylePrune
