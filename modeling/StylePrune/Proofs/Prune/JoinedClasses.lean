import StylePrune.Proofs.Content.Constants
import StylePrune.Proofs.Project.ScanOrder
import StylePrune.Proofs.Prune.ClassLists

/-!
# Classes that expressions put together

An expression that joins texts yields patterns which match the names that begin with one of its
fragments, and no others (`matchesAny_derive`). They stay what they are when they are kept in a
cache or when one of each written form is kept (`Passed.mem_iff`), and a project scan holds them for
every file that it reads (`Reaches.mem_patterns`). So pruning keeps all rules for such names
(`joined_classes`).
-/

namespace StylePrune

open Regex (Pattern)
open Outcome (bind_eq_ok map_eq_ok)

theorem Text.codes_prefix_iff {a b : Text} : a.codes <+: b.codes ↔ a <+: b := by
  rw [List.prefix_iff_eq_take, List.prefix_iff_eq_take, codes, codes, List.length_map,
    ← List.map_take]
  exact List.map_inj_right fun _ _ => Point.code_injective

namespace Content

/-! ## The patterns of an expression -/

/-- An expression joins texts: a plus sign stands in it, or a placeholder opens somewhere behind a
backtick. -/
def Joins (expression : List Char) : Prop :=
  '+' ∈ expression ∨
    ∃ before after, expression = before ++ '\x60' :: after ∧ ['$', '\x7b'] <:+: after

/-- A class token of a literal or of a fixed part of an expression that ends in a hyphen. -/
def Fragment (expression : List Char) (token : String) : Prop :=
  (∃ part ∈ quotedStrings expression ++ templateParts expression,
    token ∈ tokenizeClassList part) ∧ token.toList.getLast? = some '-'

/-- A name that an expression may put together: it begins with a fragment. -/
def Begun (expression : List Char) (name : Text) : Prop :=
  Joins expression ∧ ∃ token, Fragment expression token ∧ Text.ofString token <+: name

theorem hasPlaceholder_iff {cs : List Char} :
    hasPlaceholder cs = true ↔ ['$', '\x7b'] <:+: cs := by
  induction cs with
  | nil => simp [hasPlaceholder]
  | cons c rest ih =>
    unfold hasPlaceholder
    split
    · rename_i heq
      cases heq
    · rename_i heq
      rw [heq]
      exact iff_of_true rfl (List.prefix_append ['$', '\x7b'] _).isInfix
    · rename_i hopens heq
      obtain ⟨rfl, rfl⟩ := List.cons.inj heq
      rw [List.infix_cons_iff, ih]
      refine (or_iff_right fun h => ?_).symm
      obtain ⟨after, h⟩ := h
      obtain ⟨rfl, rfl⟩ := List.cons.inj h
      exact hopens after rfl rfl

theorem isDynamic_iff {expression : List Char} :
    isDynamic expression = true ↔ Joins expression := by
  rw [isDynamic, Bool.or_eq_true, List.contains_iff_mem, hasPlaceholder_iff]
  refine or_congr_right ⟨fun h => ?_, ?_⟩
  · have hsplit := List.takeWhile_append_dropWhile (p := (· ≠ '\x60')) (l := expression)
    cases hdrop : expression.dropWhile (· ≠ '\x60') with
    | nil =>
      rw [hdrop] at h
      exact absurd h (by simp)
    | cons c after =>
      have hc : c = '\x60' := by
        have := List.head?_dropWhile_not (fun c : Char => decide (c ≠ '\x60')) expression
        rw [hdrop] at this
        simpa using this
      rw [hdrop, hc] at h hsplit
      refine ⟨_, after, hsplit.symm, (List.infix_cons_iff.1 h).resolve_left ?_⟩
      exact fun h => absurd (List.cons_prefix_cons.1 h).1 (by decide)
  · rintro ⟨before, after, rfl, h⟩
    refine h.trans (List.IsSuffix.isInfix ?_)
    rw [List.dropWhile_append]
    split
    · rw [List.dropWhile_cons_of_neg (by simp)]
      exact List.suffix_cons ..
    · exact (List.suffix_cons ..).trans (List.suffix_append ..)

theorem mem_derive {expression : List Char} {p : Pattern} :
    p ∈ deriveDynamicPatterns expression ↔
      Joins expression ∧ ∃ token, Fragment expression token ∧ p = startPattern token := by
  rw [deriveDynamicPatterns, ← isDynamic_iff]
  split
  · rename_i hjoins
    simp only [hjoins, true_and, List.mem_map, List.mem_filter, tokensOf, List.mem_flatMap,
      decide_eq_true_eq, Fragment]
    exact exists_congr fun _ => and_congr_right fun _ => eq_comm
  · rename_i hjoins
    exact iff_of_false List.not_mem_nil fun h => hjoins h.1

/-- The patterns of an expression match the names that begin with a fragment. -/
theorem matchesAny_derive {expression : List Char} {name : Text} :
    matchesAny name.codes (deriveDynamicPatterns expression) = true ↔ Begun expression name := by
  have hstart (token : String) : ((startPattern token).find? name.codes).isSome = true ↔
      Text.ofString token <+: name := by
    rw [find?_startPattern, ← Text.codes_prefix_iff]
    simp [Text.ofString, Text.ofChars, Text.codes, Point.code, Function.comp_def]
  rw [matchesAny_iff, Begun]
  simp only [mem_derive]
  constructor
  · rintro ⟨p, ⟨hjoins, token, hfragment, rfl⟩, hfound⟩
    exact ⟨hjoins, token, hfragment, (hstart token).1 hfound⟩
  · rintro ⟨hjoins, token, hfragment, hname⟩
    exact ⟨_, ⟨hjoins, token, hfragment, rfl⟩, (hstart token).2 hname⟩

end Content

open Content (Begun IsStart Joins classExpressions deriveDynamicPatterns)

theorem readPatterns_append (a b : List PatternEntry) : readPatterns (a ++ b) =
    (readPatterns a).bind fun first => (readPatterns b).map (first ++ ·) := by
  have cons (p : Pattern) (x : Except Regex.PatternError (List Pattern)) :
      (x.bind fun first => (readPatterns b).map (first ++ ·)).map (p :: ·) =
        (x.map (p :: ·)).bind fun first => (readPatterns b).map (first ++ ·) := by
    cases x with
    | error e => rfl
    | ok first => cases readPatterns b <;> rfl
  induction a with
  | nil => cases h : readPatterns b <;> simp [readPatterns, Except.bind, Except.map, h]
  | cons entry rest ih =>
    cases entry with
    | pattern p => rw [List.cons_append, readPatterns, readPatterns, ih, cons]
    | other value => exact ih
    | text text =>
      rw [List.cons_append, readPatterns, readPatterns, ih]
      split
      · rfl
      split
      · exact cons ..
      · rfl
      · rfl

namespace Prune

/-! ## Patterns that are kept -/

/-- What patterns come to when they are kept in a cache and read back, and when one of each written
form is kept, any number of times. -/
inductive Passed (patterns : List Pattern) : List Pattern → Prop where
  | refl : Passed patterns patterns
  | deduped {kept : List Pattern} (h : Passed patterns kept) : Passed patterns (dedupePatterns kept)
  | cached {signature : String} {scan kept : Scan} (h : Passed patterns scan.dynamicPatterns)
      (hread : (CacheEntry.ofScan signature scan).scan = .ok kept) :
      Passed patterns kept.dynamicPatterns

theorem patterns_of_cached {signature : String} {scan kept : Scan}
    (hread : (CacheEntry.ofScan signature scan).scan = .ok kept) :
    readPatterns (scan.dynamicPatterns.map fun p => .text p.written) =
      .ok kept.dynamicPatterns := by
  rw [CacheEntry.scan, CacheEntry.ofScan, List.map_map] at hread
  obtain ⟨patterns, hpatterns, heq⟩ := bind_eq_ok.1 hread
  obtain rfl := Except.ok.inj heq
  exact hpatterns

/-- Patterns of all texts that start with a text stay the same. -/
theorem Passed.mem_iff {patterns kept : List Pattern} (hstart : ∀ p ∈ patterns, IsStart p)
    (h : Passed patterns kept) : ∀ p, p ∈ kept ↔ p ∈ patterns := by
  have told : ∀ {kept : List Pattern}, (∀ p, p ∈ kept ↔ p ∈ patterns) → Told kept := fun hkept =>
    told_of_plain fun p hp => Content.plain_of_isStart (hstart p ((hkept p).1 hp))
  induction h with
  | refl => exact fun p => Iff.rfl
  | deduped h ih => exact fun p => (mem_dedupePatterns_iff (told ih) p).trans (ih p)
  | cached h hread ih =>
    have hwritten := Content.readPatterns_written fun p hp => hstart p ((ih p).1 hp)
    rw [← Except.ok.inj (hwritten.symm.trans (patterns_of_cached hread))]
    exact ih

/-- A pattern of all texts that start with a text is read back beside any other patterns. -/
theorem mem_of_cached {signature : String} {scan kept : Scan} {p : Pattern} (hp : IsStart p)
    (hm : p ∈ scan.dynamicPatterns) (hread : (CacheEntry.ofScan signature scan).scan = .ok kept) :
    p ∈ kept.dynamicPatterns := by
  have hread := patterns_of_cached hread
  obtain ⟨before, after, hsplit⟩ := List.append_of_mem hm
  have hwritten := @Content.readPatterns_written [p] (by simpa using hp)
  rw [hsplit, List.map_append, ← List.singleton_append, List.map_append, readPatterns_append,
    readPatterns_append, hwritten] at hread
  obtain ⟨first, -, hread⟩ := bind_eq_ok.1 hread
  obtain ⟨rest, hrest, heq⟩ := map_eq_ok.1 hread
  obtain ⟨last, -, rfl⟩ := map_eq_ok.1 hrest
  rw [← heq]
  simp

/-! ## Scans that an expression reaches -/

/-- Scans that a class expression reaches: that of a content in which it stands, if patterns are
collected; one that was kept in a cache; and that of a project, one of whose files gives such a
scan. -/
inductive Reaches (expression : List Char) : Scan → Prop where
  | content {o : Options} {content cwd : String} {label : Option String} {scan : Scan}
      (ho : o.extractors = []) (hcollects : o.dynamicPatterns.collects = true)
      (hexpression : expression ∈ classExpressions content.toList)
      (h : scanContent o content label cwd = .ok scan) : Reaches expression scan
  | cached {signature : String} {scan kept : Scan} (hscan : Reaches expression scan)
      (h : (CacheEntry.ofScan signature scan).scan = .ok kept) : Reaches expression kept
  | project {o : Options} {disk : Disk} {cwd base path : String} {state : ScanState}
      {paths : List String} {scan : Scan} {sum : ProjectScan} (ho : o.extractors = [])
      (hcwd : Path.isAbsolute cwd = true) (hpath : path ∈ paths)
      (hfile : (scanFile o disk cwd base state path).1 = .ok (some scan))
      (hscan : Reaches expression scan)
      (h : (scanFiles o disk cwd base state paths).1 = .ok sum) : Reaches expression sum.scan

/-- A project scan holds the patterns of all texts that start with a text that a file gives. -/
theorem mem_patterns_scanFiles {o : Options} {disk : Disk} {cwd base path : String}
    {state : ScanState} {paths : List String} {scan : Scan} {sum : ProjectScan} {p : Pattern}
    (ho : o.extractors = []) (hcwd : Path.isAbsolute cwd = true) (hpath : path ∈ paths)
    (hfile : (scanFile o disk cwd base state path).1 = .ok (some scan))
    (hp : p ∈ scan.dynamicPatterns)
    (h : (scanFiles o disk cwd base state paths).1 = .ok sum) : p ∈ sum.scan.dynamicPatterns := by
  have hchecked : Extractor.checkAll o.extractors = .ok [] := by rw [ho]; rfl
  obtain ⟨found, named, hfound, hnamed, rfl⟩ := (scanFiles_ok_iff hcwd hchecked).1 h
  rw [scanFile, hchecked] at hfile
  obtain ⟨given, heq⟩ := addNamed_eq o
  rw [heq] at hnamed
  obtain ⟨listed, hlisted, hnamed⟩ := bind_eq_ok.1 hnamed
  obtain ⟨given, -, rfl⟩ := map_eq_ok.1 hnamed
  have hpatterns : listed.dynamicPatterns =
      (found.filterMap id).flatMap fun s => s.dynamicPatterns := by
    rw [(addSafelist_ok hlisted).1, Caching.total_eq, Scan.patterns_foldl]
    rfl
  have hplain : ∀ q ∈ listed.dynamicPatterns, q.Plain := by
    intro q hq
    rw [hpatterns] at hq
    obtain ⟨s, hs, hq⟩ := List.mem_flatMap.1 hq
    obtain ⟨s', hs', rfl⟩ := List.mem_filterMap.1 hs
    obtain ⟨path, -, hanswer⟩ := Outcome.exists_of_mem_mapM hfound hs'
    exact Caching.plain_answer (fun _ he => (List.not_mem_nil he).elim) hanswer q hq
  have hin : p ∈ listed.dynamicPatterns := by
    rw [hpatterns]
    exact List.mem_flatMap.2 ⟨scan, List.mem_filterMap.2
      ⟨some scan, Outcome.mem_of_mem_mapM hfound hpath hfile, rfl⟩, hp⟩
  rw [dedupePatterns, dedupeFrom_append]
  exact List.mem_append_left _ ((mem_dedupePatterns_iff (told_of_plain hplain) p).2 hin)

/-- A scan that an expression reaches holds its patterns. -/
theorem Reaches.mem_patterns {expression : List Char} {scan : Scan} (h : Reaches expression scan)
    {p : Pattern} (hp : p ∈ deriveDynamicPatterns expression) : p ∈ scan.dynamicPatterns := by
  induction h with
  | @content o content cwd label scan ho hcollects hexpression h =>
    obtain ⟨index, hyield⟩ := Content.mem_classExpressions hexpression true
    rw [scanContent, ho] at h
    obtain rfl := Except.ok.inj h
    rw [hcollects, Content.mem_patterns_scan]
    exact ⟨_, hyield, hp⟩
  | cached _ h ih => exact mem_of_cached (Content.isStart_of_mem_derive hp) ih h
  | project ho hcwd hpath hfile _ h ih => exact mem_patterns_scanFiles ho hcwd hpath hfile ih h

/-! ## Rules that stay -/

/-- The patterns of an expression are what is read from their sources, and they match a name exactly
if the expression joins texts and the name begins with a class token of a literal or fixed part of
it that ends in a hyphen. They are read back from a cache, and they match the same names behind it
and when one of each written form is kept. So pruning with a scan that the expression reaches leaves
all rules for such a name in their places, and counts the name as kept in every style sheet that
names it. -/
theorem joined_classes (expression : List Char) :
    (∀ p ∈ deriveDynamicPatterns expression, Pattern.read p.source {} = .ok p) ∧
    (∀ patterns, Passed (deriveDynamicPatterns expression) patterns → ∀ name : Text,
      matchesAny name.codes patterns = true ↔ Begun expression name) ∧
    (∀ signature (scan : Scan), Passed (deriveDynamicPatterns expression) scan.dynamicPatterns →
      ∃ kept, (CacheEntry.ofScan signature scan).scan = .ok kept) ∧
    ∀ scan, Reaches expression scan → ∀ (options : PruneOptions) safelist,
      readPatterns options.safelistPatterns = .ok safelist → ∃ u, usageOf scan options = .ok u ∧
        ∀ name, Begun expression name → ∀ (css : String) s, Css.read css.toList = .ok s →
          ((sheet u s).placed.filter fun x => x.2.classNames.contains name) =
            s.placed.filter (fun x => x.2.classNames.contains name) ∧
          ∀ result, pruneCss css scan options = .ok result →
            Text.ofString result.css = Css.written options.minify (sheet u s) ∧
              (name ∈ result.keptClasses ↔ Named s name) := by
  have hstart : ∀ p ∈ deriveDynamicPatterns expression, IsStart p := fun p hp =>
    Content.isStart_of_mem_derive hp
  refine ⟨?read, ?exact, ?stored, ?kept⟩
  case read =>
    intro p hp
    obtain ⟨token, -, rfl⟩ := hstart p hp
    exact Content.read_startPattern token
  case exact =>
    intro patterns h name
    rw [← Content.matchesAny_derive, matchesAny_iff, matchesAny_iff]
    simp only [h.mem_iff hstart]
  case stored =>
    intro signature scan h
    have hwritten := Content.readPatterns_written fun p hp => hstart p ((h.mem_iff hstart p).1 hp)
    rw [CacheEntry.scan, CacheEntry.ofScan, List.map_map]
    exact ⟨_, bind_eq_ok.2 ⟨_, hwritten, rfl⟩⟩
  case kept =>
    intro scan hscan options safelist hp
    obtain ⟨u, hu⟩ : ∃ u, usageOf scan options = .ok u := ⟨_, usageOf_eq hp⟩
    refine ⟨u, hu, fun name hname css s hs => ?_⟩
    have hcounts : Counts scan options safelist name := by
      obtain ⟨p, hmem, hfound⟩ := (matchesAny_iff _ _).1 (Content.matchesAny_derive.2 hname)
      exact .inr (.inr ⟨p, List.mem_append_left _ (hscan.mem_patterns hmem), hfound⟩)
    refine ⟨placed_filter (fun x hx => ?_) s, fun result hresult => ?_⟩
    · exact (keeps_iff_counts hp hu x.2).2 (Stays.of_named (List.contains_iff_mem.1 hx) hcounts)
    · rw [pruneCss_eq hu hs] at hresult
      obtain ⟨-, -, hkept, -⟩ := pruneSheet_ok hresult
      refine ⟨css_written hresult, ?_⟩
      rw [hkept, List.mem_filter, mem_classNamesOf hs, and_iff_left]
      exact (uses_iff hp hu name).2 hcounts

/-- The text `'btn-'+s` is assigned to a class name; its scan is kept in a cache. -/
theorem joined_classes_assignment :
    ∃ scan kept, scanContent { dynamicPatterns := .collect } "el.className='btn-'+s" none "" =
        .ok scan ∧ (CacheEntry.ofScan "" scan).scan = .ok kept ∧
      Passed (deriveDynamicPatterns "'btn-'+s".toList) (deriveDynamicPatterns "'btn-'+s".toList) ∧
      Reaches "'btn-'+s".toList kept ∧ Begun "'btn-'+s".toList (Text.ofString "btn-x") ∧
      matchesAny (Text.ofString "btn-x").codes (deriveDynamicPatterns "'btn-'+s".toList) = true ∧
      readPatterns [] = .ok [] ∧ ∃ s result, Css.read ".btn-x{}.c{}".toList = .ok s ∧
        pruneCss ".btn-x{}.c{}" kept {} = .ok result ∧
        (Text.ofString "btn-x" ∈ result.keptClasses ↔ Named s (Text.ofString "btn-x")) ∧
        result.keptClasses = [Text.ofString "btn-x"] := by
  let scan := Content.scan true none "el.className='btn-'+s".toList
  have hcached : (CacheEntry.ofScan "" scan).scan = .ok scan :=
    CacheEntry.scan_ofScan (Content.wellFormed_scan ..) ""
  have hexpression : "'btn-'+s".toList ∈ classExpressions "el.className='btn-'+s".toList := by
    decide +kernel
  have hreaches : Reaches "'btn-'+s".toList scan :=
    .cached (@Reaches.content _ { dynamicPatterns := .collect } _ "" none _ rfl rfl hexpression rfl)
      hcached
  have hbegun : Begun "'btn-'+s".toList (Text.ofString "btn-x") :=
    ⟨.inl (by decide), "btn-", ⟨⟨"btn-".toList, by decide +kernel, by decide +kernel⟩,
      by decide +kernel⟩, by decide +kernel⟩
  have ok : (Css.read ".btn-x{}.c{}".toList).isOk = true := by decide +kernel
  have keeps : (pruneCss ".btn-x{}.c{}" scan {}).toOption.map (·.keptClasses) =
      some [Text.ofString "btn-x"] := by decide +kernel
  obtain ⟨-, hexact, -, hkept⟩ := joined_classes "'btn-'+s".toList
  obtain ⟨u, -, hnames⟩ := hkept scan hreaches {} [] rfl
  refine ⟨scan, scan, rfl, hcached, .refl, hreaches, hbegun, (hexact _ .refl _).2 hbegun, rfl, ?_⟩
  cases hs : Css.read ".btn-x{}.c{}".toList with
  | error e => rw [hs] at ok; cases ok
  | ok s =>
    cases hr : pruneCss ".btn-x{}.c{}" scan {} with
    | error e => rw [hr] at keeps; cases keeps
    | ok result =>
      rw [hr] at keeps
      obtain ⟨-, hresult⟩ := hnames _ hbegun _ s hs
      exact ⟨s, result, rfl, rfl, (hresult result hr).2, Option.some.inj keeps⟩

end Prune

end StylePrune
