import StylePrune.Proofs.Content.Constants
import StylePrune.Proofs.Content.Origins
import StylePrune.Proofs.Project.Yields
import StylePrune.Proofs.Text.Words

/-!
# Reported classes are tokens

Whatever yields a class, a recogniser (`isToken_of_found`), an extractor, a safelist or an entry of
a cache, yields a token of class lists, and adding and merging keep it so (`Scan.Named`). One file
keeps the entries of the cache such that they hold tokens (`Caching.named_scanFile`), and so does
every run over files. So what is scanned, with a cache that nothing but scans filled (`Filled`), has
tokens alone (`reported_tokens`).
-/

namespace StylePrune

open ClassList (isToken isFirst)
open Outcome (bind_eq_ok map_eq_ok mapError_eq_ok)

/-! ## Classes that recognisers yield -/

namespace Content

theorem hasScheme_eq_false : ∀ {cs : List Char}, ':' ∉ cs → ClassList.hasScheme cs = false
  | [], _ => rfl
  | c :: rest, h => by
    rw [List.mem_cons, not_or] at h
    have hrest := hasScheme_eq_false h.2
    unfold ClassList.hasScheme
    split
    · rfl
    · rename_i heq
      exact absurd (List.cons.inj heq).1.symm h.1
    · rename_i heq
      rwa [← (List.cons.inj heq).2]

/-- A name that is cut out as a run of letters, digits, underscores and hyphens is a token. -/
theorem isToken_of_isFirst {name : List Char} (hne : name ≠ [])
    (h : ∀ c ∈ name, isFirst c = true) : isToken name = true := by
  have hscheme : ClassList.hasScheme name = false :=
    hasScheme_eq_false fun hmem => absurd (h ':' hmem) (by decide)
  cases name with
  | nil => exact absurd rfl hne
  | cons c rest =>
    obtain ⟨hc, hrest⟩ := List.forall_mem_cons.1 h
    have hlater : rest.all ClassList.isLater = true := List.all_eq_true.2 fun d hd => by
      rw [ClassList.isLater, hrest d hd]
      rfl
    rw [isToken, hc, hlater, hscheme]
    rfl

theorem isToken_takeWhile {cs : List Char} (h : (cs.takeWhile isFirst).isEmpty = false) :
    isToken (cs.takeWhile isFirst) = true :=
  isToken_of_isFirst (fun hnil => by rw [hnil] at h; cases h) fun _ hc =>
    (List.mem_takeWhile_imp hc)

theorem isToken_of_className {r : Recogniser} (hr : r ∈ classNames) {before : Option Char}
    {cs : List Char} {found : Find} (h : r before cs = some found) :
    isToken found.value = true := by
  simp only [classNames, List.mem_cons, List.not_mem_nil, or_false] at hr
  rcases hr with rfl | rfl
  · unfold classDirective at h
    split at h
    · cases h
    obtain ⟨rest, -, h⟩ := Option.bind_eq_some_iff.1 h
    dsimp only at h
    split at h
    · cases h
    rename_i hname
    rw [Bool.or_eq_true, not_or, Bool.not_eq_true] at hname
    obtain rfl := Option.some.inj h
    exact isToken_takeWhile hname.1
  · unfold classBinding at h
    obtain ⟨rest, -, h⟩ := Option.bind_eq_some_iff.1 h
    dsimp only at h
    split at h
    · cases h
    rename_i hname
    obtain ⟨behind, -, h⟩ := Option.bind_eq_some_iff.1 h
    obtain ⟨quoted, -, h⟩ := Option.bind_eq_some_iff.1 h
    split at h
    · split at h
      · split at h
        · obtain rfl := Option.some.inj h
          exact isToken_takeWhile (Bool.eq_false_iff.2 hname)
        · cases h
      · cases h
    · cases h

theorem isToken_of_tokensOf {texts : List (List Char)} {name : String}
    (h : name ∈ tokensOf texts) : isToken name.toList = true := by
  obtain ⟨text, -, h⟩ := List.mem_flatMap.1 h
  exact isToken_of_mem h

/-- Constants stand for tokens. -/
theorem isToken_of_constant {content name : List Char} {tokens : List String}
    (h : (collectConstants content).lookup (String.ofList name) = some tokens) :
    ∀ token ∈ tokens, isToken token.toList = true := by
  have declared : ∀ (ds : List Declaration) (constants : Constants),
      (∀ ts, constants.lookup (String.ofList name) = some ts →
        ∀ token ∈ ts, isToken token.toList = true) →
      ∀ ts, (ds.foldl addDeclaration constants).lookup (String.ofList name) = some ts →
        ∀ token ∈ ts, isToken token.toList = true := by
    intro ds
    induction ds with
    | nil => exact fun _ h => h
    | cons d ds ih =>
      refine fun constants hconstants => ih _ fun ts hts => ?_
      obtain ⟨hset, hunset⟩ := lookup_addDeclaration constants d name
      by_cases hd : d.Sets name
      · obtain rfl := Option.some.inj ((hset hd).symm.trans hts)
        exact fun token htoken => isToken_of_tokensOf ((mem_distinct _).1 htoken)
      · exact hconstants ts ((hunset hd).symm.trans hts)
  exact declared _ [] (fun _ h => by cases h) tokens h

theorem isToken_of_expression {content expression : List Char} {name : String}
    (h : name ∈ expressionTokens expression (collectConstants content)) :
    isToken name.toList = true := by
  rw [expressionTokens, mem_distinct, List.mem_append] at h
  rcases h with h | h
  · exact isToken_of_tokensOf h
  · obtain ⟨text, -, h⟩ := List.mem_flatMap.1 h
    cases hlookup : (collectConstants content).lookup (String.ofList text) with
    | none =>
      rw [hlookup] at h
      cases h
    | some tokens =>
      rw [hlookup] at h
      exact isToken_of_constant hlookup name h

theorem isToken_of_found {content text : List Char} {name : String} {start : Nat}
    (h : Found content name text start) : isToken name.toList = true := by
  cases h with
  | list _ _ h => exact isToken_of_mem h
  | @name r x hr hx h =>
    obtain ⟨_, _, before, -, -, hfound⟩ := exists_of_mem_findAllFrom hx
    rw [h, String.toList_ofList]
    exact isToken_of_className hr hfound
  | expression _ _ h => exact isToken_of_expression h
  | braced _ _ _ h => exact isToken_of_expression h
  | arguments _ _ _ h => exact isToken_of_expression h

end Content

/-! ## Scans whose classes are tokens -/

namespace Scan

variable {a b scan : Scan}

/-- Every class of the scan is a token, and origins are kept for such classes alone. -/
structure Named (scan : Scan) : Prop where
  tokens : ∀ name ∈ scan.classes, isToken name.toList = true
  backed : scan.Backed

theorem Named.of_class_or_origin (h : scan.Named) {name : String}
    (hname : name ∈ scan.classes ∨ name ∈ scan.origins.names) :
    tokenizeClassList name.toList = [name] :=
  tokenizeClassList_token (h.tokens name (hname.elim id (h.backed name)))

theorem Named.empty : ({} : Scan).Named := ⟨fun _ h => (List.not_mem_nil h).elim, .empty⟩

theorem Named.addClass (h : scan.Named) {name : String} (hname : isToken name.toList = true)
    (origin : Option String) : (scan.addClass name origin).Named where
  tokens other hother := by
    rcases (Sorted.mem_insert Sorted.strict_stringLt ..).1 hother with rfl | hother
    · exact hname
    · exact h.tokens other hother
  backed := h.backed.addClass name origin

theorem Named.addTokens {origin : Option String} : ∀ {tokens : List String},
    (∀ name ∈ tokens, isToken name.toList = true) → ∀ {scan : Scan}, scan.Named →
      (tokens.foldl (fun scan name => scan.addClass name origin) scan).Named
  | [], _, _, h => h
  | _ :: _, htokens, _, h =>
    addTokens (List.forall_mem_cons.1 htokens).2 (h.addClass (List.forall_mem_cons.1 htokens).1 _)

theorem Named.merge (ha : a.Named) (hb : b.Named) : (a.merge b).Named where
  tokens name hname :=
    ((Sorted.mem_union Sorted.strict_stringLt ..).1 hname).elim (ha.tokens name) (hb.tokens name)
  backed := ha.backed.merge hb.backed

theorem Named.foldl (ha : a.Named) {scans : List Scan} (h : ∀ s ∈ scans, s.Named) :
    (scans.foldl Scan.merge a).Named := by
  induction scans generalizing a with
  | nil => exact ha
  | cons s rest ih =>
    obtain ⟨hs, hrest⟩ := List.forall_mem_cons.1 h
    exact ih (ha.merge hs) hrest

end Scan

theorem Content.named_scan (collectDynamic : Bool) (label : Option String) (content : List Char) :
    (Content.scan collectDynamic label content).Named where
  tokens name hname := by
    obtain ⟨text, start, hfound⟩ := mem_classes_iff.1 hname
    exact isToken_of_found hfound
  backed := backed_scan collectDynamic label content

theorem Extractor.named_contribution {context : Context} {label : Option String} {e : Extractor}
    {scan : Scan} (h : contribution context label e = .ok scan) : scan.Named := by
  have folded : ∀ (entries : List (Option (List Char × Nat))) (s : Scan), s.Named →
      (entries.foldl (addFound label) s).Named := by
    intro entries
    induction entries with
    | nil => exact fun _ h => h
    | cons entry rest ih =>
      refine fun s h => ih _ ?_
      cases entry with
      | none => exact h
      | some found => exact h.addTokens fun name hname => isToken_of_mem hname
  rw [contribution] at h
  split at h
  · obtain rfl := Except.ok.inj h
    exact ⟨Scan.Named.empty.tokens, .empty⟩
  · obtain rfl := Except.ok.inj h
    exact .empty
  · rw [applyResult_eq] at h
    obtain ⟨reading, -, rfl⟩ := map_eq_ok.1 h
    have hread := folded reading.entries
      { warnings := [] ++ reading.warnings.map fun text => s!"[{e.name}] {text}" }
      ⟨Scan.Named.empty.tokens, .empty⟩
    exact ⟨hread.tokens, hread.backed⟩

section

variable {o : Options} {extractors : List Extractor} {content cwd : String} {label : Option String}
  {scan named : Scan}

theorem named_scanText (h : scanText o extractors content label cwd = .ok scan) : scan.Named := by
  rw [scanText] at h
  split at h
  · obtain rfl := Except.ok.inj h
    exact Content.named_scan ..
  · have h := mapError_eq_ok.1 h
    rw [Extractor.run_eq] at h
    obtain ⟨scans, hscans, rfl⟩ := map_eq_ok.1 h
    have hmerged := Scan.Named.foldl .empty fun s hs => by
      obtain ⟨e, -, he⟩ := Outcome.exists_of_mem_mapM hscans hs
      exact Extractor.named_contribution he
    exact ⟨hmerged.tokens, hmerged.backed⟩

theorem named_scanContent (h : scanContent o content label cwd = .ok scan) : scan.Named := by
  rw [scanContent] at h
  split at h
  · cases h
  · exact named_scanText h

theorem named_addSafelist : ∀ {entries : List SafelistEntry} {scan named : Scan}, scan.Named →
    addSafelist scan entries = .ok named → named.Named
  | [], _, _, hscan, h => Except.ok.inj h ▸ hscan
  | .text list :: rest, scan, named, hscan, h => by
    rw [addSafelist] at h
    refine named_addSafelist ⟨fun name hname => ?_, fun name hname => ?_⟩ h
    · exact ((Sorted.mem_union Sorted.strict_stringLt ..).1 hname).elim (hscan.tokens name)
        isToken_of_mem
    · exact (Sorted.mem_union Sorted.strict_stringLt ..).2 (.inl (hscan.backed name hname))
  | .other value :: rest, _, _, _, h => by cases h

theorem named_addNamed (hscan : scan.Named) (h : addNamed o scan = .ok named) : named.Named := by
  obtain ⟨given, heq⟩ := addNamed_eq o
  rw [heq] at h
  obtain ⟨listed, hlisted, h⟩ := bind_eq_ok.1 h
  obtain ⟨given, -, rfl⟩ := map_eq_ok.1 h
  have hlisted := named_addSafelist hscan hlisted
  exact ⟨hlisted.tokens, hlisted.backed⟩

end

/-! ## Caches -/

/-- Every class that an entry of the cache holds is a token, and origins are held for such classes
alone. -/
structure ScanCache.Named (cache : ScanCache) : Prop where
  tokens : ∀ path e, (path, e) ∈ cache.entries → ∀ name ∈ e.classes, isToken name.toList = true
  backed : cache.Backed

theorem ScanCache.Named.congr {cache after : ScanCache} (h : cache.Named)
    (hentries : after.entries = cache.entries) : after.Named where
  tokens := hentries ▸ h.tokens
  backed := by
    rw [Backed, hentries]
    exact h.backed

theorem ScanCache.Named.set {cache after : ScanCache} {scan : Scan} {path signature : String}
    (h : cache.Named) (hscan : scan.Named) (hentries : after.entries =
      setMember cache.entries path (CacheEntry.ofScan signature scan)) : after.Named where
  tokens other e he := by
    rw [hentries] at he
    rcases mem_setMember he with heq | he
    · obtain ⟨-, rfl⟩ := Prod.mk.inj heq
      exact hscan.tokens
    · exact h.tokens other e he
  backed other e he := by
    rw [hentries] at he
    rcases mem_setMember he with heq | he
    · obtain ⟨-, rfl⟩ := Prod.mk.inj heq
      exact hscan.backed
    · exact h.backed other e he

/-- The cache, if there is one, holds tokens. -/
def ScanState.Named (state : ScanState) : Prop := ∀ cache, state.cache = some cache → cache.Named

namespace Caching

variable {s : Scanner} {disk : Disk} {state : ScanState} {path : String} {scan : Scan}

theorem named_answer (hstate : state.Named) (h : answer s disk state path = .ok (some scan)) :
    scan.Named := by
  refine ⟨?_, backed_answer (fun cache hcache => (hstate cache hcache).backed) h⟩
  rcases answer_ok h with ⟨content, hscan⟩ | ⟨cache, e, hc, he, hscan⟩
  · exact (named_scanText hscan).tokens
  · rw [CacheEntry.scan] at hscan
    obtain ⟨patterns, -, heq⟩ := bind_eq_ok.1 hscan
    obtain rfl := Except.ok.inj heq
    exact fun name hname => (hstate cache hc).tokens _ e he name
      ((Sorted.mem_ofList Sorted.strict_stringLt ..).1 hname)

/-- Scanning a file leaves tokens in the cache. -/
theorem named_scanFile (hstate : state.Named) (s : Scanner) (disk : Disk) (path : String) :
    (s.scanFile disk state path).2.Named := by
  intro after hafter
  rcases entries_scanFile s disk state path with hsame | ⟨signature, scan, -, -, hfresh, hset⟩
  · rw [hafter, Option.map_some, eq_comm] at hsame
    obtain ⟨cache, hcache, hentries⟩ := Option.map_eq_some_iff.1 hsame
    exact (hstate cache hcache).congr hentries.symm
  · rw [hafter, Option.map_some, eq_comm] at hset
    obtain ⟨cache, hcache, hentries⟩ := Option.map_eq_some_iff.1 hset
    obtain ⟨content, hscan⟩ := scan_freshScan hfresh
    exact (hstate cache hcache).set (named_scanText hscan) hentries.symm

/-- A run over files leaves tokens in the cache, and gives tokens. -/
theorem named_scanEach (s : Scanner) (disk : Disk) : ∀ (paths : List String) {state : ScanState}
    {sum : ProjectScan}, state.Named → sum.scan.Named →
      (s.scanEach disk state sum paths).2.Named ∧
        ∀ total, (s.scanEach disk state sum paths).1 = .ok total → total.scan.Named
  | [], _, _, hstate, hsum => ⟨hstate, fun _ h => Except.ok.inj h ▸ hsum⟩
  | path :: rest, state, sum, hstate, hsum => by
    have hafter := named_scanFile hstate s disk path
    have hanswer : ∀ scan, (s.scanFile disk state path).1 = .ok (some scan) → scan.Named :=
      fun scan => named_answer hstate
    rw [Scanner.scanEach]
    generalize s.scanFile disk state path = result at hafter hanswer
    obtain ⟨result, after⟩ := result
    cases result with
    | error e => exact ⟨hafter, fun _ h => by cases h⟩
    | ok found =>
      cases found with
      | none => exact named_scanEach s disk rest hafter hsum
      | some scan => exact named_scanEach s disk rest hafter (hsum.merge (hanswer scan rfl))

end Caching

section

variable {o : Options} {disk : Disk} {cwd base : String} {state : ScanState}

theorem named_scanFile (hstate : state.Named) (o : Options) (disk : Disk)
    (cwd base path : String) : (scanFile o disk cwd base state path).2.Named := by
  rw [scanFile]
  split
  · exact hstate
  · exact Caching.named_scanFile hstate _ disk path

theorem named_scanFiles (hstate : state.Named) (o : Options) (disk : Disk) (cwd base : String)
    (paths : List String) : (scanFiles o disk cwd base state paths).2.Named ∧
      ∀ sum, (scanFiles o disk cwd base state paths).1 = .ok sum → sum.scan.Named := by
  rw [scanFiles]
  split
  · exact ⟨hstate, fun _ h => by cases h⟩
  rename_i extractors _
  have hnone : ({} : ProjectScan).scan.Named := .empty
  have heach := Caching.named_scanEach ⟨o, extractors, cwd, Path.absolute cwd base⟩ disk paths
    hstate hnone
  generalize Scanner.scanEach _ disk state {} paths = result at heach
  obtain ⟨result, after⟩ := result
  cases result with
  | error e => exact ⟨heach.1, fun _ h => by cases h⟩
  | ok total =>
    refine ⟨heach.1, fun sum h => ?_⟩
    obtain ⟨named, hnamed, rfl⟩ := map_eq_ok.1 h
    exact named_addNamed (heach.2 total rfl) hnamed

end

/-- Caches that scans alone filled: empty ones, those that a scan of a text was put into, those that
were asked for a scan or that files were scanned with, with any options, and those opened on a file
with the entries of such a cache. -/
inductive Filled : ScanCache → Prop where
  | empty {cache : ScanCache} (h : cache.entries = []) : Filled cache
  | put {cache : ScanCache} (h : Filled cache) {o : Options} {content cwd : String}
      {label : Option String} {scan : Scan} (hscan : scanContent o content label cwd = .ok scan)
      (path signature : String) : Filled (cache.put path signature scan)
  | asked {cache after : ScanCache} (h : Filled cache) {path signature : String}
      {found : Option Scan} (hget : cache.get path signature = .ok (found, after)) : Filled after
  | scannedFile {cache after : ScanCache} (h : Filled cache) {o : Options} {disk : Disk}
      {cwd base path : String} {tally : Tally}
      (hafter : (scanFile o disk cwd base ⟨some cache, tally⟩ path).2.cache = some after) :
      Filled after
  | scannedFiles {cache after : ScanCache} (h : Filled cache) {o : Options} {disk : Disk}
      {cwd base : String} {paths : List String} {tally : Tally}
      (hafter : (scanFiles o disk cwd base ⟨some cache, tally⟩ paths).2.cache = some after) :
      Filled after
  | opened {cache : ScanCache} (h : Filled cache) {disk : Disk} {path : String}
      (hload : CacheFile.load disk path = cache.entries) : Filled (.ofFile disk path)

theorem Filled.named {cache : ScanCache} (h : Filled cache) : cache.Named := by
  have alone : ∀ {cache : ScanCache} {tally : Tally}, cache.Named →
      ScanState.Named ⟨some cache, tally⟩ := fun h _ heq => Option.some.inj heq ▸ h
  induction h with
  | @empty cache h =>
    have hnone : ∀ {e}, e ∉ cache.entries := fun he => List.not_mem_nil (h ▸ he)
    exact ⟨fun _ _ he => (hnone he).elim, fun _ _ he => (hnone he).elim⟩
  | put _ hscan path signature ih => exact ih.set (named_scanContent hscan) rfl
  | asked _ hget ih =>
    rw [ScanCache.get] at hget
    split at hget
    · obtain ⟨-, rfl⟩ := Prod.mk.inj (Except.ok.inj hget)
      exact ih.congr rfl
    · obtain ⟨scan, -, heq⟩ := map_eq_ok.1 hget
      obtain ⟨-, rfl⟩ := Prod.mk.inj heq
      exact ih.congr rfl
  | scannedFile _ hafter ih => exact named_scanFile (alone ih) _ _ _ _ _ _ hafter
  | scannedFiles _ hafter ih => exact (named_scanFiles (alone ih) _ _ _ _ _).1 _ hafter
  | opened _ hload ih => exact ih.congr hload

/-- The tokens of a class list are their own only tokens, and a blank between two class lists parts
their tokens. Every class that a scan of a text reports, with whatever options, label and
extractors, is its own only token, and so is every class that it gives origins for. The same holds
of scans of files, without a cache or with one that scans alone filled. -/
theorem reported_tokens :
    (∀ value, ∀ token ∈ tokenizeClassList value, tokenizeClassList token.toList = [token]) ∧
    (∀ u v, tokenizeClassList (u ++ ' ' :: v) = tokenizeClassList u ++ tokenizeClassList v) ∧
    (∀ o content label cwd scan, scanContent o content label cwd = .ok scan →
      ∀ name, name ∈ scan.classes ∨ name ∈ scan.origins.names →
        tokenizeClassList name.toList = [name]) ∧
    ∀ o disk cwd base state paths sum, (∀ cache, state.cache = some cache → Filled cache) →
      (scanFiles o disk cwd base state paths).1 = .ok sum →
      ∀ name, name ∈ sum.scan.classes ∨ name ∈ sum.scan.origins.names →
        tokenizeClassList name.toList = [name] := by
  refine ⟨fun value token h => tokenizeClassList_token (isToken_of_mem h),
    fun u v => tokenizeClassList_append (by decide) u v, ?text, ?files⟩
  case text =>
    exact fun o content label cwd scan h name => (named_scanContent h).of_class_or_origin
  case files =>
    intro o disk cwd base state paths sum hcache h name
    have hstate : state.Named := fun cache hc => (hcache cache hc).named
    exact ((named_scanFiles hstate ..).2 sum h).of_class_or_origin

/-- The second run finds one page in the cache that the first one filled. -/
theorem reported_tokens_cached :
    let first := scanFiles {} TwoPages.project "/p" "" ⟨some {}, {}⟩ ["b.jsx"]
    ∃ sum, (scanFiles { safelist := [.text "w-1/2, 'on' a://b"] } TwoPages.project "/p" "" first.2
        ["a.jsx", "b.jsx"]).1 = .ok sum ∧ sum.scan.classes = ["btn-", "on", "w-1/2", "xyz"] ∧
      ∀ name ∈ sum.scan.classes, tokenizeClassList name.toList = [name] := by
  intro first
  obtain ⟨-, -, -, hfiles⟩ := reported_tokens
  have hread : (scanFiles { safelist := [.text "w-1/2, 'on' a://b"] } TwoPages.project "/p" ""
      first.2 ["a.jsx", "b.jsx"]).1.toOption.map (fun sum => sum.scan.classes) =
        some ["btn-", "on", "w-1/2", "xyz"] := by decide +kernel
  cases hsum : (scanFiles { safelist := [.text "w-1/2, 'on' a://b"] } TwoPages.project "/p" ""
      first.2 ["a.jsx", "b.jsx"]).1 with
  | error e =>
    rw [hsum] at hread
    cases hread
  | ok sum =>
    rw [hsum] at hread
    have hfilled : ∀ cache, first.2.cache = some cache → Filled cache :=
      fun cache hcache => .scannedFiles (.empty rfl) hcache
    exact ⟨sum, rfl, Option.some.inj hread, fun name hname =>
      hfiles _ _ _ _ _ _ sum hfilled hsum name (.inl hname)⟩

end StylePrune
