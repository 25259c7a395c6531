import StylePrune.Proofs.Content.Find
import StylePrune.Proofs.Content.Shape
import StylePrune.Proofs.Outcome
import StylePrune.Proofs.Regex.OwnFlags
import StylePrune.Proofs.Scan.Order

/-!
# Patterns known by their written form

The written form of a pattern tells its source and three of its flags (`written_inj`). A pattern is
plain if it is read from these again: what is read from text is plain (`plain_of_readPatterns`), and
so is what recognisers find (`plain_of_isStart`). Two plain patterns that are written alike are one
(`told_of_plain`), so a scan holds all that is found in its text (`mem_patterns_scan`). The written
form of a pattern that was read from text gives the pattern again if its source stands on one line,
and no pattern with that source otherwise (`written_reads_back`). To leave out all but the first of
the patterns that are written alike loses none that was read from text (`dedupePatterns_lossless`).
-/

namespace StylePrune

open Regex (Flags Pattern)

namespace Regex

/-- Those of some flags that a written pattern shows. -/
def Flags.shown (flags : Flags) : Flags where
  ignoreCase := flags.ignoreCase
  multiline := flags.multiline
  dotAll := flags.dotAll

/-- The flags that a pattern shows may be added to flags among its own. -/
theorem Flags.Within.union_shown {F : Flags} {flags : Flags} (h : F.Within flags)
    (hF : F.shown = F) : F.union flags.shown = flags.shown ∧ flags.shown.Within flags := by
  obtain ⟨i, m, s, x, a, u, t⟩ := F
  obtain ⟨i', m', s', x', a', u', t'⟩ := flags
  simp only [Flags.Within, Flags.union, Flags.shown, Flags.mk.injEq, Bool.or_eq_left_iff_imp,
    Bool.or_eq_right_iff_imp] at *
  grind

namespace Pattern

/-- A pattern that is read again from its source and the flags that it is written with. -/
def Plain (p : Pattern) : Prop := read p.source p.flags.shown = .ok p

theorem source_read {source : String} {F : Flags} {p : Pattern} (h : read source F = .ok p) :
    p.source = source := by
  rw [read] at h
  split at h
  · cases h
  dsimp only at h
  split at h
  · cases h
  · obtain rfl := Except.ok.inj h
    rfl

theorem plain_read {source : String} {F : Flags} {p : Pattern} (hF : F.shown = F)
    (h : read source F = .ok p) : p.Plain := by
  obtain ⟨hwithin, hagain⟩ := read_union (G := p.flags.shown) rfl h
  obtain ⟨hunion, hshown⟩ := hwithin.union_shown hF
  rw [Plain, source_read h, ← hunion]
  exact hagain hshown

/-- What a written pattern shows: its source, and three of its flags. -/
theorem written_inj {p q : Pattern} (h : p.written = q.written) :
    p.source = q.source ∧ p.flags.shown = q.flags.shown := by
  have noSlash (p : Pattern) : '/' ∉ p.flagLetters.toList := by
    rw [flagLetters]
    cases p.flags.ignoreCase <;> cases p.flags.multiline <;> cases p.flags.dotAll <;> decide
  have toList (p : Pattern) : p.written.toList.tail.reverse =
      p.flagLetters.toList.reverse ++ '/' :: p.source.toList.reverse := by
    simp [written, String.toList_append]
  have hreverse := congrArg (fun w : String => w.toList.tail.reverse) h
  simp only [toList] at hreverse
  obtain ⟨hletters, hsource⟩ := Content.append_char_injective
    (mt List.mem_reverse.1 (noSlash p)) (mt List.mem_reverse.1 (noSlash q)) hreverse
  refine ⟨String.toList_inj.1 (List.reverse_inj.1 hsource), ?_⟩
  have hletters := List.reverse_inj.1 hletters
  simp only [flagLetters] at hletters
  simp only [Flags.shown, Flags.mk.injEq, and_true]
  revert hletters
  cases p.flags.ignoreCase <;> cases p.flags.multiline <;> cases p.flags.dotAll <;>
    cases q.flags.ignoreCase <;> cases q.flags.multiline <;> cases q.flags.dotAll <;> decide

/-- A plain pattern is known by its written form. -/
theorem Plain.eq_of_written {p q : Pattern} (hp : p.Plain) (hq : q.Plain)
    (h : p.written = q.written) : p = q := by
  obtain ⟨hsource, hflags⟩ := written_inj h
  rw [Plain, hsource, hflags, hq] at hp
  exact (Except.ok.inj hp).symm

end Pattern

end Regex

theorem told_of_plain {patterns : List Pattern} (h : ∀ p ∈ patterns, p.Plain) : Told patterns :=
  fun _ hp _ hq => (h _ hp).eq_of_written (h _ hq)

theorem PatternEntry.plain_read {text : List Char} {p : Pattern} (h : read text = .ok p) :
    p.Plain := by
  rw [read] at h
  split at h
  · exact Pattern.plain_read rfl h
  · exact Pattern.plain_read rfl h

/-- The patterns of a list are plain if those in it that were patterns before are. -/
theorem plain_of_readPatterns {entries : List PatternEntry} {patterns : List Pattern}
    (hentries : ∀ p, .pattern p ∈ entries → p.Plain) (h : readPatterns entries = .ok patterns) :
    ∀ p ∈ patterns, p.Plain := by
  induction entries generalizing patterns with
  | nil =>
    obtain rfl := Except.ok.inj h
    exact fun _ hp => (List.not_mem_nil hp).elim
  | cons entry rest ih =>
    have hrest : ∀ p, .pattern p ∈ rest → p.Plain := fun p hp =>
      hentries p (List.mem_cons_of_mem entry hp)
    have hcons {p : Pattern} (hp : p.Plain) (h : (readPatterns rest).map (p :: ·) = .ok patterns) :
        ∀ q ∈ patterns, q.Plain := by
      obtain ⟨more, hmore, rfl⟩ := Outcome.map_eq_ok.1 h
      exact List.forall_mem_cons.2 ⟨hp, ih hrest hmore⟩
    cases entry with
    | pattern p => exact hcons (hentries p List.mem_cons_self) h
    | other value => exact ih hrest h
    | text text =>
      rw [readPatterns] at h
      split at h
      · exact ih hrest h
      split at h
      · rename_i p hp
        exact hcons (PatternEntry.plain_read hp) h
      · exact ih hrest h
      · cases h

theorem Content.plain_of_isStart {p : Pattern} (h : IsStart p) : p.Plain := by
  obtain ⟨text, -, rfl⟩ := h
  exact Pattern.plain_read rfl (read_startPattern text)

/-- A scan holds the patterns that its recognisers yield. -/
theorem Content.mem_patterns_scan {collectDynamic : Bool} {label : Option String}
    {content : List Char} {p : Pattern} :
    p ∈ (scan collectDynamic label content).dynamicPatterns ↔
      ∃ y ∈ yields collectDynamic content, p ∈ y.patterns := by
  have tokens : ∀ (source : Source) (ts : List (String × Nat)) (s : Scan),
      (ts.foldl (fun s t => s.addClass t.1 (source.origin t.2)) s).dynamicPatterns =
        s.dynamicPatterns := by
    intro source ts
    induction ts with
    | nil => exact fun _ => rfl
    | cons t ts ih => exact fun s => ih (s.addClass t.1 (source.origin t.2))
  have folded : ∀ (source : Source) (ys : List Yield) (s : Scan),
      (ys.foldl (addYield source) s).dynamicPatterns =
        s.dynamicPatterns ++ ys.flatMap Yield.patterns := by
    intro source ys
    induction ys with
    | nil => simp
    | cons y ys ih =>
      intro s
      rw [List.foldl_cons, ih, List.flatMap_cons, ← List.append_assoc]
      exact congrArg (· ++ y.patterns ++ _) (tokens source y.tokens s)
  have hstart : ∀ q ∈ (yields collectDynamic content).flatMap Yield.patterns, q.Plain := by
    intro q hq
    obtain ⟨y, hy, hq⟩ := List.mem_flatMap.1 hq
    exact plain_of_isStart (isStart_of_mem_yields hy hq)
  rw [scan]
  dsimp only
  rw [folded, List.nil_append, mem_dedupePatterns_iff (told_of_plain hstart), List.mem_flatMap]

/-! ## Reading written patterns -/

namespace Regex.Pattern

theorem toList_written (p : Pattern) :
    p.written.toList = '/' :: (p.source.toList ++ '/' :: p.flagLetters.toList) := by
  simp [written, String.toList_append]

/-- The letters of a pattern are flag letters, and name the flags that it shows. -/
theorem flagsOf_flagLetters (p : Pattern) :
    p.flagLetters.toList.all PatternEntry.isFlagLetter = true ∧
      PatternEntry.flagsOf p.flagLetters.toList = p.flags.shown := by
  rw [flagLetters, Flags.shown]
  cases p.flags.ignoreCase <;> cases p.flags.multiline <;> cases p.flags.dotAll <;> decide

/-- The written form of a plain pattern is read as that pattern, unless its source is empty or has
several lines. -/
theorem Plain.read_written {p : Pattern} (hp : p.Plain) (hsource : p.source.toList ≠ [])
    (hline : '\n' ∉ p.source.toList) : PatternEntry.read p.written.toList = .ok p := by
  obtain ⟨hletters, hflags⟩ := p.flagsOf_flagLetters
  rw [PatternEntry.read, toList_written, Content.splitSlashes?_written hletters,
    if_pos ⟨hsource, hline⟩]
  simp only [String.ofList_toList, hflags]
  exact hp

/-- A source of several lines is not found in the written form: what is read there, if anything, is
a pattern whose source is the whole of it. -/
theorem source_read_written {p q : Pattern} (hline : '\n' ∈ p.source.toList)
    (h : PatternEntry.read p.written.toList = .ok q) : q.source = p.written := by
  rw [PatternEntry.read, toList_written, Content.splitSlashes?_written p.flagsOf_flagLetters.1,
    if_neg fun hbody => hbody.2 hline, ← toList_written, String.ofList_toList] at h
  exact source_read h

theorem written_ne_source (p : Pattern) : p.written ≠ p.source := by
  intro h
  have hlength := congrArg (fun s : String => s.toList.length) h
  simp only [toList_written, List.length_cons, List.length_append] at hlength
  omega

end Regex.Pattern

/-- A list of one text gives one pattern just if the text between its outer blanks is read as it. -/
theorem readPatterns_single {text : String} {p : Pattern} :
    readPatterns [.text text] = .ok [p] ↔
      trimChars text.toList ≠ [] ∧ PatternEntry.read (trimChars text.toList) = .ok p := by
  rw [readPatterns, ne_eq, ← List.isEmpty_iff]
  split
  · rename_i hblank
    exact iff_of_false (fun h => by cases h) fun h => h.1 hblank
  · rename_i hblank
    rw [and_iff_right hblank]
    cases PatternEntry.read (trimChars text.toList) with
    | ok q => exact ⟨fun h => by cases h; rfl, fun h => by cases h; rfl⟩
    | error e =>
      cases e <;> exact iff_of_false (fun h => by cases h) fun h => by cases h

/-- What an entry is read from: not nothing, and on one line just if the entry is. -/
theorem PatternEntry.source_of_read {text : List Char} {p : Pattern} (htext : text ≠ [])
    (h : read text = .ok p) :
    p.source.toList ≠ [] ∧ ('\n' ∈ p.source.toList ↔ '\n' ∈ text) := by
  rw [read] at h
  split at h
  · rename_i body letters hsplit
    obtain ⟨rfl, hletters⟩ := Content.splitSlashes?_eq_some hsplit
    rw [Content.splitSlashes?_written hletters] at hsplit
    split at hsplit
    · rename_i hbody
      rw [Pattern.source_read h, String.toList_ofList]
      refine ⟨hbody.1, iff_of_false hbody.2 ?_⟩
      have hflags : '\n' ∉ letters := fun hm =>
        absurd (List.all_eq_true.1 hletters '\n' hm) (by decide)
      simp [hbody.2, hflags]
    · cases hsplit
  · rw [Pattern.source_read h, String.toList_ofList]
    exact ⟨htext, .rfl⟩

/-- The written form of a pattern that was read from text gives that pattern, unless the text has
line ends between its outer blanks. Then no pattern with this source and these flags is read from
it. -/
theorem written_reads_back {entry : String} {p : Pattern}
    (h : readPatterns [.text entry] = .ok [p]) :
    ('\n' ∉ p.source.toList ↔ '\n' ∉ trimChars entry.toList) ∧
      ('\n' ∉ p.source.toList → readPatterns [.text p.written] = .ok [p]) ∧
      ((∃ q, readPatterns [.text p.written] = .ok [q] ∧ q.source = p.source ∧
        q.flags.ignoreCase = p.flags.ignoreCase ∧ q.flags.multiline = p.flags.multiline ∧
        q.flags.dotAll = p.flags.dotAll) ↔ '\n' ∉ p.source.toList) := by
  obtain ⟨htext, hread⟩ := readPatterns_single.1 h
  obtain ⟨hsource, hlines⟩ := PatternEntry.source_of_read htext hread
  have htrimmed : trimChars p.written.toList = p.written.toList := by
    rw [p.toList_written, Content.trimChars_slashes p.flagsOf_flagLetters.1]
  have hwritten (q : Pattern) : readPatterns [.text p.written] = .ok [q] ↔
      PatternEntry.read p.written.toList = .ok q := by
    rw [readPatterns_single, htrimmed, and_iff_right (by simp [p.toList_written])]
  have hback (hline : '\n' ∉ p.source.toList) : readPatterns [.text p.written] = .ok [p] :=
    (hwritten p).2 ((PatternEntry.plain_read hread).read_written hsource hline)
  refine ⟨not_congr hlines, hback, ?_, fun hline => ⟨p, hback hline, rfl, rfl, rfl, rfl⟩⟩
  rintro ⟨q, hq, hsame, -⟩ hline
  exact p.written_ne_source
    ((Pattern.source_read_written hline ((hwritten q).1 hq)).symm.trans hsame)

/-- Slashes within the body, a flag in each of the places where it can be set, and blanks. -/
theorem written_reads_back_slashes : ∃ p, readPatterns [.text " /(?s)a/b/.i /mg "] = .ok [p] ∧
    '\n' ∉ p.source.toList ∧ p.written = "/(?s)a/b/.i /ms" ∧
    readPatterns [.text p.written] = .ok [p] := by
  have read : (readPatterns [.text " /(?s)a/b/.i /mg "]).toOption.map
      (fun ps => ps.map fun p => (p.source, p.written)) =
        some [("(?s)a/b/.i ", "/(?s)a/b/.i /ms")] := by decide +kernel
  cases hp : readPatterns [.text " /(?s)a/b/.i /mg "] with
  | error e => rw [hp] at read; cases read
  | ok ps =>
    rw [hp] at read
    obtain ⟨p, rfl, hshown⟩ := List.map_eq_singleton_iff.1 (Option.some.inj read)
    obtain ⟨hsource, hwritten⟩ := Prod.mk.inj hshown
    have hline : '\n' ∉ p.source.toList := by rw [hsource]; decide
    exact ⟨p, rfl, hline, hwritten, (written_reads_back hp).2.1 hline⟩

/-- A body of two lines is read back with the slashes around it. -/
theorem written_two_lines : ∃ p q, readPatterns [.text "a\nb"] = .ok [p] ∧
    readPatterns [.text p.written] = .ok [q] ∧ p.source = "a\nb" ∧ q.source = "/a\nb/" := by
  have read : (readPatterns [.text "a\nb"]).toOption.map
      (fun ps => ps.map fun p => (p.source, p.written)) = some [("a\nb", "/a\nb/")] := by
    decide +kernel
  have again : (readPatterns [.text "/a\nb/"]).toOption.map (fun ps => ps.map (·.source)) =
      some ["/a\nb/"] := by decide +kernel
  cases hp : readPatterns [.text "a\nb"] with
  | error e => rw [hp] at read; cases read
  | ok ps =>
    rw [hp] at read
    obtain ⟨p, rfl, hshown⟩ := List.map_eq_singleton_iff.1 (Option.some.inj read)
    obtain ⟨hsource, hwritten⟩ := Prod.mk.inj hshown
    cases hq : readPatterns [.text "/a\nb/"] with
    | error e => rw [hq] at again; cases again
    | ok qs =>
      rw [hq] at again
      obtain ⟨q, rfl, hagain⟩ := List.map_eq_singleton_iff.1 (Option.some.inj again)
      exact ⟨p, q, rfl, by rw [hwritten, hq], hsource, hagain⟩

/-! ## Leaving out what is written alike -/

/-- Patterns with one source and the same of the flags that are written. -/
def Regex.Pattern.Alike (p q : Pattern) : Prop :=
  p.source = q.source ∧ p.flags.ignoreCase = q.flags.ignoreCase ∧
    p.flags.multiline = q.flags.multiline ∧ p.flags.dotAll = q.flags.dotAll

theorem Regex.Pattern.written_eq_iff {p q : Pattern} : p.written = q.written ↔ p.Alike q := by
  constructor
  · intro h
    obtain ⟨hsource, hflags⟩ := written_inj h
    simp only [Flags.shown, Flags.mk.injEq, and_true] at hflags
    exact ⟨hsource, hflags⟩
  · rintro ⟨hsource, hignoreCase, hmultiline, hdotAll⟩
    rw [written, written, flagLetters, flagLetters, hsource, hignoreCase, hmultiline, hdotAll]

/-- The first match in a name is the same without the patterns that are left out. -/
theorem firstMatch?_dedupePatterns {patterns : List Pattern} (h : Told patterns)
    (codes : List Nat) : firstMatch? codes (dedupePatterns patterns) = firstMatch? codes patterns :=
  findSome?_dedupeFrom (fun p hp q hq hwritten => by rw [h p hp q hq hwritten])
    fun _ _ hseen => (List.not_mem_nil hseen).elim

/-- Of patterns that were read from text, the first of each source and flags is kept, in its place
and alone. No match is lost by it, and patterns that are added later are told apart as before. -/
theorem dedupePatterns_lossless {entries : List PatternEntry} {patterns : List Pattern}
    (hentries : ∀ p, .pattern p ∈ entries → ∃ text, readPatterns [.text text] = .ok [p])
    (h : readPatterns entries = .ok patterns) :
    (dedupePatterns patterns).Sublist patterns ∧
    (dedupePatterns patterns).Pairwise (fun p q => ¬ p.Alike q) ∧
    (∀ front p back, patterns = front ++ p :: back → (∀ q ∈ front, ¬ q.Alike p) →
      ∃ later, later.Sublist back ∧
        dedupePatterns patterns = dedupePatterns front ++ p :: later) ∧
    (∀ codes, matchesAny codes (dedupePatterns patterns) = matchesAny codes patterns ∧
      checkedMatch codes (dedupePatterns patterns) = checkedMatch codes patterns) ∧
    ∀ further, dedupePatterns (dedupePatterns patterns ++ further) =
      dedupePatterns (patterns ++ further) := by
  have hplain : ∀ p ∈ patterns, p.Plain := by
    refine plain_of_readPatterns (fun p hp => ?_) h
    obtain ⟨text, htext⟩ := hentries p hp
    exact PatternEntry.plain_read (readPatterns_single.1 htext).2
  have hmatch := firstMatch?_dedupePatterns (told_of_plain hplain)
  refine ⟨dedupeFrom_sublist patterns [], ?_, ?_, fun codes => ?_, fun further => ?_⟩
  · exact (pairwise_dedupeFrom patterns []).imp (mt Pattern.written_eq_iff.2)
  · rintro front p back rfl hfront
    exact dedupePatterns_first (fun q hq => mt Pattern.written_eq_iff.1 (hfront q hq)) back
  · rw [matchesAny, matchesAny, checkedMatch, checkedMatch, hmatch]
    exact ⟨rfl, rfl⟩
  · rw [← dedupePatterns_append, dedupePatterns_idem, dedupePatterns_append]

/-- A slash in the body and one before the flags: three entries, and two patterns. -/
theorem dedupePatterns_lossless_slashes : ∃ patterns,
    readPatterns [.text "/a/i", .text "/a/i/", .text "/a/gi"] = .ok patterns ∧
      (dedupePatterns patterns).map (·.written) = ["/a/i", "/a/i/"] ∧
      (dedupePatterns patterns).Pairwise (fun p q => ¬ p.Alike q) ∧
      ∀ codes, checkedMatch codes (dedupePatterns patterns) = checkedMatch codes patterns := by
  have kept : (readPatterns [.text "/a/i", .text "/a/i/", .text "/a/gi"]).toOption.map
      (fun patterns => (dedupePatterns patterns).map (·.written)) = some ["/a/i", "/a/i/"] := by
    decide +kernel
  cases h : readPatterns [.text "/a/i", .text "/a/i/", .text "/a/gi"] with
  | error e => rw [h] at kept; cases kept
  | ok patterns =>
    rw [h] at kept
    obtain ⟨-, hpairwise, -, hmatch, -⟩ := dedupePatterns_lossless (fun p hp => by simp at hp) h
    exact ⟨patterns, rfl, Option.some.inj kept, hpairwise, fun codes => (hmatch codes).2⟩

end StylePrune
