import Mathlib.Data.List.Basic
import StylePrune.Report.Page

/-!
# The tags of report pages

The angle brackets of a page cut it into tags and the text between them (`tags`). The page of a
report is put together from pieces whose brackets all belong to a tag (`Piece`), and what comes from
content, style sheet or extractors is a piece without tags (`Piece.escape`). So the tags of a page
are known from how many warnings, classes and origins there are (`piece_render`), and reports that
agree in this have the same tags (`tags_unaffected`).
-/

namespace StylePrune.Report.Page

/-! ## Cutting a page -/

/-- A page read up to some place: what was read of the tag that stands open there, last point first,
and the tags before it, last one first. -/
structure Cut where
  within : Option Text := none
  tags : List Text := []
deriving DecidableEq

/-- The cut after one more point. -/
def Cut.next (s : Cut) (p : Point) : Cut :=
  if p = .char '<' then { s with within := some [] }
  else if p = .char '>' then
    match s.within with
    | some read => ⟨none, read.reverse :: s.tags⟩
    | none => s
  else { s with within := s.within.map (p :: ·) }

/-- The texts between an opening angle bracket and the next closing one. -/
def tags (page : Text) : List Text := (page.foldl Cut.next {}).tags.reverse

/-- Tags that were found stay as they are. -/
theorem Cut.foldl_next (t : Text) : ∀ (within : Option Text) (found : List Text),
    t.foldl next ⟨within, found⟩ =
      ⟨(t.foldl next ⟨within, []⟩).within, (t.foldl next ⟨within, []⟩).tags ++ found⟩ := by
  induction t with
  | nil => exact fun _ _ => rfl
  | cons p t ih =>
    intro within found
    have hnext : ∃ w ts, ∀ found, next ⟨within, found⟩ p = ⟨w, ts ++ found⟩ := by
      unfold next
      split
      · exact ⟨_, [], fun _ => rfl⟩
      split
      · cases within with
        | none => exact ⟨none, [], fun _ => rfl⟩
        | some read => exact ⟨none, [read.reverse], fun _ => rfl⟩
      · exact ⟨within.map (p :: ·), [], fun _ => rfl⟩
    obtain ⟨w, ts, hnext⟩ := hnext
    rw [List.foldl_cons, List.foldl_cons, hnext, hnext, ih w (ts ++ found), ih w (ts ++ []),
      List.append_nil, List.append_assoc]

/-! ## Pieces -/

/-- A part of a page whose angle brackets all belong to its tags. -/
structure Piece (t : Text) (found : List Text) : Prop where
  cut : t.foldl Cut.next {} = ⟨none, found.reverse⟩
  opening : t.count (.char '<') = found.length
  closing : t.count (.char '>') = found.length

namespace Piece

variable {t u : Text} {found more : List Text}

instance (t : Text) (found : List Text) : Decidable (Piece t found) :=
  decidable_of_iff (t.foldl Cut.next {} = ⟨none, found.reverse⟩ ∧
      t.count (.char '<') = found.length ∧ t.count (.char '>') = found.length)
    ⟨fun h => ⟨h.1, h.2.1, h.2.2⟩, fun h => ⟨h.cut, h.opening, h.closing⟩⟩

theorem tags_eq (h : Piece t found) : tags t = found := by
  rw [tags, h.cut, List.reverse_reverse]

theorem append (h : Piece t found) (h' : Piece u more) : Piece (t ++ u) (found ++ more) where
  cut := by rw [List.foldl_append, h.cut, Cut.foldl_next, h'.cut, List.reverse_append]
  opening := by rw [List.count_append, h.opening, h'.opening, List.length_append]
  closing := by rw [List.count_append, h.closing, h'.closing, List.length_append]

theorem nil : Piece [] [] := ⟨rfl, rfl, rfl⟩

/-- A text without angle brackets has no tags. -/
theorem text (h : ∀ p ∈ t, p ≠ .char '<' ∧ p ≠ .char '>') : Piece t [] where
  cut := by
    induction t with
    | nil => rfl
    | cons p t ih =>
      obtain ⟨hp, ht⟩ := List.forall_mem_cons.1 h
      rw [List.foldl_cons, Cut.next, if_neg hp.1, if_neg hp.2]
      exact ih ht
  opening := List.count_eq_zero_of_not_mem fun hm => (h _ hm).1 rfl
  closing := List.count_eq_zero_of_not_mem fun hm => (h _ hm).2 rfl

/-- Escaped text has no tags, whatever it says. -/
theorem escape (t : Text) : Piece (escape t) [] := by
  refine .text fun p hp => ?_
  obtain ⟨q, -, hp⟩ := List.mem_flatMap.1 hp
  have hword : ∀ word ∈ ["&amp;", "&lt;", "&gt;", "&quot;", "&#x27;"],
      ∀ p ∈ Text.ofString word, p ≠ .char '<' ∧ p ≠ .char '>' := by decide
  unfold escapePoint at hp
  split at hp
  case h_6 _ hlt hgt _ _ =>
    rw [List.mem_singleton.1 hp]
    exact ⟨hlt, hgt⟩
  all_goals exact hword _ (by simp) p hp

/-- Pieces with a separator between any two. -/
theorem joined {α : Type} {f : α → Text} {tagsOf : α → List Text} {separator : String}
    (hseparator : Piece (Text.ofString separator) more) (h : ∀ x, Piece (f x) (tagsOf x)) :
    ∀ xs : List α, Piece (joined separator (xs.map f)) (List.intercalate more (xs.map tagsOf))
  | [] => nil
  | [x] => by
    rw [List.map_singleton, List.map_singleton, List.intercalate_singleton]
    exact h x
  | x :: y :: rest => by
    rw [List.map_cons, List.map_cons, List.map_cons, List.map_cons, List.intercalate_cons_cons]
    exact ((h x).append hseparator).append (joined hseparator h (y :: rest))

/-- Pieces with a text without tags between any two. -/
theorem joined_plain {α : Type} {f : α → Text} {tagsOf : α → List Text} {separator : String}
    (hseparator : Piece (Text.ofString separator) []) (h : ∀ x, Piece (f x) (tagsOf x))
    (xs : List α) : Piece (Page.joined separator (xs.map f)) (xs.flatMap tagsOf) := by
  have flat : ∀ l : List (List Text), List.intercalate [] l = l.flatten := by
    intro l
    induction l with
    | nil => rfl
    | cons x l ih =>
      cases l with
      | nil => rw [List.intercalate_singleton, List.flatten_singleton]
      | cons y l =>
        rw [List.intercalate_cons_cons, ih, List.append_nil]
        rfl
  have := joined hseparator h xs
  rwa [flat, ← List.flatMap_def] at this

theorem eq_nil (h : Piece [] found) : found = [] := List.eq_nil_of_length_eq_zero h.opening.symm

/-- A text with as many tags as what may stand for it. -/
theorem orElse {usual : String} (h : Piece t found)
    (husual : t = [] → Piece (Text.ofString usual) found) : Piece (orElse usual t) found := by
  cases t with
  | nil => exact husual rfl
  | cons p t => exact h

end Piece

/-! ## Figures -/

theorem ofString_append (a b : String) :
    Text.ofString (a ++ b) = Text.ofString a ++ Text.ofString b := by
  simp [Text.ofString, Text.ofChars]

/-- Fixed texts one after the other. -/
theorem Piece.strings {a b : String} {found more : List Text} (ha : Piece (Text.ofString a) found)
    (hb : Piece (Text.ofString b) more) : Piece (Text.ofString (a ++ b)) (found ++ more) := by
  rw [ofString_append]
  exact ha.append hb

/-- Tags by what they say. -/
def named (names : List String) : List Text := names.map Text.ofString

/-- Digits, a sign and a point hold no angle bracket. -/
theorem Piece.number {s : String} (h : ∀ c ∈ s.toList, c.isDigit = true ∨ c = '-' ∨ c = '.') :
    Piece (Text.ofString s) [] := by
  refine .text fun p hp => ?_
  obtain ⟨c, hc, rfl⟩ := List.mem_map.1 hp
  rcases h c hc with hdigit | rfl | rfl
  · refine ⟨?_, ?_⟩ <;>
    · rintro heq
      rw [Point.char.inj heq] at hdigit
      exact absurd hdigit (by decide)
  all_goals decide

theorem isDigit_of_mem_toDigits {c : Char} {n : Nat} (h : c ∈ Nat.toDigits 10 n) :
    c.isDigit = true :=
  Nat.isDigit_of_mem_toDigits (by decide) (by decide) h

theorem Piece.toString (n : Nat) : Piece (Text.ofString (toString n)) [] :=
  .number fun c hc => .inl (isDigit_of_mem_toDigits (n := n) (by simpa using hc))

theorem mem_withPoint {c : Char} {places n : Nat} (h : c ∈ Decimal.withPoint places n) :
    c.isDigit = true ∨ c = '.' := by
  have hpadded : ∀ c ∈ List.replicate (places + 1 - (Nat.toDigits 10 n).length) '0' ++
      Nat.toDigits 10 n, c.isDigit = true := by
    intro c hc
    rcases List.mem_append.1 hc with hc | hc
    · rw [List.eq_of_mem_replicate hc]
      decide
    · exact isDigit_of_mem_toDigits hc
  unfold Decimal.withPoint at h
  dsimp only at h
  split at h
  · exact .inl (hpadded c (List.mem_of_mem_take h))
  · rcases List.mem_append.1 h with h | h
    · exact .inl (hpadded c (List.mem_of_mem_take h))
    · rcases List.mem_cons.1 h with h | h
      · exact .inr h
      · exact .inl (hpadded c (List.mem_of_mem_drop h))

theorem Piece.fixed (places : Nat) (f : Float) :
    Piece (Text.ofString (Decimal.fixed places f)) [] := by
  unfold Decimal.fixed
  split
  · refine .number fun c hc => ?_
    rw [String.toList_ofList] at hc
    rcases List.mem_append.1 hc with hc | hc
    · split at hc
      · exact .inr (.inl (List.mem_singleton.1 hc))
      · cases hc
    · exact (mem_withPoint hc).imp_right .inr
  · split <;> decide
  · decide

/-- The tags of a figure. -/
def figureTags : List Text := named ["div", "strong", "/strong", "/div"]

theorem Piece.figure {label value unit : String} (hlabel : Piece (Text.ofString label) [])
    (hvalue : Piece (Text.ofString value) []) (hunit : Piece (Text.ofString unit) []) :
    Piece (Text.ofString (figure label value unit)) figureTags := by
  have hopen : Piece (Text.ofString "    <div>") (named ["div"]) := by decide
  have hstart : Piece (Text.ofString ": <strong>") (named ["strong"]) := by decide
  have hend : Piece (Text.ofString "</strong></div>\n") (named ["/strong", "/div"]) := by decide
  exact ((((hopen.strings hlabel).strings hstart).strings hvalue).strings hunit).strings hend

theorem Piece.figures (s : ReportStats) :
    Piece (Text.ofString (figures s)) (List.replicate 9 figureTags).flatten := by
  have whole {label unit : String} (hlabel : Piece (Text.ofString label) [])
      (hunit : Piece (Text.ofString unit) []) (n : Nat) :
      Piece (Text.ofString (Page.figure label (ToString.toString n) unit)) figureTags :=
    .figure hlabel (.toString n) hunit
  have number {label unit : String} (hlabel : Piece (Text.ofString label) [])
      (hunit : Piece (Text.ofString unit) []) (f : Float) :
      Piece (Text.ofString (Page.figure label (Decimal.fixed 2 f) unit)) figureTags :=
    .figure hlabel (.fixed 2 f) hunit
  exact (whole (by decide) (by decide) s.filesScanned)
    |>.strings (whole (by decide) (by decide) s.classesDetected)
    |>.strings (whole (by decide) (by decide) s.classesKept)
    |>.strings (whole (by decide) (by decide) s.classesRemoved)
    |>.strings (whole (by decide) (by decide) s.removedRules)
    |>.strings (number (by decide) (by decide) (s.reductionRatio * 100))
    |>.strings (whole (by decide) (by decide) s.sizeBefore)
    |>.strings (whole (by decide) (by decide) s.sizeAfter)
    |>.strings (number (by decide) (by decide) s.durationMs)

/-! ## The tags of a page -/

/-- The tags of a warning. -/
def warningTags : List Text := named ["li", "/li"]

/-- The tags of the row of a class with some number of origins. -/
def rowTags (origins : Nat) : List Text :=
  named ["tr", "td", "/td", "td", "/td", "td"] ++
    List.replicate (origins - 1) (Text.ofString "br/") ++ named ["/td", "/tr"]

/-- The tags before the time of the report, before its figures, before its warnings, before its
classes, and at its end. -/
def openingTags : List Text :=
  named ["!doctype html", "html lang=\"en\"", "head", "meta charset=\"utf-8\" /",
    "meta name=\"viewport\" content=\"width=device-width,initial-scale=1\" /", "title", "/title",
    "style", "/style", "/head", "body", "h1", "/h1", "p class=\"muted\""]

def statsTags : List Text := named ["/p", "h2", "/h2", "div class=\"grid\""]

def warningsTags : List Text := named ["/div", "h2", "/h2", "ul"]

def tableTags : List Text :=
  named ["/ul", "h2", "/h2", "table", "thead", "tr", "th", "/th", "th", "/th", "th", "/th", "/tr",
    "/thead", "tbody"]

def closingTags : List Text := named ["/tbody", "/table", "/body", "/html"]

/-- The tags of a page with some number of warnings, and of classes with some numbers of origins.
Without warnings one item says so. -/
def pageTags (warnings : Nat) (origins : List Nat) : List Text :=
  openingTags ++ statsTags ++ (List.replicate 9 figureTags).flatten ++ warningsTags ++
    (List.replicate (max 1 warnings) warningTags).flatten ++ tableTags ++
    origins.flatMap rowTags ++ closingTags

theorem intercalate_replicate_nil (x : Text) :
    ∀ n : Nat, List.intercalate [x] (List.replicate n []) = List.replicate (n - 1) x
  | 0 => rfl
  | 1 => rfl
  | n + 2 => by
    rw [List.replicate_succ, List.replicate_succ, List.intercalate_cons_cons, ← List.replicate_succ,
      intercalate_replicate_nil x (n + 1)]
    rfl

theorem piece_entryRow (e : ReportEntry) : Piece (entryRow e) (rowTags e.origins.length) := by
  have hstart : Piece (Text.ofString "      <tr><td>") (named ["tr", "td"]) := by decide
  have hcell : Piece (Text.ofString "</td><td>") (named ["/td", "td"]) := by decide
  have hend : Piece (Text.ofString "</td></tr>") (named ["/td", "/tr"]) := by decide
  have hbreak : Piece (Text.ofString "<br/>") [Text.ofString "br/"] := by decide
  have horigins : Piece (orElse "-" (joined "<br/>" (e.origins.map escapeString)))
      (List.replicate (e.origins.length - 1) (Text.ofString "br/")) := by
    have := Piece.joined hbreak (fun origin => .escape (Text.ofString origin)) e.origins
    rw [List.map_const', intercalate_replicate_nil] at this
    refine this.orElse fun hempty => ?_
    rw [hempty] at this
    rw [this.eq_nil]
    decide
  exact (((((hstart.append (.escape e.name)).append hcell).append (.escape _)).append hcell).append
    horigins).append hend

theorem piece_warningItem (warning : String) : Piece (warningItem warning) warningTags := by
  have hopen : Piece (Text.ofString "<li>") (named ["li"]) := by decide
  have hclose : Piece (Text.ofString "</li>") (named ["/li"]) := by decide
  exact (hopen.append (.escape _)).append hclose

theorem piece_warnings (warnings : List String) :
    Piece (orElse "<li>None</li>" (joined "\n" (warnings.map warningItem)))
      (List.replicate (max 1 warnings.length) warningTags).flatten := by
  have hbreak : Piece (Text.ofString "\n") [] := by decide
  have := Piece.joined_plain hbreak piece_warningItem warnings
  rw [List.flatMap_def, List.map_const'] at this
  cases warnings with
  | nil => decide
  | cons warning rest =>
    rw [List.length_cons, Nat.max_eq_right (Nat.le_add_left 1 _)]
    refine this.orElse fun hempty => ?_
    rw [hempty] at this
    cases this.eq_nil

theorem piece_entries (entries : List ReportEntry) :
    Piece (joined "\n" (entries.map entryRow))
      ((entries.map fun e => e.origins.length).flatMap rowTags) := by
  have hbreak : Piece (Text.ofString "\n") [] := by decide
  rw [List.flatMap_map]
  exact Piece.joined_plain hbreak piece_entryRow entries

theorem piece_opening : Piece (Text.ofString opening) openingTags := by
  change Piece _ (named ["!doctype html", "html lang=\"en\"", "head", "meta charset=\"utf-8\" /"] ++
    named ["meta name=\"viewport\" content=\"width=device-width,initial-scale=1\" /"] ++
    named ["title", "/title", "style"] ++ [] ++ [] ++ [] ++ [] ++ [] ++ [] ++ [] ++ [] ++ [] ++
    named ["/style", "/head", "body", "h1", "/h1", "p class=\"muted\""])
  unfold opening
  iterate 12 refine Piece.strings ?_ ?_
  all_goals decide +kernel

theorem piece_stats (s : ReportStats) :
    Piece (Text.ofString ("</p>\n  <h2>Stats</h2>\n  <div class=\"grid\">\n" ++ figures s ++
        "  </div>\n  <h2>Warnings</h2>\n  <ul>"))
      (statsTags ++ (List.replicate 9 figureTags).flatten ++ warningsTags) := by
  refine Piece.strings (Piece.strings ?_ (.figures s)) ?_ <;> decide +kernel

theorem piece_table :
    Piece (Text.ofString ("</ul>\n  <h2>Class Matrix</h2>\n  <table>\n" ++
        "    <thead><tr><th>Class</th><th>Status</th><th>Why</th></tr></thead>\n    <tbody>\n"))
      tableTags := by
  change Piece _ (named ["/ul", "h2", "/h2", "table"] ++
    named ["thead", "tr", "th", "/th", "th", "/th", "th", "/th", "/tr", "/thead", "tbody"])
  refine Piece.strings ?_ ?_ <;> decide +kernel

/-- All angle brackets of a page belong to its tags, and these are known from the numbers of
warnings, of classes, and of origins of each class. -/
theorem piece_render (r : Report) :
    Piece (render r) (pageTags r.warnings.length (r.entries.map fun e => e.origins.length)) := by
  have hclosing : Piece (Text.ofString "\n    </tbody>\n  </table>\n</body>\n</html>\n")
      closingTags := by decide
  have := (((((piece_opening.append (.escape (Text.ofString r.generatedAt))).append
    (piece_stats r.stats)).append (piece_warnings r.warnings)).append piece_table).append
      (piece_entries r.entries)).append hclosing
  rwa [List.append_nil, ← List.append_assoc, ← List.append_assoc] at this

/-- Pages of reports with as many warnings, and with as many classes that have as many origins each,
have the same tags in the same order, and no angle bracket of theirs stands outside of a tag. So
names, origins, warnings, and all else that differs, stands in the text between the tags. -/
theorem tags_unaffected {r r' : Report} (hwarnings : r.warnings.length = r'.warnings.length)
    (horigins : r.entries.map (fun e => e.origins.length) =
      r'.entries.map fun e => e.origins.length) :
    tags (render r) = tags (render r') ∧ ∀ page ∈ [render r, render r'],
      page.count (.char '<') = (tags page).length ∧
        page.count (.char '>') = (tags page).length := by
  have hr := piece_render r
  have hr' := piece_render r'
  have hsame : tags (render r) = tags (render r') := by
    rw [hr.tags_eq, hr'.tags_eq]
    exact congrArg₂ pageTags hwarnings horigins
  refine ⟨hsame, fun page hpage => ?_⟩
  rcases List.mem_cons.1 hpage with hpage | hpage
  · rw [hpage, hr.tags_eq]
    exact ⟨hr.opening, hr.closing⟩
  · rw [List.mem_singleton.1 hpage, hr'.tags_eq]
    exact ⟨hr'.opening, hr'.closing⟩

/-- A class, an origin and a warning that look like markup, and plain ones. -/
theorem tags_unaffected_script :
    let evil : Report := { (default : Report) with
      entries := [⟨Text.ofString "<x>", .kept, ["<img/>.html:1"]⟩], warnings := ["</ul><script>"] }
    let plain : Report := { (default : Report) with
      entries := [⟨Text.ofString "x", .removed, ["a.html:1"]⟩], warnings := ["w"] }
    evil.warnings.length = plain.warnings.length ∧
      evil.entries.map (fun e => e.origins.length) = plain.entries.map (fun e => e.origins.length) ∧
      tags (render evil) = tags (render plain) := by
  intro evil plain
  have hwarnings : evil.warnings.length = plain.warnings.length := rfl
  have horigins : evil.entries.map (fun e => e.origins.length) =
      plain.entries.map (fun e => e.origins.length) := rfl
  exact ⟨hwarnings, horigins, (tags_unaffected hwarnings horigins).1⟩

end StylePrune.Report.Page
