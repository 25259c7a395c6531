import Mathlib.Data.List.Infix
import StylePrune.Disk
import StylePrune.Proofs.Disk.Places
import StylePrune.Proofs.Text.Utf8

/-!
# What writing leaves alone

Places depend on the directories alone (`follow_congr`), so a text in plain ASCII that was written
to a path is read there (`readText_writeText`).

On a well-formed disk files stand in directories and have proper names. Writing a text to a normal
path changes the file at its place alone and makes the directories above it (`writeText_normal`), so
a disk that was written to has grown (`Grown`), and what is written to again brings nothing but a
new text (`sameDirectories_again`).
-/

namespace StylePrune.Disk

/-! ## Names followed on a changed disk -/

theorem isDirectory_congr {disk disk' : Disk} (h : disk'.directories = disk.directories)
    (place : Place) : disk'.isDirectory place = disk.isDirectory place := by
  rw [isDirectory, isDirectory, h]

/-- The place that names lead to depends on the directories alone. -/
theorem follow_congr {disk disk' : Disk} (h : disk'.directories = disk.directories)
    {names : List String} : ∀ {here place : Place}, disk.follow here names = .ok place →
      disk'.follow here names = .ok place := by
  induction names with
  | nil => exact fun hp => hp
  | cons name rest ih =>
    intro here place hp
    rw [follow] at hp ⊢
    rw [isDirectory_congr h]
    split at hp
    · cases hp
    rename_i hdirectory
    rw [if_neg hdirectory]
    split at hp
    · rename_i hneutral
      rw [if_pos hneutral]
      exact ih hp
    rename_i hneutral
    rw [if_neg hneutral]
    split at hp
    · rename_i hup
      rw [if_pos hup]
      exact ih hp
    · rename_i hup
      rw [if_neg hup]
      exact ih hp

theorem locate_congr {disk disk' : Disk} (h : disk'.directories = disk.directories) {path : String}
    {place : Place} (hp : disk.locate path = .ok place) : disk'.locate path = .ok place := by
  rw [locate] at hp ⊢
  split at hp
  · cases hp
  · rename_i hne
    rw [if_neg hne]
    exact follow_congr h hp

theorem lookup_putFile (files : List (Place × File)) (place : Place) (f : File) :
    (putFile files place f).lookup place = some f := by
  induction files with
  | nil => simp [putFile]
  | cons entry rest ih =>
    obtain ⟨other, g⟩ := entry
    rw [putFile]
    split
    · simp
    · rename_i hne
      rw [List.lookup_cons, beq_false_of_ne (Ne.symm hne)]
      exact ih

/-- Bytes that were put into a file are in it. -/
theorem file_writeBytes {disk disk' : Disk} {path : String} {bytes : List UInt8}
    (h : disk.writeBytes path bytes = .ok disk') :
    ∃ f, disk'.file path = .ok f ∧ f.bytes = bytes := by
  rw [writeBytes] at h
  cases hp : disk.locate path with
  | error fault =>
    rw [hp] at h
    cases h
  | ok place =>
    simp only [hp, bind, Except.bind, pure, Except.pure] at h
    split at h
    · cases h
    · injection h with h
      have hplace : disk'.locate path = .ok place := locate_congr (by rw [← h]) hp
      have hfile : disk'.fileAt? place = some ⟨bytes, disk.clock⟩ := by
        rw [← h, fileAt?, lookup_putFile]
      refine ⟨⟨bytes, disk.clock⟩, ?_, rfl⟩
      rw [file, hplace]
      simp only [bind, Except.bind, hfile]
      rfl

/-- A text in plain ASCII without a carriage return is read back from the file it was written to. -/
theorem readText_writeText {disk disk' : Disk} {path text : String}
    (hascii : ∀ c ∈ text.toList, c.toNat < 128) (hlines : '\r' ∉ text.toList)
    (h : disk.writeText path text = .ok disk') : disk'.readText path = .ok (.ok text) := by
  rw [writeText] at h
  cases hmade : disk.makeDirectories (Path.parent path) with
  | error fault =>
    rw [hmade] at h
    cases h
  | ok made =>
    rw [hmade] at h
    obtain ⟨f, hfile, hbytes⟩ := file_writeBytes h
    rw [readText, hfile]
    simp only [bind, Except.bind, pure, Except.pure, hbytes, Utf8.decode_encode_ascii hascii,
      Except.map, Utf8.plainLines_eq_self hlines, String.ofList_toList]

/-! ## Well-formed disks -/

/-- Files stand in directories, are none themselves, and have proper names. -/
structure WellFormed (disk : Disk) : Prop where
  parents : ∀ {p q f}, disk.fileAt? p = some f → q <+: p → q ≠ p → disk.isDirectory q = true
  apart : ∀ {p f}, disk.fileAt? p = some f → disk.isDirectory p = false
  proper : ∀ {p f}, disk.fileAt? p = some f → ∀ n ∈ p, Path.IsProper n

/-- Whether a file can be opened for writing at a place: no directory stands there, and no file in
the way to it. -/
structure Opens (disk : Disk) (place : Place) : Prop where
  free : disk.isDirectory place = false
  way : ∀ q, q <+: place → q ≠ place → disk.isDirectory q = true ∨ disk.fileAt? q = none

/-- What a write to a place leaves behind. -/
structure Written (disk : Disk) (place : Place) (bytes : List UInt8) (disk' : Disk) : Prop where
  file : disk'.fileAt? place = some ⟨bytes, disk.clock⟩
  others : ∀ q, q ≠ place → disk'.fileAt? q = disk.fileAt? q
  directories : ∀ q, disk'.isDirectory q = true ↔
    disk.isDirectory q = true ∨ q <+: place ∧ q ≠ place

/-- A disk that was written to at some places only. -/
structure Grown (places : List Place) (disk disk' : Disk) : Prop where
  others : ∀ q, q ∉ places → disk'.fileAt? q = disk.fileAt? q
  kept : ∀ q, (disk.fileAt? q).isSome = true → (disk'.fileAt? q).isSome = true
  directories : ∀ q, disk.isDirectory q = true → disk'.isDirectory q = true

def SameDirectories (disk disk' : Disk) : Prop := ∀ q, disk'.isDirectory q = disk.isDirectory q

variable {disk disk' d e : Disk} {here place : Place} {names : List String} {path : String}

/-- Whether a disk is well-formed can be read off its files. -/
theorem WellFormed.of_files (h : ∀ entry ∈ disk.files,
      (∀ q ∈ entry.1.inits, q ≠ entry.1 → disk.isDirectory q = true) ∧
        disk.isDirectory entry.1 = false ∧ ∀ n ∈ entry.1, Path.IsProper n) : disk.WellFormed := by
  have hmem : ∀ {p f}, disk.fileAt? p = some f → (p, f) ∈ disk.files := fun {p f} hp => by
    obtain ⟨before, after, hfiles, -⟩ := List.lookup_eq_some_iff.1 hp
    exact hfiles ▸ List.mem_append_right _ List.mem_cons_self
  exact ⟨fun hp hq => (h _ (hmem hp)).1 _ ((List.mem_inits _ _).2 hq),
    fun hp => (h _ (hmem hp)).2.1, fun hp => (h _ (hmem hp)).2.2⟩

/-! ## Following names without steps up -/

theorem follow_cons {name : String} (hname : name ≠ "..") :
    disk.follow here (name :: names) = if disk.isDirectory here = true then
      disk.follow (here ++ Path.solid [name]) names else .error (disk.blocked here) := by
  rw [follow]
  by_cases hdirectory : disk.isDirectory here = true
  · rw [if_neg (by simp [hdirectory]), if_pos hdirectory]
    by_cases hneutral : Path.isNeutral name = true
    · rw [if_pos hneutral, Path.solid_of_neutral (by simpa using hneutral), List.append_nil]
    · rw [if_neg hneutral, if_neg hname, Path.solid,
        List.filter_cons_of_pos (by simpa using hneutral), List.filter_nil]
  · rw [if_pos (by simp [hdirectory]), if_neg hdirectory]

/-- Names without steps up lead on, as long as directories stand on their way. -/
theorem follow_plain (hup : ".." ∉ names) : disk.follow here names = .ok place ↔
    place = here ++ Path.solid names ∧ ∀ pre, pre <+: names → pre ≠ names →
      disk.isDirectory (here ++ Path.solid pre) = true := by
  induction names generalizing here with
  | nil =>
    simp only [follow, Except.ok.injEq, List.prefix_nil, Path.solid, List.filter_nil,
      List.append_nil]
    exact ⟨fun h => ⟨h.symm, fun pre hpre hne => absurd hpre hne⟩, fun h => h.1.symm⟩
  | cons name rest ih =>
    obtain ⟨hname, hrest⟩ := List.ne_and_not_mem_of_not_mem_cons hup
    have hsolid : ∀ ns, here ++ Path.solid (name :: ns) =
        here ++ Path.solid [name] ++ Path.solid ns := fun ns => by
      rw [List.append_assoc, ← Path.solid_append, List.singleton_append]
    rw [follow_cons (Ne.symm hname), hsolid rest]
    constructor
    · intro h
      split at h
      · rename_i hdirectory
        obtain ⟨hplace, hway⟩ := (ih hrest).1 h
        refine ⟨hplace, fun pre hpre hne => ?_⟩
        rcases List.prefix_cons_iff.1 hpre with rfl | ⟨more, rfl, hmore⟩
        · rw [Path.solid, List.filter_nil, List.append_nil]
          exact hdirectory
        · rw [hsolid more]
          exact hway more hmore fun h => hne (h ▸ rfl)
      · cases h
    · rintro ⟨hplace, hway⟩
      rw [if_pos]
      · refine (ih hrest).2 ⟨hplace, fun pre hpre hne => ?_⟩
        rw [← hsolid pre]
        exact hway (name :: pre) (List.prefix_cons_inj name |>.2 hpre) fun h =>
          hne (List.cons.inj h).2
      · have := hway [] List.nil_prefix (List.cons_ne_nil name rest).symm
        rwa [Path.solid, List.filter_nil, List.append_nil] at this

theorem locate_absolute (h : Path.isAbsolute path = true) :
    disk.locate path = disk.follow [] (Path.names path) := by
  rw [locate, if_neg]
  rintro rfl
  cases h

/-- A normal path leads to its place, if directories stand on the way there. -/
theorem locate_normal (h : Path.IsNormal path) : disk.locate path = .ok place ↔
    place = Path.place path ∧ ∀ q, q <+: place → q ≠ place → disk.isDirectory q = true := by
  obtain ⟨lead, hnames, hlead⟩ := h.names
  have hleading : ∀ ns, Path.solid (lead ++ ns) = Path.solid ns := fun ns => by
    rw [Path.solid_append, Path.solid_of_neutral fun n hn => by rw [hlead n hn]; decide,
      List.nil_append]
  have hsolid : ∀ q, q <+: Path.place path → Path.solid q = q := fun q hq =>
    Path.solid_of_proper fun n hn => h.proper n (hq.subset hn)
  rw [locate_absolute h.absolute, follow_plain h.noUp]
  refine and_congr_right fun hplace => ?_
  obtain rfl : place = Path.place path := hplace
  constructor
  · intro hway q hq hne
    have := hway (lead ++ q) (by rw [hnames]; exact (List.prefix_append_right_inj lead).2 hq)
      fun h => hne (List.append_cancel_left (h.trans hnames))
    rwa [hleading, hsolid q hq] at this
  · intro hway pre hpre hne
    rw [hnames] at hpre hne
    rcases List.prefix_or_prefix_of_prefix hpre (List.prefix_append lead _) with hshort | hlong
    · rw [Path.solid_of_neutral fun n hn => by rw [hlead n (hshort.subset hn)]; decide]
      rfl
    · obtain ⟨q, rfl⟩ := hlong
      have hq : q <+: Path.place path := (List.prefix_append_right_inj lead).1 hpre
      rw [hleading, hsolid q hq]
      exact hway q hq fun h => hne (h ▸ rfl)

/-- On the way to a file that two disks hold, both have the same directories. -/
theorem WellFormed.locate {other : Place} (hd : d.WellFormed) (he : e.WellFormed)
    (hother : (d.fileAt? other).isSome = true) (hother' : (e.fileAt? other).isSome = true)
    (habsolute : Path.isAbsolute path = true) (hup : ".." ∉ Path.names path)
    (hplace : d.locate path = .ok place) (hbefore : place <+: other) :
    e.locate path = .ok place := by
  obtain ⟨f, hf⟩ := Option.isSome_iff_exists.1 hother
  obtain ⟨g, hg⟩ := Option.isSome_iff_exists.1 hother'
  rw [locate_absolute habsolute, follow_plain hup] at hplace ⊢
  obtain ⟨rfl, hway⟩ := hplace
  refine ⟨rfl, fun pre hpre hne => ?_⟩
  have hdirectory := hway pre hpre hne
  refine he.parents hg ?_ fun hsame => ?_
  · exact (((List.prefix_append_right_inj _).2 (hpre.filter _))).trans hbefore
  · rw [hsame, hd.apart hf] at hdirectory
    cases hdirectory

/-! ## Writing -/

/-- A disk with one more directory. -/
theorem isDirectory_append {q next : Place} :
    { disk with directories := disk.directories ++ [next] }.isDirectory q = true ↔
      disk.isDirectory q = true ∨ q = next := by
  simp [isDirectory, or_assoc]

/-- The places that names lead by, the last one included. -/
def ways (here : Place) : List String → List Place
  | [] => []
  | name :: rest => (here ++ [name]) :: ways (here ++ [name]) rest

theorem mem_ways {q : Place} {ns : List String} :
    q ∈ ways here ns ↔ ∃ r, r <+: ns ∧ r ≠ [] ∧ q = here ++ r := by
  induction ns generalizing here with
  | nil =>
    refine iff_of_false List.not_mem_nil ?_
    rintro ⟨r, hr, hne, -⟩
    exact hne (List.prefix_nil.1 hr)
  | cons name rest ih =>
    rw [ways, List.mem_cons, ih]
    constructor
    · rintro (rfl | ⟨r, hr, -, rfl⟩)
      · exact ⟨[name], by simp, List.cons_ne_nil _ _, rfl⟩
      · exact ⟨name :: r, (List.prefix_cons_inj name).2 hr, List.cons_ne_nil _ _, by simp⟩
    · rintro ⟨r, hr, hne, rfl⟩
      obtain ⟨more, rfl, hmore⟩ := (List.prefix_cons_iff.1 hr).resolve_left hne
      by_cases hempty : more = []
      · exact .inl (by rw [hempty])
      · exact .inr ⟨more, hmore, hempty, by simp⟩

/-- What making directories at some places does. -/
structure Made (disk : Disk) (places : List Place) (disk' : Disk) : Prop where
  files : disk'.files = disk.files
  clock : disk'.clock = disk.clock
  way : ∀ q ∈ places, disk.isDirectory q = true ∨ disk.fileAt? q = none
  directories : ∀ q, disk'.isDirectory q = true ↔ disk.isDirectory q = true ∨ q ∈ places

/-- Making directories further on, from a disk on which the next place is a directory. -/
theorem Made.cons {places : List Place} {place : Place} {disk₁ disk₂ : Disk}
    (h : Made disk₁ places disk₂) (hfiles : disk₁.files = disk.files)
    (hclock : disk₁.clock = disk.clock)
    (hdirectories : ∀ q, disk₁.isDirectory q = true ↔ disk.isDirectory q = true ∨ q = place)
    (hfree : disk.isDirectory place = true ∨ disk.fileAt? place = none) :
    Made disk (place :: places) disk₂ where
  files := h.files.trans hfiles
  clock := h.clock.trans hclock
  way := by
    refine List.forall_mem_cons.2 ⟨hfree, fun q hq => ?_⟩
    rcases h.way q hq with hdirectory | hnone
    · rcases (hdirectories q).1 hdirectory with hdirectory | rfl
      · exact .inl hdirectory
      · exact hfree
    · exact .inr (by rwa [fileAt?, hfiles] at hnone)
  directories q := by rw [h.directories, hdirectories, List.mem_cons, or_assoc]

/-- Directories are made along names without steps up, or a file stands in the way. -/
theorem makeDirectoriesFrom_plain (disk : Disk) (here : Place) (hup : ".." ∉ names) :
    (∃ disk', disk.makeDirectoriesFrom here names = .ok disk' ∧
        Made disk (ways here (Path.solid names)) disk') ∨
      ∃ fault, disk.makeDirectoriesFrom here names = .error fault ∧
        ∃ q ∈ ways here (Path.solid names),
          disk.isDirectory q = false ∧ (disk.fileAt? q).isSome = true := by
  induction names generalizing disk here with
  | nil =>
    exact .inl ⟨disk, rfl, rfl, rfl, List.forall_mem_nil _, fun q =>
      (or_iff_left List.not_mem_nil).symm⟩
  | cons name rest ih =>
    obtain ⟨hname, hrest⟩ := List.ne_and_not_mem_of_not_mem_cons hup
    rw [makeDirectoriesFrom]
    by_cases hneutral : Path.isNeutral name = true
    · rw [if_pos hneutral, Path.solid, List.filter_cons_of_neg (by simpa using hneutral)]
      exact ih disk here hrest
    rw [if_neg hneutral, if_neg (Ne.symm hname), Path.solid,
      List.filter_cons_of_pos (by simpa using hneutral), ways]
    have hnext : ∀ disk₁ : Disk, disk₁.files = disk.files → disk₁.clock = disk.clock →
        (∀ q, disk₁.isDirectory q = true ↔ disk.isDirectory q = true ∨ q = here ++ [name]) →
        (disk.isDirectory (here ++ [name]) = true ∨ disk.fileAt? (here ++ [name]) = none) →
        (∃ disk', disk₁.makeDirectoriesFrom (here ++ [name]) rest = .ok disk' ∧
            Made disk ((here ++ [name]) :: ways (here ++ [name]) (Path.solid rest)) disk') ∨
          ∃ fault, disk₁.makeDirectoriesFrom (here ++ [name]) rest = .error fault ∧
            ∃ q ∈ (here ++ [name]) :: ways (here ++ [name]) (Path.solid rest),
              disk.isDirectory q = false ∧ (disk.fileAt? q).isSome = true := by
      intro disk₁ hfiles hclock hdirectories hfree
      rcases ih disk₁ (here ++ [name]) hrest with
        ⟨disk', hmade, hmore⟩ | ⟨fault, hmade, q, hq, hno, hsome⟩
      · exact .inl ⟨disk', hmade, hmore.cons hfiles hclock hdirectories hfree⟩
      · refine .inr ⟨fault, hmade, q, List.mem_cons_of_mem _ hq, ?_, ?_⟩
        · rw [Bool.eq_false_iff] at hno ⊢
          exact fun h => hno ((hdirectories q).2 (.inl h))
        · rwa [fileAt?, hfiles] at hsome
    simp only
    by_cases hdirectory : disk.isDirectory (here ++ [name]) = true
    · rw [if_pos hdirectory]
      refine hnext disk rfl rfl (fun q => ?_) (.inl hdirectory)
      exact ⟨.inl, fun h => h.elim id fun h => h ▸ hdirectory⟩
    rw [if_neg hdirectory]
    by_cases hfile : (disk.fileAt? (here ++ [name])).isSome = true
    · rw [if_pos hfile]
      exact .inr ⟨_, rfl, _, List.mem_cons_self, Bool.eq_false_iff.2 hdirectory, hfile⟩
    · rw [if_neg hfile]
      refine hnext _ rfl rfl (fun _ => isDirectory_append) (.inr ?_)
      simpa using hfile

/-- The places above one are the places on the way to it. -/
theorem mem_ways_dropLast {q : Place} (hroot : q ≠ []) :
    q ∈ ways [] place.dropLast ↔ q <+: place ∧ q ≠ place := by
  rw [mem_ways]
  simp only [List.nil_append]
  constructor
  · rintro ⟨r, hr, -, rfl⟩
    refine ⟨hr.trans (List.dropLast_prefix _), fun h => ?_⟩
    have hlength := hr.length_le
    rw [h, List.length_dropLast] at hlength
    have : 0 < place.length := List.length_pos_iff.2 (h ▸ hroot)
    omega
  · rintro ⟨hq, hne⟩
    refine ⟨q, ?_, hroot, rfl⟩
    obtain ⟨rest, rfl⟩ := hq
    have hrest : rest ≠ [] := fun h => hne (by rw [h, List.append_nil])
    rw [List.dropLast_append_of_ne_nil hrest]
    exact List.prefix_append ..

theorem lookup_putFile_of_ne {files : List (Place × File)} {q : Place} {f : File} (h : q ≠ place) :
    (putFile files place f).lookup q = files.lookup q := by
  induction files with
  | nil => rw [putFile, List.lookup_cons, beq_false_of_ne h]
  | cons entry rest ih =>
    obtain ⟨other, g⟩ := entry
    rw [putFile]
    split
    · rename_i hother
      rw [List.lookup_cons, List.lookup_cons, hother, beq_false_of_ne h]
    · rw [List.lookup_cons, List.lookup_cons, ih]

/-- Writing a text to a normal path, when a file can be opened at its place and when not. -/
theorem writeText_normal (disk : Disk) (h : Path.IsNormal path) (text : String) :
    (∃ disk', disk.writeText path text = .ok disk' ∧ disk.Opens (Path.place path) ∧
        Written disk (Path.place path) (Utf8.encode text) disk') ∨
      ∃ fault, disk.writeText path text = .error fault ∧ ¬ disk.Opens (Path.place path) := by
  obtain ⟨hparent, hplace⟩ := Path.isNormal_parent h
  rw [writeText, makeDirectories]
  rcases makeDirectoriesFrom_plain disk [] hparent.noUp with
    ⟨made, hmade, hfiles, hclock, hway, hdirectories⟩ | ⟨fault, hmade, q, hq, hno, hsome⟩
  all_goals rw [show Path.solid (Path.names (Path.parent path)) = (Path.place path).dropLast from
    hplace] at *
  · have hmadeAt : ∀ q, made.isDirectory q = true ↔
        disk.isDirectory q = true ∨ q <+: Path.place path ∧ q ≠ Path.place path := fun q => by
      rw [hdirectories]
      by_cases hroot : q = []
      · subst hroot
        exact iff_of_true (.inl rfl) (.inl rfl)
      · rw [mem_ways_dropLast hroot]
    have hlocate : made.locate path = .ok (Path.place path) :=
      (locate_normal h).2 ⟨rfl, fun q hq hne => (hmadeAt q).2 (.inr ⟨hq, hne⟩)⟩
    have hfree : made.isDirectory (Path.place path) = disk.isDirectory (Path.place path) := by
      rw [Bool.eq_iff_iff, hmadeAt]
      exact or_iff_left fun h => h.2 rfl
    simp only [hmade, bind, Except.bind, writeBytes, hlocate, hfree, pure, Except.pure, hfiles,
      hclock]
    by_cases hdirectory : disk.isDirectory (Path.place path) = true
    · refine .inr ⟨.isDirectory, by rw [if_pos hdirectory], fun hopens => ?_⟩
      exact Bool.false_ne_true (hopens.free.symm.trans hdirectory)
    · rw [if_neg hdirectory]
      refine .inl ⟨_, rfl, ⟨Bool.eq_false_iff.2 hdirectory, fun q hq hne => ?_⟩, ?_, ?_, ?_⟩
      · by_cases hroot : q = []
        · exact .inl (hroot ▸ rfl)
        · exact hway q ((mem_ways_dropLast hroot).2 ⟨hq, hne⟩)
      · exact lookup_putFile ..
      · exact fun q hne => lookup_putFile_of_ne hne
      · exact hmadeAt
  · refine .inr ⟨fault, by rw [hmade]; rfl, fun hopens => ?_⟩
    have hroot : q ≠ [] := fun h => by rw [h] at hno; cases hno
    obtain ⟨hbefore, hne⟩ := (mem_ways_dropLast hroot).1 hq
    rcases hopens.way q hbefore hne with hdirectory | hnone
    · rw [hdirectory] at hno; cases hno
    · rw [hnone] at hsome; cases hsome

/-! ## Growing -/

/-- Writes a text, or leaves the disk as it is. -/
def attempt (disk : Disk) (path text : String) : Disk :=
  match disk.writeText path text with
  | .ok disk' => disk'
  | .error _ => disk

theorem attempt_normal (disk : Disk) (h : Path.IsNormal path) (text : String) :
    (disk.Opens (Path.place path) ∧
        Written disk (Path.place path) (Utf8.encode text) (disk.attempt path text)) ∨
      ¬ disk.Opens (Path.place path) ∧ disk.attempt path text = disk := by
  rcases writeText_normal disk h text with
    ⟨disk', hwrite, hopens, hwritten⟩ | ⟨fault, hwrite, hclosed⟩
  · exact .inl ⟨hopens, by rw [attempt, hwrite]; exact hwritten⟩
  · exact .inr ⟨hclosed, by rw [attempt, hwrite]⟩

theorem WellFormed.attempt (hdisk : disk.WellFormed) (h : Path.IsNormal path) (text : String) :
    (disk.attempt path text).WellFormed := by
  rcases attempt_normal disk h text with ⟨hopens, hwritten⟩ | ⟨-, hsame⟩
  case inr => rw [hsame]; exact hdisk
  have hfile : ∀ {p f}, (disk.attempt path text).fileAt? p = some f →
      p = Path.place path ∨ p ≠ Path.place path ∧ disk.fileAt? p = some f := fun {p f} hp => by
    by_cases hplace : p = Path.place path
    · exact .inl hplace
    · exact .inr ⟨hplace, hwritten.others p hplace ▸ hp⟩
  refine ⟨fun {p q f} hp hq hne => ?_, fun {p f} hp => ?_, fun {p f} hp => ?_⟩
  · rcases hfile hp with rfl | ⟨-, hold⟩
    · exact (hwritten.directories q).2 (.inr ⟨hq, hne⟩)
    · exact (hwritten.directories q).2 (.inl (hdisk.parents hold hq hne))
  · rw [Bool.eq_false_iff]
    intro hdirectory
    rcases hfile hp with rfl | ⟨-, hold⟩
    · rcases (hwritten.directories _).1 hdirectory with hdirectory | ⟨-, hne⟩
      · exact Bool.false_ne_true (hopens.free.symm.trans hdirectory)
      · exact hne rfl
    · have happart := hdisk.apart hold
      rcases (hwritten.directories p).1 hdirectory with hdirectory | ⟨hbefore, hne⟩
      · exact Bool.false_ne_true (happart.symm.trans hdirectory)
      · rcases hopens.way p hbefore hne with hdirectory | hnone
        · exact Bool.false_ne_true (happart.symm.trans hdirectory)
        · rw [hnone] at hold; cases hold
  · rcases hfile hp with rfl | ⟨-, hold⟩
    · exact h.proper
    · exact hdisk.proper hold

namespace Grown

variable {places places' : List Place}

theorem refl (places : List Place) (disk : Disk) : Grown places disk disk :=
  ⟨fun _ _ => rfl, fun _ h => h, fun _ h => h⟩

theorem trans (h : Grown places disk d) (h' : Grown places d e) : Grown places disk e :=
  ⟨fun q hq => (h'.others q hq).trans (h.others q hq), fun q hq => h'.kept q (h.kept q hq),
    fun q hq => h'.directories q (h.directories q hq)⟩

theorem mono (h : Grown places disk disk') (hsubset : places ⊆ places') :
    Grown places' disk disk' :=
  ⟨fun q hq => h.others q fun hmem => hq (hsubset hmem), h.kept, h.directories⟩

theorem attempt (h : Path.IsNormal path) (text : String) :
    Grown [Path.place path] disk (disk.attempt path text) := by
  rcases attempt_normal disk h text with ⟨-, hwritten⟩ | ⟨-, hsame⟩
  · refine ⟨fun q hq => hwritten.others q fun hplace => hq (List.mem_singleton.2 hplace),
      fun q hq => ?_, fun q hq => (hwritten.directories q).2 (.inl hq)⟩
    by_cases hplace : q = Path.place path
    · rw [hplace, hwritten.file]
      rfl
    · rw [hwritten.others q hplace]
      exact hq
  · rw [hsame]
    exact .refl _ _

/-- A file is opened again just if it was opened before. -/
theorem opens_iff (h : Path.IsNormal path) {text : String} (he : e.WellFormed)
    (hgrown : Grown places (disk.attempt path text) e) :
    e.Opens (Path.place path) ↔ disk.Opens (Path.place path) := by
  rcases attempt_normal disk h text with ⟨hopens, hwritten⟩ | ⟨hclosed, hsame⟩
  · refine iff_of_true ?_ hopens
    obtain ⟨f, hf⟩ := Option.isSome_iff_exists.1 (hgrown.kept _ (by rw [hwritten.file]; rfl))
    exact ⟨he.apart hf, fun q hq hne => .inl (he.parents hf hq hne)⟩
  · refine iff_of_false (fun hopens => hclosed ⟨?_, fun q hq hne => ?_⟩) hclosed
    · rw [hsame] at hgrown
      rw [Bool.eq_false_iff]
      exact fun hdirectory =>
        Bool.false_ne_true (hopens.free.symm.trans (hgrown.directories _ hdirectory))
    · rw [hsame] at hgrown
      by_contra hway
      obtain ⟨hdirectory, hfile⟩ := not_or.1 hway
      obtain ⟨f, hf⟩ := Option.isSome_iff_exists.1
        (hgrown.kept q (Option.isSome_iff_ne_none.2 hfile))
      rcases hopens.way q hq hne with hdirectory' | hnone
      · exact Bool.false_ne_true ((he.apart hf).symm.trans hdirectory')
      · rw [hnone] at hf; cases hf

end Grown

theorem SameDirectories.trans (h : SameDirectories disk d) (h' : SameDirectories d e) :
    SameDirectories disk e := fun q => (h' q).trans (h q)

/-- In a directory that is there no other is made. -/
theorem sameDirectories_attempt (h : Path.IsNormal path) (text : String)
    (hway : ∀ q, q <+: Path.place path → q ≠ Path.place path → disk.isDirectory q = true) :
    SameDirectories disk (disk.attempt path text) := by
  rcases attempt_normal disk h text with ⟨-, hwritten⟩ | ⟨-, hsame⟩
  · intro q
    rw [Bool.eq_iff_iff, hwritten.directories]
    exact or_iff_left_of_imp fun ⟨hq, hne⟩ => hway q hq hne
  · rw [hsame]
    exact fun _ => rfl

/-- What was written to once brings no new directory. -/
theorem sameDirectories_again {places : List Place} (h : Path.IsNormal path) {text : String}
    (text' : String) (he : e.WellFormed) (hgrown : Grown places (disk.attempt path text) e) :
    SameDirectories e (e.attempt path text') := by
  rcases attempt_normal e h text' with ⟨hopens, -⟩ | ⟨-, hsame⟩
  · refine sameDirectories_attempt h text' fun q hq hne => ?_
    rcases attempt_normal disk h text with ⟨-, hwritten⟩ | ⟨hclosed, -⟩
    · obtain ⟨f, hf⟩ := Option.isSome_iff_exists.1 (hgrown.kept _ (by rw [hwritten.file]; rfl))
      exact he.parents hf hq hne
    · exact absurd ((hgrown.opens_iff h he).1 hopens) hclosed
  · rw [hsame]
    exact fun _ => rfl

/-! ## Reading -/

/-- More directories lead to no other place. -/
theorem follow_mono (h : ∀ q, d.isDirectory q = true → e.isDirectory q = true) :
    d.follow here names = .ok place → e.follow here names = .ok place := by
  induction names generalizing here with
  | nil => exact fun hp => hp
  | cons name rest ih =>
    intro hp
    rw [follow] at hp ⊢
    split at hp
    · cases hp
    rename_i hdirectory
    rw [if_neg (by simpa using h here (by simpa using hdirectory))]
    split at hp
    · rw [if_pos ‹_›]
      exact ih hp
    rw [if_neg ‹_›]
    split at hp
    · rw [if_pos ‹_›]
      exact ih hp
    · rw [if_neg ‹_›]
      exact ih hp

theorem locate_mono (h : ∀ q, d.isDirectory q = true → e.isDirectory q = true) :
    d.locate path = .ok place → e.locate path = .ok place := by
  intro hp
  rw [locate] at hp ⊢
  split at hp
  · cases hp
  · rw [if_neg ‹_›]
    exact follow_mono h hp

theorem locate_same (h : SameDirectories d e) :
    e.locate path = .ok place ↔ d.locate path = .ok place :=
  ⟨locate_mono fun q hq => (h q).symm.trans hq, locate_mono fun q hq => (h q).trans hq⟩

theorem file_ok {f : File} : disk.file path = .ok f ↔
    ∃ place, disk.locate path = .ok place ∧ disk.fileAt? place = some f := by
  rw [file]
  cases disk.locate path with
  | error fault =>
    refine iff_of_false (fun h => by cases h) ?_
    rintro ⟨_, h, -⟩
    cases h
  | ok place =>
    simp only [bind, Except.bind, Except.ok.injEq, exists_eq_left']
    cases disk.fileAt? place with
    | none => exact iff_of_false (fun h => by cases h) fun h => by cases h
    | some g =>
      exact ⟨fun h => congrArg some (Except.ok.inj h), fun h => congrArg _ (Option.some.inj h)⟩

theorem toOption_eq_some {ε α : Type} {x : Except ε α} {a : α} :
    x.toOption = some a ↔ x = .ok a := by
  cases x <;> simp [Except.toOption]

/-- A text at a place that was left alone. -/
theorem readText_same (h : SameDirectories d e) (path : String)
    (hfile : ∀ place, d.locate path = .ok place → e.fileAt? place = d.fileAt? place) :
    (e.readText path).toOption = (d.readText path).toOption := by
  have hsame : (e.file path).toOption = (d.file path).toOption := by
    rw [Option.ext_iff]
    intro f
    rw [toOption_eq_some, toOption_eq_some, file_ok, file_ok]
    refine exists_congr fun place => ?_
    rw [locate_same h]
    exact and_congr_right fun hplace => by rw [hfile place hplace]
  have hread : ∀ disk : Disk, (disk.readText path).toOption = (disk.file path).toOption.map fun f =>
      (Utf8.decode f.bytes).map fun text => String.ofList (Utf8.plainLines text) := fun disk => by
    rw [readText]
    cases disk.file path <;> rfl
  rw [hread, hread, hsame]

end StylePrune.Disk
