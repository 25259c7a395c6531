import StylePrune.Content.Heuristics
import StylePrune.Content.Position
import StylePrune.Proofs.Content.Find
import StylePrune.Proofs.Sorted

/-!
# Braced attributes in content

What a scan notes is what the tokens of its yields give it, one by one (`scan_iff`). So its classes
are the tokens that its recognisers yield, whatever else they yield (`mem_scan`). A braced attribute
is found wherever its name starts a word (`mem_bracedAttribute`): the first character of the name
stands nowhere else in what the search takes up, so no find before it runs over it.
-/

namespace StylePrune.Content

/-! ## The classes of a scan -/

theorem mem_distinct {x : String} (xs : List String) : x ∈ distinct xs ↔ x ∈ xs := by
  have kept : ∀ (xs kept : List String), x ∈ xs.foldl
      (fun kept x => if kept.contains x then kept else x :: kept) kept ↔ x ∈ xs ∨ x ∈ kept := by
    intro xs
    induction xs with
    | nil => intro kept; simp
    | cons y xs ih =>
      intro kept
      rw [List.foldl_cons, ih, List.mem_cons]
      split
      · rename_i hy
        have hy := List.contains_iff_mem.1 hy
        constructor
        · exact fun h => h.imp_left .inr
        · rintro ((rfl | h) | h)
          · exact .inr hy
          · exact .inl h
          · exact .inr h
      · rw [List.mem_cons, ← or_assoc, or_comm (a := x = y)]
  rw [distinct, List.mem_reverse, kept]
  simp

/-- What a scan notes of the yields: for a property that patterns do not touch and that a scan has
once a class with `Q` was added, the yields together have what one of their tokens has. -/
theorem scan_iff {P : Scan → Prop} {Q : String → Nat → Prop} {collectDynamic : Bool}
    {label : Option String} {content : List Char} (hempty : ¬ P {})
    (hadd : ∀ (s : Scan) (token : String) (index : Nat),
      P (s.addClass token
          (Source.origin ⟨label.filter (· ≠ ""), LineTable.ofChars content⟩ index)) ↔
        P s ∨ Q token index)
    (hpatterns : ∀ (s : Scan) patterns, P { s with dynamicPatterns := patterns } ↔ P s) :
    P (scan collectDynamic label content) ↔
      ∃ y ∈ yields collectDynamic content, ∃ t ∈ y.tokens, Q t.1 t.2 := by
  have tokens : ∀ (ts : List (String × Nat)) (s : Scan),
      P (ts.foldl (fun scan t => scan.addClass t.1 (Source.origin
        ⟨label.filter (· ≠ ""), LineTable.ofChars content⟩ t.2)) s) ↔
        P s ∨ ∃ t ∈ ts, Q t.1 t.2 := by
    intro ts
    induction ts with
    | nil => simp
    | cons t ts ih =>
      intro s
      rw [List.foldl_cons, ih, hadd, or_assoc, List.exists_mem_cons_iff]
  have folded : ∀ (ys : List Yield) (s : Scan),
      P (ys.foldl (addYield ⟨label.filter (· ≠ ""), LineTable.ofChars content⟩) s) ↔
        P s ∨ ∃ y ∈ ys, ∃ t ∈ y.tokens, Q t.1 t.2 := by
    intro ys
    induction ys with
    | nil => simp
    | cons y ys ih =>
      intro s
      rw [List.foldl_cons, ih, List.exists_mem_cons_iff, ← or_assoc]
      exact or_congr_left ((hpatterns ..).trans (tokens y.tokens s))
  rw [scan, hpatterns, folded, or_iff_right hempty]

/-- The classes of a scan are the tokens that its recognisers yield. -/
theorem mem_scan {collectDynamic : Bool} {label : Option String} {content : List Char}
    {x : String} : x ∈ (scan collectDynamic label content).classes ↔
      ∃ y ∈ yields collectDynamic content, ∃ i, (x, i) ∈ y.tokens := by
  have hadd : ∀ (s : Scan) (token : String) (origin : Option String),
      x ∈ (s.addClass token origin).classes ↔ x ∈ s.classes ∨ x = token := fun s token _ =>
    (Sorted.mem_insert Sorted.strict_stringLt token x s.classes).trans or_comm
  rw [scan_iff (P := fun s => x ∈ s.classes) (Q := fun token _ => x = token) List.not_mem_nil
    (fun s token _ => hadd s token _) fun _ _ => Iff.rfl]
  simp only [Prod.exists, exists_and_right, exists_eq_right']

/-! ## Finding an attribute -/

theorem dropWord?_eq_some {word cs rest : List Char} (h : dropWord? word cs = some rest) :
    cs = word ++ rest := by
  rw [dropWord?] at h
  split at h
  · rename_i hp
    obtain rfl := Option.some.inj h
    obtain ⟨tail, rfl⟩ := List.isPrefixOf_iff_prefix.1 hp
    rw [List.drop_left]
  · cases h

theorem dropWord?_append (word rest : List Char) : dropWord? word (word ++ rest) = some rest := by
  rw [dropWord?, if_pos (List.isPrefixOf_iff_prefix.2 ⟨rest, rfl⟩), List.drop_left]

/-- The blanks dropped from a text. -/
theorem exists_dropBlanks (cs : List Char) : ∃ gap, (∀ c ∈ gap, isBlank c = true) ∧
    cs = gap ++ dropBlanks cs :=
  ⟨cs.takeWhile isBlank, fun c hc => by
    have := List.all_takeWhile (p := isBlank) (l := cs)
    exact List.all_eq_true.1 this c hc, (List.takeWhile_append_dropWhile).symm⟩

theorem dropBlanks_append {gap rest : List Char} (hgap : ∀ c ∈ gap, isBlank c = true)
    (hrest : ∀ c ∈ rest.head?, isBlank c = false) : dropBlanks (gap ++ rest) = rest := by
  rw [dropBlanks, List.dropWhile_append_of_pos hgap]
  cases rest with
  | nil => rfl
  | cons c rest => rw [List.dropWhile_cons_of_neg (by simp [hrest c rfl])]

theorem dropEquals?_append {gap gap' rest : List Char} (hgap : ∀ c ∈ gap, isBlank c = true)
    (hgap' : ∀ c ∈ gap', isBlank c = true) (hrest : ∀ c ∈ rest.head?, isBlank c = false) :
    dropEquals? (gap ++ '=' :: (gap' ++ rest)) = some rest := by
  have hsign : ∀ c ∈ ('=' :: (gap' ++ rest)).head?, isBlank c = false := by simp; decide
  rw [dropEquals?, dropBlanks_append hgap hsign]
  exact congrArg some (dropBlanks_append hgap' hrest)

/-- What an equals sign and the blanks around it are made of. -/
theorem dropEquals?_eq_some {cs rest : List Char} (h : dropEquals? cs = some rest) :
    ∃ gap, (∀ c ∈ gap, isBlank c = true ∨ c = '=') ∧ cs = gap ++ rest := by
  rw [dropEquals?] at h
  split at h
  · rename_i more heq
    obtain rfl := Option.some.inj h
    obtain ⟨before, hb, hcs⟩ := exists_dropBlanks cs
    obtain ⟨behind, ha, hmore⟩ := exists_dropBlanks more
    refine ⟨before ++ '=' :: behind, fun c hc => ?_, ?_⟩
    · rcases List.mem_append.1 hc with hc | hc
      · exact .inl (hb c hc)
      · exact (List.mem_cons.1 hc).elim .inr fun hc => .inl (ha c hc)
    · rw [hcs, heq, List.append_assoc, List.cons_append, ← hmore]
  · cases h

/-- What a braced attribute takes up: its name, an equals sign and a brace, and blanks. -/
theorem bracedAttribute_eq_some {name : String} {before : Option Char} {cs : List Char}
    {found : Find} (h : bracedAttribute name before cs = some found) :
    ∃ gap rest, (∀ c ∈ gap, isBlank c = true ∨ c = '=' ∨ c = '\x7b') ∧
      cs = name.toList ++ gap ++ rest ∧ found.length = (name.toList ++ gap).length := by
  unfold bracedAttribute at h
  split at h
  · cases h
  obtain ⟨more, hmore, h⟩ := Option.bind_eq_some_iff.1 h
  obtain ⟨value, hvalue, h⟩ := Option.bind_eq_some_iff.1 h
  split at h
  · rename_i rest
    obtain rfl := Option.some.inj h
    obtain rfl := dropWord?_eq_some hmore
    obtain ⟨gap, hgap, rfl⟩ := dropEquals?_eq_some hvalue
    refine ⟨gap ++ ['\x7b'], rest, fun c hc => ?_, by simp, ?_⟩
    · rcases List.mem_append.1 hc with hc | hc
      · exact (hgap c hc).imp_right .inl
      · exact .inr (.inr (List.mem_singleton.1 hc))
    · simp only [Find.between, List.length_append, List.length_cons, List.length_nil]
      omega
  · cases h

/-- A braced attribute is found where its name starts a word. -/
theorem mem_bracedAttribute {name : String} {c : Char} {more : List Char}
    (hname : name.toList = c :: more) (hc : c ∉ more)
    (hb : ¬ (isBlank c = true ∨ c = '=' ∨ c = '\x7b')) (pre body : List Char)
    (hpre : atWordStart pre.getLast? = true) :
    ∃ found, found.value = body ∧
      (pre.length, found) ∈
        findAll (bracedAttribute name) (pre ++ name.toList ++ '=' :: '\x7b' :: body) := by
  have hr : ∃ found, found.value = body ∧
      bracedAttribute name pre.getLast? (name.toList ++ '=' :: '\x7b' :: body) = some found := by
    unfold bracedAttribute
    rw [hpre, dropWord?_append]
    exact ⟨_, rfl, rfl⟩
  obtain ⟨found, hv, hr⟩ := hr
  refine ⟨found, hv, ?_⟩
  rw [hname] at hr
  rw [List.append_assoc, hname, List.cons_append, mem_findAll]
  refine ⟨hr, uncovered_of_start (fun before cs found h i hi hci => ?_) pre _⟩
  obtain ⟨gap, rest, hgap, rfl, hlength⟩ := bracedAttribute_eq_some h
  rw [hlength] at hi
  rw [List.getElem?_append_left hi, hname, List.cons_append, List.getElem?_cons_succ] at hci
  rcases List.mem_append.1 (List.mem_of_getElem? hci) with hm | hm
  · exact hc hm
  · exact hb (hgap c hm)

end StylePrune.Content
