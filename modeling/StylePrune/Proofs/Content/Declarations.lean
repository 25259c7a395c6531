import StylePrune.Content.Heuristics
import StylePrune.Proofs.Content.Attribute
import StylePrune.Proofs.Content.Literals
import StylePrune.Proofs.Text.Words

/-!
# Declarations in content

The declarations of a text are finds that do not overlap (`declarationsFrom_eq`), and each runs to
the next semicolon. So a declaration of a string literal is found unless an earlier one runs over it
(`LiteralDeclaration.mem_declarations`), as none does directly behind a semicolon
(`uncovered_behind_semicolon`).
-/

namespace StylePrune.Content

/-! ## Characters of names -/

theorem isIdentifierStart_ascii {c : Char} (h : isIdentifierStart c = true) : c.toNat < 128 := by
  simp only [isIdentifierStart, Bool.or_eq_true, Bool.and_eq_true, decide_eq_true_eq, Char.le_def,
    UInt32.le_iff_toNat_le] at h
  rcases h with ((⟨-, h⟩ | ⟨-, h⟩) | rfl) | rfl
  · exact Nat.lt_of_le_of_lt h (by decide)
  · exact Nat.lt_of_le_of_lt h (by decide)
  · decide
  · decide

theorem isIdentifierRest_of_start {c : Char} (h : isIdentifierStart c = true) :
    isIdentifierRest c = true := by
  have := of_ascii (p := fun c => !isIdentifierStart c || isIdentifierRest c) (by decide +kernel)
    (isIdentifierStart_ascii h)
  simpa [h] using this

theorem isBlank_of_start {c : Char} (h : isIdentifierStart c = true) : isBlank c = false := by
  have := of_ascii (p := fun c => !isIdentifierStart c || !isBlank c) (by decide +kernel)
    (isIdentifierStart_ascii h)
  simpa [h] using this

/-- All blank characters. -/
def blankCodes : List Nat :=
  [9, 10, 11, 12, 13, 28, 29, 30, 31, 32, 0x85, 0xA0, 0x1680, 0x2000, 0x2001, 0x2002, 0x2003,
    0x2004, 0x2005, 0x2006, 0x2007, 0x2008, 0x2009, 0x200A, 0x2028, 0x2029, 0x202F, 0x205F, 0x3000]

theorem mem_blankCodes {c : Char} (h : isBlank c = true) : c.toNat ∈ blankCodes := by
  simp only [isBlank, isBlankCode, Bool.or_eq_true, Bool.and_eq_true, decide_eq_true_eq] at h
  simp only [blankCodes, List.mem_cons, List.not_mem_nil, or_false]
  omega

theorem isIdentifierRest_blank {c : Char} (h : isBlank c = true) : isIdentifierRest c = false := by
  have hall : blankCodes.all (fun n => !isIdentifierRest (Char.ofNat n)) = true := by
    decide +kernel
  have := List.all_eq_true.1 hall _ (mem_blankCodes h)
  rwa [Char.ofNat_toNat, Bool.not_eq_true'] at this
/-! ## Declarations as finds -/

theorem takeIdentifier_prefix (cs : List Char) : takeIdentifier cs <+: cs := by
  unfold takeIdentifier
  split
  · split
    · exact List.cons_prefix_cons.2 ⟨rfl, List.takeWhile_prefix _⟩
    · exact List.nil_prefix
  · exact List.nil_prefix

theorem isIdentifierRest_takeIdentifier {cs : List Char} {c : Char} (h : c ∈ takeIdentifier cs) :
    isIdentifierRest c = true := by
  unfold takeIdentifier at h
  split at h
  · split at h
    · rename_i hc
      rcases List.mem_cons.1 h with rfl | h
      · exact isIdentifierRest_of_start hc
      · exact List.all_eq_true.1 List.all_takeWhile _ h
    · cases h
  · cases h

def declarationWords : List (List Char) := ["const".toList, "let".toList, "var".toList]

theorem dropOneOf?_eq_some {words : List (List Char)} {cs rest : List Char}
    (h : dropOneOf? words cs = some rest) : ∃ word ∈ words, cs = word ++ rest := by
  obtain ⟨word, hword, hrest⟩ := List.exists_of_findSome?_eq_some h
  exact ⟨word, hword, dropWord?_eq_some hrest⟩

/-- What a declaration takes up: no semicolon stands in it but behind its value. -/
theorem declarationAt?_eq_some {before : Option Char} {cs after : List Char} {d : Declaration}
    (h : declarationAt? before cs = some (d, after)) :
    ∃ front tail, cs = front ++ (d.value ++ tail) ∧ after = tail.drop 1 ∧ ';' ∉ front ∧
      ';' ∉ d.value ∧ '=' ∉ d.name ∧ ∀ c ∈ cs.head?, isBlank c = false := by
  have nameless : ∀ {c : Char}, isIdentifierRest c = false → ∀ cs, c ∉ takeIdentifier cs :=
    fun hc cs hm => by rw [isIdentifierRest_takeIdentifier hm] at hc; cases hc
  have blankless : ∀ gap : List Char, (∀ c ∈ gap, isBlank c = true ∨ c = '=') → ';' ∉ gap :=
    fun gap hgap hm => (hgap _ hm).elim (by decide) (by decide)
  unfold declarationAt? at h
  split at h
  · split at h
    · rename_i rest hrest
      obtain ⟨word, hword, rfl⟩ := dropOneOf?_eq_some hrest
      extract_lets spaced name at h
      split at h
      · split at h
        · rename_i value hvalue
          extract_lets text at h
          split at h
          · cases h
          · obtain ⟨rfl, rfl⟩ := Prod.mk.inj (Option.some.inj h)
            obtain ⟨gap, hgap, hspaced⟩ := exists_dropBlanks rest
            obtain ⟨equals, hequals, hname⟩ := dropEquals?_eq_some hvalue
            have hsplit : spaced = name ++ (equals ++ value) := by
              obtain ⟨more, hmore⟩ := takeIdentifier_prefix spaced
              rw [← hname, ← hmore, List.drop_left]
            have htext : text ++ value.dropWhile (· ≠ ';') = value :=
              List.takeWhile_append_dropWhile
            refine ⟨word ++ gap ++ name ++ equals, value.dropWhile (· ≠ ';'), ?_, ?_, ?_, ?_, ?_, ?_⟩
            · rw [hspaced, show dropBlanks rest = spaced from rfl, hsplit, htext]
              simp only [List.append_assoc]
            · conv => lhs; rw [← htext, ← List.drop_drop, List.drop_left]
            · simp only [List.mem_append, not_or]
              refine ⟨⟨⟨?_, blankless gap fun c hc => .inl (hgap c hc)⟩, nameless (by decide) _⟩,
                blankless equals hequals⟩
              simp only [List.mem_cons, List.not_mem_nil, or_false] at hword
              rcases hword with rfl | rfl | rfl <;> decide
            · exact fun hm => absurd (List.all_eq_true.1 List.all_takeWhile _ hm) (by simp)
            · exact nameless (by decide) _
            · simp only [List.mem_cons, List.not_mem_nil, or_false] at hword
              rcases hword with rfl | rfl | rfl <;>
                (intro c hc; obtain rfl := Option.some.inj hc; decide)
        · cases h
      · cases h
    · cases h
  · cases h

/-- A declaration as a find: its name and its value with an equals sign between them. -/
def declaration : Recogniser := fun before cs =>
  (declarationAt? before cs).map fun (d, after) =>
    ⟨d.name ++ '=' :: d.value, 0, cs.length - after.length⟩

def Find.declared (found : Find) : Declaration :=
  match cutAt? '=' found.value with
  | some (name, value) => ⟨name, value⟩
  | none => ⟨[], []⟩

theorem declaration_eq {before : Option Char} {cs after : List Char} {d : Declaration}
    (h : declarationAt? before cs = some (d, after)) :
    ∃ found, declaration before cs = some found ∧ found.declared = d ∧
      found.length = cs.length - after.length := by
  obtain ⟨_, _, _, _, _, _, hname, _⟩ := declarationAt?_eq_some h
  refine ⟨⟨d.name ++ '=' :: d.value, 0, cs.length - after.length⟩, ?_, ?_, rfl⟩
  · rw [declaration, h]
    rfl
  · rw [Find.declared, cutAt?_append hname]

theorem declarationsFrom_eq (cs : List Char) (skip : Nat) (before : Option Char) (index : Nat) :
    declarationsFrom skip before cs =
      (findAllFrom declaration skip before index cs).map fun x => x.2.declared := by
  induction cs generalizing skip before index with
  | nil => rfl
  | cons c rest ih =>
    cases skip with
    | succ skip => rw [declarationsFrom, findAllFrom, ih]
    | zero =>
      rw [declarationsFrom, findAllFrom]
      cases h : declarationAt? before (c :: rest) with
      | none =>
        have hnone : declaration before (c :: rest) = none := by rw [declaration, h]; rfl
        rw [hnone]
        exact ih 0 (some c) (index + 1)
      | some x =>
        obtain ⟨d, after⟩ := x
        obtain ⟨found, hfound, hd, hlength⟩ := declaration_eq h
        have hskip : found.length - 1 = rest.length - after.length := by
          rw [hlength, List.length_cons]
          omega
        rw [hfound, List.map_cons, hd, hskip]
        exact congrArg (d :: ·) (ih _ _ _)

theorem pairwise_findAllFrom (r : Recogniser) : ∀ (cs : List Char) (skip : Nat)
    (before : Option Char) (index : Nat),
      (findAllFrom r skip before index cs).Pairwise fun x y => x.1 < y.1
  | [], _, _, _ => .nil
  | c :: rest, skip + 1, before, index => by
    rw [findAllFrom]
    exact pairwise_findAllFrom r rest skip (some c) (index + 1)
  | c :: rest, 0, before, index => by
    rw [findAllFrom]
    split
    · refine .cons (fun x hx => ?_) (pairwise_findAllFrom r rest _ (some c) (index + 1))
      have := le_of_mem_findAllFrom hx
      omega
    · exact pairwise_findAllFrom r rest 0 (some c) (index + 1)

/-- Directly behind a semicolon, and behind blanks from there, no declaration runs over the place.
-/
theorem uncovered_behind_semicolon (pre gap rest : List Char)
    (hgap : ∀ c ∈ gap, isBlank c = true) :
    Uncovered (pre ++ ';' :: gap).length (findAll declaration (pre ++ ';' :: (gap ++ rest))) := by
  intro x hx hlt
  obtain ⟨u, v, before, huv, hi, hr⟩ := exists_of_mem_findAllFrom hx
  rw [Nat.zero_add] at hi
  obtain ⟨⟨d, after⟩, hd, hx2⟩ := Option.map_eq_some_iff.1 hr
  obtain ⟨front, tail, hv, hafter, hfront, hvalue, -, hblank⟩ := declarationAt?_eq_some hd
  have hlength : x.2.length = v.length - after.length := by rw [← hx2]
  have hat : ∀ i, u.length ≤ i →
      v[i - u.length]? = (pre ++ ';' :: (gap ++ rest))[i]? := fun i h => by
    rw [huv, List.getElem?_append_right h]
  simp only [List.length_append, List.length_cons] at hlt ⊢
  by_cases hu : u.length ≤ pre.length
  · have hsemi : v[pre.length - u.length]? = some ';' := by rw [hat _ hu]; simp
    have hover : (front ++ d.value).length ≤ pre.length - u.length := by
      refine Nat.le_of_not_lt fun h => ?_
      rw [hv, ← List.append_assoc, List.getElem?_append_left h] at hsemi
      exact (List.mem_append.1 (List.mem_of_getElem? hsemi)).elim hfront hvalue
    have htail : tail.length ≤ after.length + 1 := by rw [hafter, List.length_drop]; omega
    rw [hv, List.length_append, List.length_append] at hlength
    rw [List.length_append] at hover
    omega
  · obtain ⟨k, hk⟩ : ∃ k, u.length = pre.length + (k + 1) := ⟨u.length - pre.length - 1, by omega⟩
    have hkgap : k < gap.length := by omega
    have hhead : v.head? = some gap[k] := by
      have := hat u.length (Nat.le_refl _)
      rw [Nat.sub_self, hk, List.getElem?_append_right (Nat.le_add_right _ _),
        Nat.add_sub_cancel_left, List.getElem?_cons_succ, List.getElem?_append_left hkgap,
        List.getElem?_eq_getElem hkgap] at this
      rw [List.head?_eq_getElem?, this]
    have := hblank _ hhead
    rw [hgap _ (List.getElem_mem hkgap)] at this
    cases this

/-! ## Declarations of a string literal -/

def Declaration.tokens (d : Declaration) : List String :=
  distinct (tokensOf (quotedStrings d.value ++ templateParts d.value))

theorem dropOneOf?_word {word : List Char} (h : word ∈ declarationWords) (rest : List Char) :
    dropOneOf? declarationWords (word ++ rest) = some rest := by
  simp only [declarationWords, List.mem_cons, List.not_mem_nil, or_false] at h
  rcases h with rfl | rfl | rfl <;> rfl

theorem isIdentifierStart_head {c : Char} {cs rest : List Char}
    (h : takeIdentifier cs = c :: rest) : isIdentifierStart c = true := by
  unfold takeIdentifier at h
  split at h
  · split at h
    · rename_i hstart
      rwa [(List.cons.inj h).1] at hstart
    · cases h
  · cases h

theorem takeIdentifier_append {name rest : List Char} (hname : takeIdentifier name = name)
    (hne : name ≠ []) (hrest : ∀ c ∈ rest.head?, isIdentifierRest c = false) :
    takeIdentifier (name ++ rest) = name := by
  cases name with
  | nil => exact absurd rfl hne
  | cons c name =>
    have hall : ∀ d ∈ name, isIdentifierRest d = true := fun d hd =>
      @isIdentifierRest_takeIdentifier (c :: name) d (by rw [hname]; exact .tail c hd)
    have hstart : isIdentifierStart c = true := isIdentifierStart_head hname
    have hend : rest.takeWhile isIdentifierRest = [] := by
      cases rest with
      | nil => rfl
      | cons d rest => rw [List.takeWhile_cons_of_neg (by simp [hrest d rfl])]
    rw [List.cons_append, takeIdentifier, if_pos hstart, List.takeWhile_append_of_pos hall, hend,
      List.append_nil]

/-- A declaration of a string literal, as it is written. -/
structure LiteralDeclaration where
  word : List Char
  gap : List Char
  name : List Char
  before : List Char
  after : List Char
  quote : Char
  raw : List Char
  word_mem : word ∈ declarationWords
  gap_ne_nil : gap ≠ []
  gap_blank : ∀ c ∈ gap, isBlank c = true
  name_ne_nil : name ≠ []
  takeIdentifier_name : takeIdentifier name = name
  before_blank : ∀ c ∈ before, isBlank c = true
  after_blank : ∀ c ∈ after, isBlank c = true
  quote_mark : quote = '\x27' ∨ quote = '"'
  isRaw : IsRaw quote raw

namespace LiteralDeclaration

variable (d : LiteralDeclaration)

def text : List Char :=
  d.word ++ d.gap ++ d.name ++ d.before ++ '=' :: d.after ++ d.quote :: d.raw ++ [d.quote]

/-- The value runs on to the next semicolon. -/
def declared (rest : List Char) : Declaration :=
  ⟨d.name, d.quote :: d.raw ++ d.quote :: rest.takeWhile (· ≠ ';')⟩

/-- The text from the name on, with what follows the declaration. -/
def fromName (rest : List Char) : List Char :=
  d.name ++ (d.before ++ '=' :: (d.after ++ d.quote :: (d.raw ++ d.quote :: rest)))

theorem text_append (rest : List Char) : d.text ++ rest = d.word ++ (d.gap ++ d.fromName rest) := by
  simp [text, fromName]

theorem quote_ne : isBlank d.quote = false ∧ d.quote ≠ ';' := by
  rcases d.quote_mark with h | h <;> rw [h] <;> decide

theorem dropBlanks_gap (rest : List Char) :
    dropBlanks (d.gap ++ d.fromName rest) = d.fromName rest := by
  refine dropBlanks_append d.gap_blank fun c hc => isBlank_of_start ?_
  obtain ⟨first, name, hname⟩ := List.exists_cons_of_ne_nil d.name_ne_nil
  rw [fromName, hname] at hc
  obtain rfl := Option.some.inj hc
  exact isIdentifierStart_head (d.takeIdentifier_name.trans hname)

theorem takeIdentifier_fromName (rest : List Char) :
    takeIdentifier (d.fromName rest) = d.name := by
  refine takeIdentifier_append d.takeIdentifier_name d.name_ne_nil fun c hc => ?_
  cases hb : d.before with
  | nil =>
    rw [hb] at hc
    obtain rfl := Option.some.inj hc
    decide
  | cons b before =>
    rw [hb] at hc
    obtain rfl := Option.some.inj hc
    exact isIdentifierRest_blank (d.before_blank _ (hb ▸ .head _))

theorem dropEquals?_fromName (rest : List Char) :
    dropEquals? ((d.fromName rest).drop d.name.length) =
      some (d.quote :: (d.raw ++ d.quote :: rest)) := by
  rw [fromName, List.drop_left]
  exact dropEquals?_append d.before_blank d.after_blank (by simp [d.quote_ne.1])

theorem takeWhile_value (hraw : ';' ∉ d.raw) (rest : List Char) :
    (d.quote :: (d.raw ++ d.quote :: rest)).takeWhile (· ≠ ';') = (d.declared rest).value := by
  have hraw' : ∀ c ∈ d.raw, decide (c ≠ ';') = true := fun c hc => by
    rw [decide_eq_true_iff]
    rintro rfl
    exact hraw hc
  rw [List.takeWhile_cons_of_pos (by simp [d.quote_ne.2]), List.takeWhile_append_of_pos hraw',
    List.takeWhile_cons_of_pos (by simp [d.quote_ne.2])]
  rfl

theorem declarationAt?_text {pre : Option Char} (hpre : atWordStart pre = true)
    (hraw : ';' ∉ d.raw) (rest : List Char) :
    ∃ after, declarationAt? pre (d.text ++ rest) = some (d.declared rest, after) := by
  have hword : dropOneOf? ["const".toList, "let".toList, "var".toList]
      (d.word ++ (d.gap ++ d.fromName rest)) = some (d.gap ++ d.fromName rest) :=
    dropOneOf?_word d.word_mem _
  have hgap : 0 < d.gap.length := List.length_pos_iff.2 d.gap_ne_nil
  rw [declarationAt?, if_pos hpre, d.text_append, hword]
  simp only [d.dropBlanks_gap, d.takeIdentifier_fromName, d.dropEquals?_fromName,
    d.takeWhile_value hraw]
  rw [if_pos (by simp [d.name_ne_nil, hgap]), if_neg (by simp [declared])]
  exact ⟨_, rfl⟩

theorem tokens_declared (hraw : unbroken d.raw = true) (rest : List Char) {token : String}
    (ht : token ∈ tokenizeClassList d.raw) : token ∈ (d.declared rest).tokens := by
  rw [Declaration.tokens, mem_distinct, tokensOf, List.flatMap_append, List.mem_append]
  refine .inl (List.mem_flatMap.2 ⟨d.raw, List.mem_map.2 ⟨(0, Find.enclosed d.raw), ?_, rfl⟩, ht⟩)
  refine (mem_strings d.quote_mark d.isRaw [] _).2 ⟨hraw, fun _ _ h => ?_⟩
  exact absurd h (Nat.not_lt_zero _)

end LiteralDeclaration

/-- The declarations that are found in a text, each with its place. -/
def declarations (content : List Char) : List (Nat × Declaration) :=
  (findAll declaration content).map fun x => (x.1, x.2.declared)

/-- A declaration of a literal is found at its place unless an earlier one runs over it. -/
theorem LiteralDeclaration.mem_declarations (d : LiteralDeclaration) {pre rest : List Char}
    (hpre : atWordStart pre.getLast? = true) (hraw : ';' ∉ d.raw) :
    (pre.length, d.declared rest) ∈ declarations (pre ++ (d.text ++ rest)) ↔
      Uncovered pre.length (findAll declaration (pre ++ (d.text ++ rest))) := by
  obtain ⟨after, hafter⟩ := d.declarationAt?_text hpre hraw rest
  obtain ⟨found, hfound, hdeclared, -⟩ := declaration_eq hafter
  obtain ⟨c, more, htext⟩ := List.exists_cons_of_ne_nil
    (show d.text ++ rest ≠ [] by simp [LiteralDeclaration.text])
  rw [htext] at hfound ⊢
  constructor
  · intro h
    obtain ⟨⟨place, f⟩, hf, he⟩ := List.mem_map.1 h
    obtain rfl : place = pre.length := (Prod.mk.inj he).1
    exact (mem_findAll.1 hf).2
  · intro h
    exact List.mem_map.2 ⟨_, mem_findAll.2 ⟨hfound, h⟩, by rw [hdeclared]⟩

end StylePrune.Content
