import StylePrune.Options
import StylePrune.Proofs.Content.Calls
import StylePrune.Proofs.Content.FixedLists
import StylePrune.Proofs.Disk.Places
import StylePrune.Proofs.Scan.Order

/-!
# Where classes are found

The table of lines gives the line of every offset (`line_ofChars`), and the recognisers say where
the texts that they find stand (`stating_of_mem`). What a scan notes comes from the texts that yield
classes (`Found`), so the origins of a class are the lines at which these texts start, each of them
and no other (`origins_exact`).
-/

namespace StylePrune

/-! ## The table of lines -/

/-- The line of an offset: one more than the line ends before it. -/
def lineAt (text : List Char) (offset : Nat) : Nat := 1 + (text.take offset).count '\n'

theorem lineAt_le (text : List Char) (offset : Nat) : lineAt text offset ≤ 1 + text.count '\n' :=
  Nat.add_le_add_left ((List.take_sublist offset text).count_le '\n') 1

theorem lineAt_mono (text : List Char) {offset later : Nat} (h : offset ≤ later) :
    lineAt text offset ≤ lineAt text later :=
  Nat.add_le_add_left ((List.take_sublist_take_left h).count_le '\n') 1

theorem lineStarts_append (b : List Char) : ∀ (a : List Char) (index : Nat),
    lineStarts index (a ++ b) = lineStarts index a ++ lineStarts (index + a.length) b
  | [], _ => rfl
  | c :: a, index => by
    have ih := lineStarts_append b a (index + 1)
    rw [List.cons_append, lineStarts, lineStarts, ih, List.length_cons, Nat.add_assoc,
      Nat.add_comm 1]
    split <;> rfl

theorem length_lineStarts : ∀ (cs : List Char) (index : Nat),
    (lineStarts index cs).length = cs.count '\n'
  | [], _ => rfl
  | c :: cs, index => by
    rw [lineStarts, List.count_cons]
    split
    · rename_i hc
      rw [hc, List.length_cons, length_lineStarts cs, beq_self_eq_true, if_pos rfl]
    · rename_i hc
      rw [length_lineStarts cs, beq_eq_false_iff_ne.2 hc, if_neg (by decide), Nat.add_zero]

theorem mem_lineStarts {place : Nat} : ∀ {cs : List Char} {index : Nat},
    place ∈ lineStarts index cs → index < place ∧ place ≤ index + cs.length
  | [], _, h => by cases h
  | c :: cs, index, h => by
    have later : place ∈ lineStarts (index + 1) cs →
        index < place ∧ place ≤ index + (c :: cs).length := fun h => by
      have := mem_lineStarts h
      rw [List.length_cons]
      omega
    rw [lineStarts] at h
    split at h
    · rcases List.mem_cons.1 h with rfl | h
      · rw [List.length_cons]
        omega
      · exact later h
    · exact later h

namespace LineTable

/-- The search ends at the place where the entries begin to be greater than the offset. -/
theorem countUpTo_eq {starts : Array Nat} {offset place : Nat}
    (hbelow : ∀ i < place, starts.getD i 0 ≤ offset)
    (habove : ∀ i, place ≤ i → i < starts.size → offset < starts.getD i 0) :
    ∀ {fuel low high : Nat}, low ≤ place → place ≤ high → high ≤ starts.size →
      high ≤ low + fuel → countUpTo starts offset fuel low high = place
  | 0, low, high, hlow, hhigh, _, hfuel => by
    rw [countUpTo]
    omega
  | fuel + 1, low, high, hlow, hhigh, hsize, hfuel => by
    rw [countUpTo]
    split
    · rename_i hlt
      dsimp only
      generalize hmiddle : (low + high) / 2 = middle
      split
      · rename_i hgreater
        have : place ≤ middle := Nat.le_of_not_lt fun h =>
          absurd (hbelow middle h) (Nat.not_le_of_lt hgreater)
        exact countUpTo_eq hbelow habove hlow this (by omega) (by omega)
      · rename_i hgreater
        have : middle + 1 ≤ place := Nat.lt_of_not_le fun h =>
          hgreater (habove middle h (by omega))
        exact countUpTo_eq hbelow habove this hhigh hsize (by omega)
    · omega

section starts

variable {text : List Char} {offset i : Nat}

theorem size_starts (text : List Char) : (ofChars text).starts.size = 1 + text.count '\n' := by
  rw [ofChars, List.size_toArray, List.length_cons, length_lineStarts, Nat.add_comm]

theorem length_starts_take (text : List Char) (offset : Nat) :
    (0 :: lineStarts 0 (text.take offset)).length = lineAt text offset := by
  rw [List.length_cons, length_lineStarts, lineAt, Nat.add_comm]

/-- The line starts up to an offset, and those behind it. -/
theorem getD_starts (hoffset : offset ≤ text.length) (i : Nat) :
    (ofChars text).starts.getD i 0 = (((0 :: lineStarts 0 (text.take offset)) ++
      lineStarts offset (text.drop offset))[i]?).getD 0 := by
  have hsplit := lineStarts_append (text.drop offset) (text.take offset) 0
  rw [List.take_append_drop, List.length_take, Nat.zero_add, Nat.min_eq_left hoffset] at hsplit
  rw [ofChars, hsplit, List.cons_append, Array.getD_eq_getD_getElem?, List.getElem?_toArray]

theorem getD_starts_le (hoffset : offset ≤ text.length) (hi : i < lineAt text offset) :
    (ofChars text).starts.getD i 0 ≤ offset := by
  rw [← length_starts_take] at hi
  rw [getD_starts hoffset, List.getElem?_append_left hi, List.getElem?_eq_getElem hi,
    Option.getD_some]
  rcases List.mem_cons.1 (List.getElem_mem hi) with hzero | hmem
  · rw [hzero]
    exact Nat.zero_le _
  · have := (mem_lineStarts hmem).2
    rw [List.length_take] at this
    omega

theorem lt_getD_starts (hoffset : offset ≤ text.length) (hi : lineAt text offset ≤ i)
    (hlt : i < (ofChars text).starts.size) : offset < (ofChars text).starts.getD i 0 := by
  have hcount : text.count '\n' =
      (text.take offset).count '\n' + (text.drop offset).count '\n' := by
    rw [← List.count_append, List.take_append_drop]
  have hbound : i - lineAt text offset < (lineStarts offset (text.drop offset)).length := by
    rw [size_starts] at hlt
    rw [length_lineStarts]
    rw [lineAt] at hi ⊢
    omega
  rw [getD_starts hoffset, List.getElem?_append_right (by rwa [length_starts_take]),
    length_starts_take, List.getElem?_eq_getElem hbound, Option.getD_some]
  exact (mem_lineStarts (List.getElem_mem hbound)).1

end starts

/-- The table gives the line of every offset. -/
theorem line_ofChars (text : List Char) (offset : Nat) :
    (ofChars text).line offset = lineAt text offset := by
  rw [line]
  split
  · rename_i hstart
    have hzero : offset = 0 := by omega
    rw [hzero]
    rfl
  split
  · rename_i hend
    have hlength : text.length ≤ offset := by
      simp only [ofChars] at hend
      omega
    rw [size_starts, lineAt, List.take_of_length_le hlength]
  · rename_i hend
    have hlength : offset ≤ text.length := by
      simp only [ofChars] at hend
      omega
    exact countUpTo_eq (fun _ => getD_starts_le hlength) (fun _ => lt_getD_starts hlength)
      (Nat.zero_le _) (size_starts text ▸ lineAt_le text offset) (Nat.le_refl _)
      (Nat.le_add_left _ _)

/-- Offsets before the text are of its first line. -/
theorem line_toNat (text : List Char) (offset : Int) :
    (ofChars text).line offset = lineAt text offset.toNat := by
  rcases Int.le_total offset 0 with hstart | hstart
  · rw [line, if_pos hstart, Int.toNat_of_nonpos hstart]
    rfl
  · conv => lhs; rw [← Int.toNat_of_nonneg hstart]
    exact line_ofChars text offset.toNat

/-- The line of any offset is found by counting the line ends before it, as far as the text goes. So
a later offset is on no earlier line, and no offset is behind the last line. -/
theorem line_exact (text : List Char) :
    (∀ offset : Int, (ofChars text).line offset =
      1 + (text.take (min (max offset 0) text.length).toNat).count '\n') ∧
    (∀ offset later : Int, offset ≤ later →
      (ofChars text).line offset ≤ (ofChars text).line later) ∧
    ∀ offset : Int, (ofChars text).line offset ≤ (splitOn '\n' text).length := by
  refine ⟨fun offset => ?_, fun offset later h => ?_, fun offset => ?_⟩
  · have hplace : (min (max offset 0) text.length).toNat = min offset.toNat text.length := by omega
    rw [line_toNat, lineAt, hplace, ← List.take_eq_take_min]
  · rw [line_toNat, line_toNat]
    exact lineAt_mono text (Int.toNat_le_toNat h)
  · rw [line_toNat, length_splitOn]
    exact lineAt_le text offset.toNat

/-- Offsets before a text, behind one of its line ends and behind the text, which ends with a line
end. -/
theorem line_exact_outside : (ofChars "a\nbb\n".toList).line (-5) = 1 ∧
    (ofChars "a\nbb\n".toList).line 2 = 2 ∧ (ofChars "a\nbb\n".toList).line 100 = 3 ∧
    (-5 : Int) ≤ 2 ∧
      (ofChars "a\nbb\n".toList).line (-5) ≤ (ofChars "a\nbb\n".toList).line 2 := by
  obtain ⟨hcount, hmono, -⟩ := line_exact "a\nbb\n".toList
  exact ⟨hcount (-5), hcount 2, hcount 100, by decide, hmono (-5) 2 (by decide)⟩

end LineTable

namespace Origins

theorem mem_placesOf_add {o : Origins} {name other place added : String} :
    place ∈ (o.add other [added]).placesOf name ↔
      place ∈ o.placesOf name ∨ name = other ∧ place = added := by
  rw [placesOf, lookup_add]
  split
  · rename_i hname
    rw [Option.getD_some, Sorted.unionStrings, Sorted.mem_union Sorted.strict_stringLt,
      List.mem_singleton, ← hname, ← placesOf, and_iff_right rfl]
  · rename_i hname
    rw [← placesOf, or_iff_left fun h => hname h.1]

end Origins

namespace Content

/-! ## Finds stand where they say -/

/-- The value of a find stands in the text where the find says. -/
def Find.Stands (text : List Char) (found : Find) : Prop :=
  found.value <+: text.drop found.offset

theorem Find.stands_between {text start value : List Char} (hstart : start <:+ text)
    (hvalue : value <+: start) (rest : List Char) :
    (between text value start rest).Stands text := by
  obtain ⟨front, rfl⟩ := hstart
  rw [Stands, between, List.length_append, Nat.add_sub_cancel, List.drop_left]
  exact hvalue

/-- A recogniser whose finds stand where they say. -/
def Stating (r : Recogniser) : Prop :=
  ∀ before cs found, r before cs = some found → found.Stands cs

/-- What is found in a content stands in it where it is found. -/
theorem Stating.prefix_drop {r : Recogniser} (hr : Stating r) {content : List Char}
    {x : Nat × Find} (hx : x ∈ findAll r content) :
    x.2.value <+: content.drop (x.1 + x.2.offset) := by
  obtain ⟨front, rest, before, rfl, hplace, hfound⟩ := exists_of_mem_findAllFrom hx
  rw [Nat.zero_add] at hplace
  rw [hplace, ← List.drop_drop, List.drop_left]
  exact hr _ _ _ hfound

section suffixes

variable {text cs rest : List Char}

theorem dropBlanks_suffix (cs : List Char) : dropBlanks cs <:+ cs := List.dropWhile_suffix _

theorem suffix_of_dropWord? {word : List Char} (h : dropWord? word cs = some rest) : rest <:+ cs :=
  ⟨word, (dropWord?_eq_some h).symm⟩

theorem suffix_of_dropEquals? (h : dropEquals? cs = some rest) : rest <:+ cs := by
  obtain ⟨gap, -, rfl⟩ := dropEquals?_eq_some h
  exact List.suffix_append gap rest

theorem prefix_of_cutAt? {c : Char} {value : List Char} (h : cutAt? c cs = some (value, rest)) :
    value <+: cs := by
  obtain ⟨rfl, -⟩ := cutAt?_eq_some h
  exact List.prefix_append value _

theorem ListForm.suffix_of_opened? {form : ListForm} (h : form.opened? cs = some rest) :
    rest <:+ cs := by
  obtain ⟨gap, -, rfl⟩ := opened?_eq_some h
  rw [← List.append_assoc]
  exact List.suffix_append _ rest

theorem stands_plainQuoted {found : Find} (hcs : cs <:+ text)
    (h : plainQuoted text cs = some found) : found.Stands text := by
  unfold plainQuoted at h
  split at h
  · rename_i q inner
    split at h
    · dsimp only at h
      split at h
      · split at h
        · cases h
        · obtain rfl := Option.some.inj h
          exact Find.stands_between ((List.suffix_cons q inner).trans hcs)
            (List.takeWhile_prefix _) _
      · cases h
    · cases h
  · cases h

theorem stands_sameQuoted {found : Find} (hcs : cs <:+ text)
    (h : sameQuoted text cs = some found) : found.Stands text := by
  unfold sameQuoted at h
  split at h
  · rename_i q inner
    split at h
    · obtain ⟨⟨value, after⟩, hcut, rfl⟩ := Option.map_eq_some_iff.1 h
      exact Find.stands_between ((List.suffix_cons q inner).trans hcs) (prefix_of_cutAt? hcut) _
    · cases h
  · cases h

end suffixes

theorem stating_list (form : ListForm) : Stating form.recogniser := by
  intro before cs found h
  have opened : ∀ {text : List Char}, text <:+ cs →
      (form.opened? text).bind (plainQuoted cs) = some found → found.Stands cs := by
    intro text htext h
    obtain ⟨rest, hrest, h⟩ := Option.bind_eq_some_iff.1 h
    exact stands_plainQuoted ((ListForm.suffix_of_opened? hrest).trans htext) h
  cases form with
  | markup =>
    cases cs with
    | nil => cases before <;> cases h
    | cons c rest =>
      rw [ListForm.recogniser, ListForm.markup_cons, Option.or_eq_some_iff] at h
      rcases h with h | ⟨-, h⟩
      · split at h
        · exact opened List.suffix_rfl h
        · cases h
      · split at h
        · exact opened (List.suffix_cons c rest) h
        · cases h
  | property =>
    rw [ListForm.recogniser, ListForm.property_eq] at h
    split at h
    · exact opened List.suffix_rfl h
    · cases h
  | keyword =>
    rw [ListForm.recogniser, ListForm.keyword_eq] at h
    split at h
    · exact opened List.suffix_rfl h
    · cases h

theorem stating_classDirective : Stating classDirective := by
  intro before cs found h
  unfold classDirective at h
  split at h
  · cases h
  obtain ⟨rest, hrest, h⟩ := Option.bind_eq_some_iff.1 h
  dsimp only at h
  split at h
  · cases h
  obtain rfl := Option.some.inj h
  exact Find.stands_between (suffix_of_dropWord? hrest) (List.takeWhile_prefix _) _

theorem stating_classBinding : Stating classBinding := by
  intro before cs found h
  unfold classBinding at h
  obtain ⟨rest, hrest, h⟩ := Option.bind_eq_some_iff.1 h
  dsimp only at h
  split at h
  · cases h
  obtain ⟨behind, -, h⟩ := Option.bind_eq_some_iff.1 h
  obtain ⟨quoted, -, h⟩ := Option.bind_eq_some_iff.1 h
  split at h
  · split at h
    · split at h
      · obtain rfl := Option.some.inj h
        exact Find.stands_between (suffix_of_dropWord? hrest) (List.takeWhile_prefix _) _
      · cases h
    · cases h
  · cases h

theorem stating_quotedExpression (name : String) (wordStart : Bool) :
    Stating (quotedExpression name wordStart) := by
  intro before cs found h
  unfold quotedExpression at h
  split at h
  · cases h
  obtain ⟨more, hmore, h⟩ := Option.bind_eq_some_iff.1 h
  obtain ⟨value, hvalue, h⟩ := Option.bind_eq_some_iff.1 h
  exact stands_sameQuoted ((suffix_of_dropEquals? hvalue).trans (suffix_of_dropWord? hmore)) h

theorem stating_setAttributeCall : Stating setAttributeCall := by
  intro before cs found h
  unfold setAttributeCall at h
  obtain ⟨more, hmore, h⟩ := Option.bind_eq_some_iff.1 h
  have hmore := suffix_of_dropWord? hmore
  split at h
  · rename_i opened hopened
    have hopened : opened <:+ cs :=
      ((List.suffix_cons _ _).trans (hopened ▸ dropBlanks_suffix more)).trans hmore
    split at h
    · rename_i q name hname
      have hname : name <:+ cs :=
        ((List.suffix_cons _ _).trans (hname ▸ dropBlanks_suffix opened)).trans hopened
      split at h
      · cases h
      obtain ⟨closed, hword, h⟩ := Option.bind_eq_some_iff.1 h
      have hclosed := (suffix_of_dropWord? hword).trans hname
      split at h
      · rename_i q behind
        have hbehind : behind <:+ cs := (List.suffix_cons _ _).trans hclosed
        split at h
        · cases h
        split at h
        · rename_i args hargs
          have hargs : args <:+ cs :=
            ((List.suffix_cons _ _).trans (hargs ▸ dropBlanks_suffix behind)).trans hbehind
          obtain ⟨⟨value, after⟩, hcut, h⟩ := Option.bind_eq_some_iff.1 h
          dsimp only at h
          split at h
          · cases h
          obtain rfl := Option.some.inj h
          exact Find.stands_between ((dropBlanks_suffix args).trans hargs) (prefix_of_cutAt? hcut) _
        · cases h
      · cases h
    · cases h
  · cases h

theorem stating_classNameAssignment : Stating classNameAssignment := by
  intro before cs found h
  unfold classNameAssignment at h
  obtain ⟨more, hmore, h⟩ := Option.bind_eq_some_iff.1 h
  obtain ⟨start, hstart, h⟩ := Option.bind_eq_some_iff.1 h
  dsimp only at h
  split at h
  · cases h
  obtain rfl := Option.some.inj h
  exact Find.stands_between ((suffix_of_dropEquals? hstart).trans (suffix_of_dropWord? hmore))
    (List.takeWhile_prefix _) _

theorem stating_bracedAttribute (name : String) : Stating (bracedAttribute name) := by
  intro before cs found h
  unfold bracedAttribute at h
  split at h
  · cases h
  obtain ⟨more, hmore, h⟩ := Option.bind_eq_some_iff.1 h
  obtain ⟨value, hequals, h⟩ := Option.bind_eq_some_iff.1 h
  have hvalue := (suffix_of_dropEquals? hequals).trans (suffix_of_dropWord? hmore)
  split at h
  · rename_i rest
    obtain rfl := Option.some.inj h
    exact Find.stands_between ((List.suffix_cons _ rest).trans hvalue) List.prefix_rfl _
  · cases h

theorem stating_callOf (names : List String) (wordStart : Bool) :
    Stating (callOf names wordStart) := by
  intro before cs found h
  obtain ⟨name, -, gap, args, after, -, -, rfl, rfl⟩ := callOf_eq_some h
  refine Find.stands_between ?_ (List.prefix_append args _) _
  exact ⟨name.toList ++ (gap ++ ['(']), by simp⟩

theorem stating_of_mem {r : Recogniser}
    (h : r ∈ classLists ++ classNames ++ expressions ++ bracedAttributes ++ calls.map Prod.fst) :
    Stating r := by
  simp only [classLists, classNames, expressions, bracedAttributes, calls, List.map_cons,
    List.map_nil, List.cons_append, List.nil_append, List.mem_cons, List.not_mem_nil,
    or_false] at h
  rcases h with rfl | rfl | rfl | rfl | rfl | rfl | rfl | rfl | rfl | rfl | rfl | rfl | rfl | rfl |
    rfl | rfl | rfl | rfl | rfl | rfl
  · exact stating_list .markup
  · exact stating_list .property
  · exact stating_list .keyword
  · exact stating_classDirective
  · exact stating_classBinding
  · exact stating_quotedExpression _ _
  · exact stating_quotedExpression _ _
  · exact stating_quotedExpression _ _
  · exact stating_setAttributeCall
  · exact stating_classNameAssignment
  iterate 4 exact stating_bracedAttribute _
  iterate 6 exact stating_callOf _ _

theorem prefix_of_readBraced {text body : List Char} (h : readBraced text = some body) :
    body <+: text := by
  have step : ∀ (text body : List Char) (quote : QuoteState) (depth : Nat),
      readBracedFrom quote depth text = some body → body <+: text := by
    intro text
    induction text with
    | nil => exact fun _ _ _ h => by cases h
    | cons c rest ih =>
      intro body quote depth h
      have later : ∀ {quote depth},
          (readBracedFrom quote depth rest).map (c :: ·) = some body → body <+: c :: rest := by
        intro quote depth h
        obtain ⟨inner, hinner, rfl⟩ := Option.map_eq_some_iff.1 h
        exact List.cons_prefix_cons.2 ⟨rfl, ih inner _ _ hinner⟩
      unfold readBracedFrom at h
      split at h
      · exact later h
      · split at h
        · exact later h
        split at h
        · split at h
          · rw [← Option.some.inj h]
            exact List.nil_prefix
          · exact later h
        · exact later h
  exact step text body _ _ h

/-! ## Where classes come from -/

/-- A class that a content yields, with the text that yields it and where that text starts: a fixed
class list, a name, an expression, a braced expression, or the arguments of a call. -/
inductive Found (content : List Char) (name : String) : List Char → Nat → Prop where
  | list {r : Recogniser} {x : Nat × Find} (hr : r ∈ classLists) (hx : x ∈ findAll r content)
      (h : name ∈ tokenizeClassList x.2.value) : Found content name x.2.value (x.1 + x.2.offset)
  | name {r : Recogniser} {x : Nat × Find} (hr : r ∈ classNames) (hx : x ∈ findAll r content)
      (h : name = String.ofList x.2.value) : Found content name x.2.value (x.1 + x.2.offset)
  | expression {r : Recogniser} {x : Nat × Find} (hr : r ∈ expressions)
      (hx : x ∈ findAll r content)
      (h : name ∈ expressionTokens x.2.value (collectConstants content)) :
      Found content name x.2.value (x.1 + x.2.offset)
  | braced {r : Recogniser} {x : Nat × Find} {body : List Char} (hr : r ∈ bracedAttributes)
      (hx : x ∈ findAll r content) (hbody : readBraced x.2.value = some body)
      (h : name ∈ expressionTokens body (collectConstants content)) :
      Found content name body (x.1 + x.2.offset)
  | arguments {r : Recogniser} {position : Option Nat} {x : Nat × Find} {arg : List Char}
      (hr : (r, position) ∈ calls) (hx : x ∈ findAll r content)
      (harg : arg ∈ chosen position (splitArguments x.2.value))
      (h : name ∈ expressionTokens arg (collectConstants content)) :
      Found content name x.2.value (x.1 + x.2.offset)

/-- The text that yields a class stands in the content where it is said to start. -/
theorem Found.prefix_drop {content text : List Char} {name : String} {start : Nat}
    (h : Found content name text start) : text <+: content.drop start := by
  have stating : ∀ {r x}, r ∈ classLists ++ classNames ++ expressions ++ bracedAttributes ++
      calls.map Prod.fst → x ∈ findAll r content →
        x.2.value <+: content.drop (x.1 + x.2.offset) :=
    fun hr hx => (stating_of_mem hr).prefix_drop hx
  cases h with
  | list hr hx _ => exact stating (by simp [hr]) hx
  | name hr hx _ => exact stating (by simp [hr]) hx
  | expression hr hx _ => exact stating (by simp [hr]) hx
  | braced hr hx hbody _ => exact (prefix_of_readBraced hbody).trans (stating (by simp [hr]) hx)
  | arguments hr hx _ _ =>
    exact stating (List.mem_append_right _ (List.mem_map.2 ⟨_, hr, rfl⟩)) hx

/-- The tokens that the recognisers yield are the classes that are found. -/
theorem mem_yields_iff {collectDynamic : Bool} {content : List Char} {name : String}
    {start : Nat} : (∃ y ∈ yields collectDynamic content, (name, start) ∈ y.tokens) ↔
      ∃ text, Found content name text start := by
  have expression : ∀ {e : List Char} {index : Nat},
      (name, start) ∈ (yieldExpression (collectConstants content) collectDynamic e index).tokens ↔
        name ∈ expressionTokens e (collectConstants content) ∧ index = start := by
    simp [yieldExpression]
  constructor
  · rintro ⟨y, hy, ht⟩
    simp only [yields, List.mem_append, listYields, nameYields, expressionYields, bracedYields,
      callYields, List.mem_flatMap, List.mem_map, List.mem_filterMap, Option.map_eq_some_iff] at hy
    rcases hy with (((⟨r, hr, x, hx, rfl⟩ | ⟨r, hr, x, hx, rfl⟩) | ⟨r, hr, x, hx, rfl⟩) |
      ⟨r, hr, x, hx, body, hbody, rfl⟩) | ⟨⟨r, position⟩, hr, x, hx, arg, harg, rfl⟩
    · obtain ⟨token, htoken, he⟩ := List.mem_map.1 ht
      obtain ⟨rfl, rfl⟩ := Prod.mk.inj he
      exact ⟨_, .list hr hx htoken⟩
    · obtain ⟨rfl, rfl⟩ := Prod.mk.inj (List.mem_singleton.1 ht)
      exact ⟨_, .name hr hx rfl⟩
    · obtain ⟨htoken, rfl⟩ := expression.1 ht
      exact ⟨_, .expression hr hx htoken⟩
    · obtain ⟨htoken, rfl⟩ := expression.1 ht
      exact ⟨_, .braced hr hx hbody htoken⟩
    · obtain ⟨htoken, rfl⟩ := expression.1 ht
      exact ⟨_, .arguments hr hx harg htoken⟩
  · rintro ⟨text, h⟩
    simp only [yields, List.mem_append]
    cases h with
    | @list r x hr hx h =>
      exact ⟨_, .inl (.inl (.inl (.inl (List.mem_flatMap.2
        ⟨r, hr, List.mem_map.2 ⟨x, hx, rfl⟩⟩)))), List.mem_map.2 ⟨name, h, rfl⟩⟩
    | @name r x hr hx h =>
      refine ⟨_, .inl (.inl (.inl (.inr (List.mem_flatMap.2
        ⟨r, hr, List.mem_map.2 ⟨x, hx, rfl⟩⟩)))), ?_⟩
      rw [h]
      exact .head _
    | @expression r x hr hx h =>
      exact ⟨_, .inl (.inl (.inr (List.mem_flatMap.2 ⟨r, hr, List.mem_map.2 ⟨x, hx, rfl⟩⟩))),
        expression.2 ⟨h, rfl⟩⟩
    | @braced r x body hr hx hbody h =>
      refine ⟨yieldExpression (collectConstants content) collectDynamic text (x.1 + x.2.offset),
        .inl (.inr (List.mem_flatMap.2 ⟨r, hr, List.mem_filterMap.2 ⟨x, hx, ?_⟩⟩)),
        expression.2 ⟨h, rfl⟩⟩
      simp only [hbody, Option.map_some]
    | @arguments r position x arg hr hx harg h =>
      exact ⟨_, .inr (List.mem_flatMap.2 ⟨_, hr, List.mem_flatMap.2
        ⟨x, hx, List.mem_map.2 ⟨arg, harg, rfl⟩⟩⟩), expression.2 ⟨h, rfl⟩⟩

section scans

variable {collectDynamic : Bool} {content : List Char} {name : String}

theorem mem_classes_iff {label : Option String} :
    name ∈ (scan collectDynamic label content).classes ↔
      ∃ text start, Found content name text start := by
  rw [mem_scan, exists_comm]
  simp only [← @mem_yields_iff collectDynamic]
  constructor
  · rintro ⟨y, hy, i, h⟩
    exact ⟨i, y, hy, h⟩
  · rintro ⟨i, y, hy, h⟩
    exact ⟨y, hy, i, h⟩

/-- Scans without a label have the same classes. -/
theorem classes_eq (label label' : Option String) :
    (scan collectDynamic label content).classes = (scan collectDynamic label' content).classes :=
  Sorted.eq_of_mem_iff Sorted.strict_stringLt (wellFormed_scan ..).classes
    (wellFormed_scan ..).classes fun _ => mem_classes_iff.trans mem_classes_iff.symm

/-- Without a label no origins are kept. -/
theorem origins_eq_nil {label : Option String} (h : label.filter (· ≠ "") = none) :
    (scan collectDynamic label content).origins = [] := by
  refine Decidable.of_not_not fun hkept => ?_
  have hfound := (scan_iff (P := fun s => s.origins ≠ []) (Q := fun _ _ => False)
    (fun hempty => hempty rfl) (fun s token index => ?_) fun _ _ => Iff.rfl).1 hkept
  · obtain ⟨_, _, _, _, hfalse⟩ := hfound
    exact hfalse
  · rw [h, or_false]
    exact Iff.rfl

variable {label : String} (hlabel : label ≠ "")
include hlabel

theorem origin_eq (content : List Char) (index : Nat) :
    Source.origin ⟨(some label).filter (· ≠ ""), LineTable.ofChars content⟩ index =
      some s!"{label}:{lineAt content index}" := by
  rw [Source.origin, Option.filter_some_pos (by simpa using hlabel), Option.map_some,
    LineTable.line_ofChars]

theorem mem_names_iff : name ∈ (scan collectDynamic (some label) content).origins.names ↔
    ∃ text start, Found content name text start := by
  rw [scan_iff (P := fun s => name ∈ s.origins.names) (Q := fun token _ => name = token)
    List.not_mem_nil (fun s token index => ?_) fun _ _ => Iff.rfl]
  · rw [← @mem_classes_iff collectDynamic content name none, mem_scan]
    simp only [Prod.exists, exists_and_right, exists_eq_right']
  · rw [origin_eq hlabel]
    exact Origins.mem_names_add.trans or_comm

/-- The places of a class are the lines at which the texts that yield it start. -/
theorem mem_placesOf_iff {place : String} :
    place ∈ (scan collectDynamic (some label) content).origins.placesOf name ↔
      ∃ text start, Found content name text start ∧
        place = s!"{label}:{lineAt content start}" := by
  rw [scan_iff (P := fun s => place ∈ s.origins.placesOf name)
    (Q := fun token index => name = token ∧ place = s!"{label}:{lineAt content index}")
    List.not_mem_nil (fun s token index => ?_) fun _ _ => Iff.rfl]
  · constructor
    · rintro ⟨y, hy, ⟨token, index⟩, ht, rfl, rfl⟩
      obtain ⟨text, hfound⟩ := mem_yields_iff.1 ⟨y, hy, ht⟩
      exact ⟨text, index, hfound, rfl⟩
    · rintro ⟨text, start, hfound, rfl⟩
      obtain ⟨y, hy, ht⟩ := (@mem_yields_iff collectDynamic ..).2 ⟨text, hfound⟩
      exact ⟨y, hy, _, ht, rfl, rfl⟩
  · rw [origin_eq hlabel]
    exact Origins.mem_placesOf_add

end scans

end Content

open Content (Found)

/-- The origins of a scan under a label name its classes and no others. The origins of a class are
the lines, between the first and the last one, at which the texts that yield it start in the
content. Without a label a scan has the same classes and no origins. -/
theorem origins_exact {o : Options} (ho : o.extractors = []) {label : String} (hlabel : label ≠ "")
    (content cwd : String) :
    ∃ found bare, scanContent o content (some label) cwd = .ok found ∧
      (∀ missing ∈ [none, some ""], scanContent o content missing cwd = .ok bare) ∧
      bare.classes = found.classes ∧ bare.origins = [] ∧ found.origins.names.Nodup ∧
      (∀ name, name ∈ found.origins.names ↔ name ∈ found.classes) ∧
      (∀ name place, place ∈ found.origins.placesOf name ↔
        ∃ text start, Found content.toList name text start ∧
          place = s!"{label}:{lineAt content.toList start}") ∧
      ∀ name text start, Found content.toList name text start →
        text <+: content.toList.drop start ∧ 1 ≤ lineAt content.toList start ∧
          lineAt content.toList start ≤ 1 + content.toList.count '\n' := by
  have hscan (label : Option String) : scanContent o content label cwd =
      .ok (Content.scan o.dynamicPatterns.collects label content.toList) := by
    rw [scanContent, ho]
    rfl
  refine ⟨_, Content.scan o.dynamicPatterns.collects none content.toList, hscan _, ?missing,
    Content.classes_eq .., Content.origins_eq_nil rfl, (Content.wellFormed_scan ..).origins.names,
    ?names, ?places, ?texts⟩
  case missing =>
    intro missing hmissing
    rw [hscan]
    rcases List.mem_cons.1 hmissing with rfl | hmissing
    · rfl
    · rw [List.mem_singleton.1 hmissing]
      rfl
  case names =>
    intro name
    rw [Content.mem_names_iff hlabel, Content.mem_classes_iff]
  case places => exact fun name place => Content.mem_placesOf_iff hlabel
  case texts =>
    exact fun name text start h => ⟨h.prefix_drop, Nat.le_add_right 1 _, lineAt_le ..⟩

/-- A class on the third line, found at the line at which the arguments that hold it start. -/
theorem origins_exact_call :
    ({} : Options).extractors = [] ∧ "a.html" ≠ "" ∧
      ∃ found, scanContent {} "\nclsx('b',\n'c')" (some "a.html") "" = .ok found ∧
        "a.html:2" ∈ found.origins.placesOf "c" := by
  have hlabel : "a.html" ≠ "" := by decide
  obtain ⟨found, -, hscan, -, -, -, -, -, hplaces, -⟩ :=
    origins_exact (o := {}) rfl hlabel "\nclsx('b',\n'c')" ""
  refine ⟨rfl, hlabel, found, hscan, (hplaces _ _).2 ⟨_, 1 + 5, @Found.arguments _ _
    (Content.callOf ["clsx", "classnames"] true) none (1, ⟨"'b',\n'c'".toList, 5, 14⟩)
    "'c'".toList ?family ?_ ?_ ?_, rfl⟩⟩
  case family => exact .tail _ (.tail _ (.tail _ (.head _)))
  all_goals decide +kernel

end StylePrune
