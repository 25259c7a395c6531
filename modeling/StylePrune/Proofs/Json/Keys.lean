import StylePrune.Json.Parser
import StylePrune.Json.Value

/-!
# Names of members

`setMember` gives one name its new value and no other (`lookup_setMember`,
`lookup_setMember_of_ne`), and keeps the names of an object distinct (`nodup_setMember`). So however
often a text writes a name in an object, the object that is read has it once (`keyed_parse`).
-/

namespace StylePrune

variable {α : Type} {members : List (String × α)} {name : String} {value : α}

theorem setMember_of_notMem (h : name ∉ members.map Prod.fst) :
    setMember members name value = members ++ [(name, value)] := by
  rw [setMember, if_neg]
  simpa [List.any_eq_true] using h

theorem keys_setMember_of_mem (h : name ∈ members.map Prod.fst) :
    (setMember members name value).map Prod.fst = members.map Prod.fst := by
  rw [setMember, if_pos (by simpa [List.any_eq_true] using h), List.map_map]
  refine List.map_congr_left fun m _ => ?_
  simp only [Function.comp_apply]
  split
  · rename_i e
    exact e.symm
  · rfl

theorem nodup_setMember (h : (members.map Prod.fst).Nodup) :
    ((setMember members name value).map Prod.fst).Nodup := by
  by_cases hm : name ∈ members.map Prod.fst
  · rw [keys_setMember_of_mem hm]
    exact h
  · rw [setMember_of_notMem hm, List.map_append, List.nodup_append]
    refine ⟨h, by simp, ?_⟩
    rintro a ha b hb rfl
    obtain rfl : a = name := by simpa using hb
    exact hm ha

theorem lookup_setMember (members : List (String × α)) (name : String) (value : α) :
    (setMember members name value).lookup name = some value := by
  by_cases hm : name ∈ members.map Prod.fst
  · rw [setMember, if_pos (by simpa [List.any_eq_true] using hm)]
    induction members with
    | nil => cases hm
    | cons m rest ih =>
      rw [List.map_cons]
      split
      · rw [List.lookup_cons, beq_self_eq_true]
      · rename_i hne
        rw [List.lookup_cons, beq_false_of_ne (Ne.symm hne)]
        exact ih ((List.mem_cons.1 hm).resolve_left (Ne.symm hne))
  · have hnone : members.lookup name = none := List.lookup_eq_none_iff.2 fun m hmem =>
      bne_iff_ne.2 fun heq : name = m.1 => hm (heq ▸ List.mem_map_of_mem hmem)
    rw [setMember_of_notMem hm, List.lookup_append, hnone, List.lookup_cons, beq_self_eq_true]
    rfl

theorem lookup_setMember_of_ne {other : String} (h : other ≠ name) :
    (setMember members name value).lookup other = members.lookup other := by
  by_cases hm : name ∈ members.map Prod.fst
  · rw [setMember, if_pos (by simpa [List.any_eq_true] using hm)]
    clear hm
    induction members with
    | nil => rfl
    | cons m rest ih =>
      rw [List.map_cons]
      split
      · rename_i heq
        rw [List.lookup_cons, List.lookup_cons, heq, beq_false_of_ne h, ih]
      · rw [List.lookup_cons, List.lookup_cons, ih]
  · rw [setMember_of_notMem hm, List.lookup_append, List.lookup_cons, beq_false_of_ne h]
    simp

theorem mem_setMember {m : String × α} (h : m ∈ setMember members name value) :
    m = (name, value) ∨ m ∈ members := by
  rw [setMember] at h
  split at h
  · obtain ⟨m', hm', e⟩ := List.mem_map.1 h
    split at e
    · exact .inl e.symm
    · exact .inr (e ▸ hm')
  · simpa [or_comm] using h

end StylePrune

namespace StylePrune.Json

/-- Whether all objects in a value have distinct names. -/
inductive Keyed : Json → Prop where
  | null : Keyed .null
  | bool (b : Bool) : Keyed (.bool b)
  | int (n : Int) : Keyed (.int n)
  | float (f : Float) : Keyed (.float f)
  | str (s : String) : Keyed (.str s)
  | broken (t : Text) : Keyed (.broken t)
  | arr {items : List Json} (h : ∀ v ∈ items, Keyed v) : Keyed (.arr items)
  | obj {members : List (String × Json)} (names : (members.map Prod.fst).Nodup)
      (h : ∀ m ∈ members, Keyed m.2) : Keyed (.obj members)

theorem Keyed.names {members : List (String × Json)} (h : Keyed (.obj members)) :
    (members.map Prod.fst).Nodup := by
  cases h
  assumption

theorem Keyed.values {members : List (String × Json)} (h : Keyed (.obj members)) :
    ∀ m ∈ members, Keyed m.2 := by
  cases h
  assumption

theorem Keyed.member? {v w : Json} {name : String} (h : Keyed v) (hw : v.member? name = some w) :
    Keyed w := by
  cases h with
  | obj names h =>
    obtain ⟨before, after, hmembers, -⟩ := List.lookup_eq_some_iff.1 hw
    exact h (name, w) (hmembers ▸ List.mem_append_right _ List.mem_cons_self)
  | _ => cases hw

theorem keyed_ofText (t : Text) : Keyed (ofText t) := by
  rw [ofText]
  split
  · exact .str _
  · exact .broken _

theorem keyed_word? {cs left : List Char} {v : Json} (h : word? cs = some (v, left)) :
    Keyed v := by
  obtain ⟨⟨word, value⟩, hfound, heq⟩ := Option.map_eq_some_iff.1 h
  obtain rfl : value = v := congrArg Prod.fst heq
  have hmem := List.mem_of_find?_eq_some hfound
  simp only [words, List.mem_cons, List.not_mem_nil, or_false, Prod.mk.injEq] at hmem
  rcases hmem with ⟨-, rfl⟩ | ⟨-, rfl⟩ | ⟨-, rfl⟩ | ⟨-, rfl⟩ | ⟨-, rfl⟩ | ⟨-, rfl⟩
  · exact .null
  · exact .bool _
  · exact .bool _
  all_goals exact .float _

theorem keyed_number? {cs left : List Char} {v : Json} (h : number? cs = some (.ok (v, left))) :
    Keyed v := by
  revert h
  fun_cases number? cs <;> intro h
  · cases h
  · cases h
  · obtain rfl := congrArg Prod.fst (Except.ok.inj (Option.some.inj h))
    exact .int _
  · obtain rfl := congrArg Prod.fst (Except.ok.inj (Option.some.inj h))
    exact .float _

/-- Whether the values that are read with some fuel are keyed. -/
def KeyedValues (fuel : Nat) : Prop := ∀ cs v left, value fuel cs = .ok (v, left) → Keyed v

/-- Whether arrays are keyed that are read from some item on. -/
def KeyedItems (fuel : Nat) : Prop :=
  ∀ read cs v left, (∀ x ∈ read, Keyed x) → items fuel read cs = .ok (v, left) → Keyed v

/-- Whether objects are keyed that are read from some member on. -/
def KeyedMembers (fuel : Nat) : Prop :=
  ∀ read cs v left, (read.map Prod.fst).Nodup → (∀ m ∈ read, Keyed m.2) →
    members fuel read cs = .ok (v, left) → Keyed v

variable {fuel : Nat}

theorem KeyedItems.value (hitems : KeyedItems fuel) (hmembers : KeyedMembers fuel) :
    KeyedValues (fuel + 1) := by
  intro cs v left h
  rw [value.eq_def] at h
  simp only at h
  split at h
  · cases h
  split at h
  · cases hstring : string _ with
    | error fault => rw [hstring] at h; cases h
    | ok found =>
      rw [hstring] at h
      obtain rfl : ofText found.1 = v := congrArg Prod.fst (Except.ok.inj h)
      exact keyed_ofText found.1
  split at h
  · split at h
    · cases h
      exact .obj List.nodup_nil fun _ hm => by cases hm
    · exact hmembers [] _ _ _ List.nodup_nil (fun _ hm => by cases hm) h
  split at h
  · split at h
    · cases h
      exact .arr fun _ hm => by cases hm
    · exact hitems _ _ _ _ (fun _ hm => by cases hm) h
  split at h
  · rename_i hword
    cases h
    exact keyed_word? hword
  · rename_i hnumber
    cases hnumber : number? _ with
    | none => rw [hnumber] at h; cases h
    | some result =>
      rw [hnumber, Option.getD_some] at h
      exact keyed_number? (hnumber.trans (congrArg some h))

theorem KeyedValues.items (hvalues : KeyedValues fuel) (hitems : KeyedItems fuel) :
    KeyedItems (fuel + 1) := by
  intro read cs v left hread h
  rw [Json.items] at h
  split at h
  · cases h
  rename_i x rest hx
  have hkeyed : ∀ y ∈ x :: read, Keyed y := List.forall_mem_cons.2 ⟨hvalues _ _ _ hx, hread⟩
  split at h
  · cases h
    exact .arr fun y hy => hkeyed y (List.mem_reverse.1 hy)
  · exact hitems _ _ _ _ hkeyed h
  · cases h

theorem KeyedValues.members (hvalues : KeyedValues fuel) (hmembers : KeyedMembers fuel) :
    KeyedMembers (fuel + 1) := by
  intro read cs v left hnames hread h
  rw [members.eq_def] at h
  simp only at h
  split at h
  · split at h
    · cases h
    split at h
    · split at h
      · cases h
      rename_i x rest hx
      have hset : ∀ name, ∀ m ∈ setMember read name x, Keyed m.2 := fun name m hm => by
        rcases mem_setMember hm with rfl | hm
        · exact hvalues _ _ _ hx
        · exact hread m hm
      split at h
      · cases h
        exact .obj (nodup_setMember hnames) (hset _)
      · exact hmembers _ _ _ _ (nodup_setMember hnames) (hset _) h
      · cases h
    · cases h
  · cases h

/-- What is read is keyed: a value, an array from its next item on, and an object from its next
member on. -/
theorem keyed_read : ∀ fuel : Nat, KeyedValues fuel ∧ KeyedItems fuel ∧ KeyedMembers fuel
  | 0 =>
    ⟨fun _ _ _ h => (by cases h), fun _ _ _ _ _ h => (by cases h),
      fun _ _ _ _ _ _ h => (by cases h)⟩
  | fuel + 1 =>
    have ⟨hvalues, hitems, hmembers⟩ := keyed_read fuel
    ⟨hitems.value hmembers, hvalues.items hitems, hvalues.members hmembers⟩

theorem keyed_parse {text : List Char} {v : Json} (h : parse text = .ok v) : Keyed v := by
  rw [parse.eq_def] at h
  split at h
  · cases h
  split at h
  · cases h
  rename_i x left hx
  split at h
  · obtain rfl := Except.ok.inj h
    exact (keyed_read _).1 _ _ _ hx
  · cases h

end StylePrune.Json
