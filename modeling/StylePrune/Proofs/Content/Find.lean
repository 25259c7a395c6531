import StylePrune.Content.Find

/-!
# Where finds stand

A find stands at a place exactly if the recogniser finds it there and no earlier find runs over the
place (`mem_findAllFrom`). For recognisers that look for a mark and cut the text at another one,
`cutAt?_append` and `cutAt?_eq_some` say where the cut falls.
-/

namespace StylePrune.Content

/-- Finds stand at or behind the place where the search starts, and behind what is skipped. -/
theorem le_of_mem_findAllFrom {r : Recogniser} : ∀ {cs : List Char} {skip : Nat}
    {before : Option Char} {index : Nat} {x : Nat × Find},
    x ∈ findAllFrom r skip before index cs → index + skip ≤ x.1
  | [], _, _, _, _, h => by cases h
  | c :: rest, skip + 1, before, index, x, h => by
    have := le_of_mem_findAllFrom (by rwa [findAllFrom] at h)
    omega
  | c :: rest, 0, before, index, x, h => by
    rw [findAllFrom] at h
    split at h
    · rcases List.mem_cons.1 h with rfl | h
      · exact Nat.le_refl _
      · have := le_of_mem_findAllFrom h
        omega
    · have := le_of_mem_findAllFrom h
      omega

/-- No find that starts before the place ends behind it. -/
def Uncovered (place : Nat) (finds : List (Nat × Find)) : Prop :=
  ∀ x ∈ finds, x.1 < place → x.1 + x.2.length ≤ place

/-- The character before a place, `before` being the one before the text. -/
def lastOr (before : Option Char) (pre : List Char) : Option Char := pre.getLast?.or before

theorem lastOr_cons (before : Option Char) (c : Char) (pre : List Char) :
    lastOr before (c :: pre) = lastOr (some c) pre := by
  cases pre <;> simp [lastOr, List.getLast?_cons]

/-- A find stands at a place if the recogniser finds it there, the place is not skipped, and no
earlier find runs over it. -/
theorem mem_findAllFrom {r : Recogniser} {d : Char} {rest : List Char} {found : Find} :
    ∀ (pre : List Char) (skip : Nat) (before : Option Char) (index : Nat),
      (index + pre.length, found) ∈ findAllFrom r skip before index (pre ++ d :: rest) ↔
        r (lastOr before pre) (d :: rest) = some found ∧ skip ≤ pre.length ∧
          Uncovered (index + pre.length) (findAllFrom r skip before index (pre ++ d :: rest))
  | [], skip + 1, before, index => by
    refine iff_of_false (fun h => ?_) fun h => by simp at h
    have : index + (skip + 1) ≤ index := le_of_mem_findAllFrom h
    omega
  | [], 0, before, index => by
    have later : ∀ {k b} {x : Nat × Find}, x ∈ findAllFrom r k b (index + 1) rest →
        index + 1 ≤ x.1 := fun h => by
      have := le_of_mem_findAllFrom h
      omega
    simp only [List.nil_append, List.length_nil, Nat.add_zero, Nat.le_refl, true_and]
    rw [findAllFrom, show lastOr before [] = before by simp [lastOr]]
    cases hr : r before (d :: rest) with
    | none =>
      refine iff_of_false (fun h => ?_) fun h => by simp at h
      have : index + 1 ≤ index := later h
      omega
    | some g =>
      simp only [List.mem_cons, Prod.mk.injEq, true_and, Option.some.injEq]
      constructor
      · rintro (rfl | h)
        · refine ⟨rfl, fun x hx hlt => ?_⟩
          rcases List.mem_cons.1 hx with rfl | hx
          · simp at hlt
          · have := later hx
            omega
        · have : index + 1 ≤ index := later h
          omega
      · exact fun h => .inl h.1.symm
  | c :: pre, skip + 1, before, index => by
    have ih := @mem_findAllFrom r d rest found pre skip (some c) (index + 1)
    rw [List.cons_append, findAllFrom, List.length_cons, lastOr_cons,
      show index + (pre.length + 1) = index + 1 + pre.length by omega, ih]
    simp only [Nat.succ_le_succ_iff]
  | c :: pre, 0, before, index => by
    rw [List.cons_append, findAllFrom, List.length_cons, lastOr_cons,
      show index + (pre.length + 1) = index + 1 + pre.length by omega]
    split
    · rename_i g hg
      have ih := @mem_findAllFrom r d rest found pre (g.length - 1) (some c) (index + 1)
      rw [List.mem_cons, ih]
      simp only [Prod.mk.injEq, Nat.zero_le, true_and, Uncovered, List.forall_mem_cons]
      constructor
      · rintro (⟨h, -⟩ | ⟨hr, hk, hu⟩)
        · omega
        · exact ⟨hr, fun _ => by omega, hu⟩
      · rintro ⟨hr, hg, hu⟩
        have := hg (by omega)
        exact .inr ⟨hr, by omega, hu⟩
    · have ih := @mem_findAllFrom r d rest found pre 0 (some c) (index + 1)
      rw [ih]
      simp only [Nat.zero_le]

/-- The place of a find in a text. -/
theorem mem_findAll {r : Recogniser} {pre : List Char} {d : Char} {rest : List Char}
    {found : Find} :
    (pre.length, found) ∈ findAll r (pre ++ d :: rest) ↔
      r pre.getLast? (d :: rest) = some found ∧
        Uncovered pre.length (findAll r (pre ++ d :: rest)) := by
  have := @mem_findAllFrom r d rest found pre 0 none 0
  simpa [findAll, lastOr] using this

/-- A find is what the recogniser gives at some place. -/
theorem exists_of_mem_findAllFrom {r : Recogniser} {x : Nat × Find} : ∀ {cs : List Char}
    {skip : Nat} {before : Option Char} {index : Nat}, x ∈ findAllFrom r skip before index cs →
      ∃ pre rest before, cs = pre ++ rest ∧ x.1 = index + pre.length ∧ r before rest = some x.2
  | [], _, _, _, h => by cases h
  | c :: cs, skip + 1, before, index, h => by
    rw [findAllFrom] at h
    obtain ⟨pre, rest, b, rfl, hx, hr⟩ := exists_of_mem_findAllFrom h
    exact ⟨c :: pre, rest, b, rfl, by rw [hx, List.length_cons]; omega, hr⟩
  | c :: cs, 0, before, index, h => by
    have later : ∀ {skip}, x ∈ findAllFrom r skip (some c) (index + 1) cs →
        ∃ pre rest before, c :: cs = pre ++ rest ∧ x.1 = index + pre.length ∧
          r before rest = some x.2 := fun h => by
      obtain ⟨pre, rest, b, rfl, hx, hr⟩ := exists_of_mem_findAllFrom h
      exact ⟨c :: pre, rest, b, rfl, by rw [hx, List.length_cons]; omega, hr⟩
    rw [findAllFrom] at h
    split at h
    · rename_i found hf
      rcases List.mem_cons.1 h with rfl | h
      · exact ⟨[], c :: cs, before, rfl, rfl, hf⟩
      · exact later h
    · exact later h

/-- Finds that hold a character only where they start do not run over a place where it stands. -/
theorem uncovered_of_start {r : Recogniser} {c : Char}
    (h : ∀ before cs found, r before cs = some found → ∀ i, i + 1 < found.length →
      cs[i + 1]? ≠ some c) (pre rest : List Char) :
    Uncovered pre.length (findAll r (pre ++ c :: rest)) := fun x hx hlt => by
  obtain ⟨u, v, b, huv, hi, hr⟩ := exists_of_mem_findAllFrom hx
  rw [Nat.zero_add] at hi
  refine Nat.le_of_not_lt fun hover => ?_
  refine h b v x.2 hr (pre.length - u.length - 1) (by omega) ?_
  have hc : (pre ++ c :: rest)[pre.length]? = some c := by simp
  rw [huv, List.getElem?_append_right (by omega)] at hc
  rwa [show pre.length - u.length - 1 + 1 = pre.length - u.length by omega]

/-! ## Stretches without a find -/

/-- The recogniser finds nothing at any place of a text that `tail` follows. -/
def Quiet (r : Recogniser) (before : Option Char) (tail : List Char) : List Char → Prop
  | [] => True
  | c :: pre => r before (c :: (pre ++ tail)) = none ∧ Quiet r (some c) tail pre

theorem findAllFrom_eq_nil {r : Recogniser} : ∀ {cs : List Char} {before : Option Char}
    {index : Nat}, findAllFrom r 0 before index cs = [] ↔ Quiet r before [] cs
  | [], _, _ => by simp [findAllFrom, Quiet]
  | c :: cs, before, index => by
    rw [findAllFrom, Quiet, List.append_nil]
    cases r before (c :: cs) with
    | none => simpa using findAllFrom_eq_nil
    | some g => simp

/-- The first find stands behind a stretch without one. -/
theorem findAllFrom_first {r : Recogniser} {tail : List Char} {found : Find}
    {more : List (Nat × Find)} : ∀ {pre : List Char} {before : Option Char} {index : Nat},
      findAllFrom r 0 before index (pre ++ tail) = (index + pre.length, found) :: more ↔
        Quiet r before tail pre ∧ findAllFrom r 0 (lastOr before pre) (index + pre.length) tail =
          (index + pre.length, found) :: more
  | [], before, index => by simp [Quiet, lastOr]
  | c :: pre, before, index => by
    have ih := @findAllFrom_first r tail found more pre (some c) (index + 1)
    rw [List.cons_append, findAllFrom, Quiet, lastOr_cons, List.length_cons,
      show index + (pre.length + 1) = index + 1 + pre.length by omega]
    cases r before (c :: (pre ++ tail)) with
    | none => simpa using ih
    | some g =>
      refine iff_of_false (fun h => ?_) fun h => by simp at h
      have := congrArg Prod.fst (List.cons.inj h).1
      simp only at this
      omega

/-- What is skipped is as good as gone. -/
theorem findAllFrom_skip {r : Recogniser} {tail : List Char} : ∀ (pre : List Char)
    (before : Option Char) (index : Nat),
      findAllFrom r pre.length before index (pre ++ tail) =
        findAllFrom r 0 (lastOr before pre) (index + pre.length) tail
  | [], before, index => by simp [lastOr]
  | c :: pre, before, index => by
    rw [List.cons_append, List.length_cons, findAllFrom, findAllFrom_skip pre, lastOr_cons,
      show index + (pre.length + 1) = index + 1 + pre.length by omega]

/-- A search goes past a stretch without a find. -/
theorem findAllFrom_quiet {r : Recogniser} {tail : List Char} : ∀ {pre : List Char}
    {before : Option Char}, Quiet r before tail pre → ∀ index : Nat,
      findAllFrom r 0 before index (pre ++ tail) =
        findAllFrom r 0 (lastOr before pre) (index + pre.length) tail
  | [], before, _, index => by simp [lastOr]
  | c :: pre, before, h, index => by
    rw [List.cons_append, List.length_cons, findAllFrom, h.1, lastOr_cons,
      show index + (pre.length + 1) = index + 1 + pre.length by omega]
    exact findAllFrom_quiet h.2 (index + 1)

/-- Counting from a later index moves all finds. -/
theorem findAllFrom_shift (r : Recogniser) (offset : Nat) : ∀ (cs : List Char) (skip : Nat)
    (before : Option Char) (index : Nat), findAllFrom r skip before (offset + index) cs =
      (findAllFrom r skip before index cs).map fun x => (offset + x.1, x.2)
  | [], _, _, _ => rfl
  | c :: cs, skip + 1, before, index => by
    rw [findAllFrom, findAllFrom, Nat.add_assoc, findAllFrom_shift r offset cs]
  | c :: cs, 0, before, index => by
    rw [findAllFrom, findAllFrom, Nat.add_assoc]
    cases r before (c :: cs) with
    | none => exact findAllFrom_shift r offset cs _ _ _
    | some found => rw [List.map_cons, ← findAllFrom_shift r offset cs]

/-- Whether a recogniser finds something depends on the text of the find only. -/
structure Local (r : Recogniser) : Prop where
  longer : ∀ {before cs found}, r before cs = some found → ∀ tail,
    r before (cs ++ tail) = some found
  shorter : ∀ {before cs tail found}, r before (cs ++ tail) = some found →
    found.length ≤ cs.length → r before cs = some found

/-- Finds that end within the start of a text are finds of that start. -/
theorem mem_findAllFrom_start {r : Recogniser} (hr : Local r) {tail : List Char} {x : Nat × Find} :
    ∀ {cs : List Char} {skip : Nat} {before : Option Char} {index : Nat},
      x ∈ findAllFrom r skip before index (cs ++ tail) → x.1 < index + cs.length →
        x.1 + x.2.length ≤ index + cs.length → x ∈ findAllFrom r skip before index cs
  | [], _, _, _, hx, hstart, _ => by
    have := le_of_mem_findAllFrom hx
    simp only [List.length_nil] at hstart
    omega
  | c :: cs, skip + 1, before, index, hx, hstart, hend => by
    rw [List.cons_append, findAllFrom] at hx
    rw [List.length_cons] at hstart hend
    rw [findAllFrom]
    exact mem_findAllFrom_start hr hx (by omega) (by omega)
  | c :: cs, 0, before, index, hx, hstart, hend => by
    rw [List.length_cons] at hstart hend
    rw [List.cons_append, findAllFrom, ← List.cons_append] at hx
    rw [findAllFrom]
    cases hshort : r before (c :: cs) with
    | some found =>
      rw [hr.longer hshort tail] at hx
      rcases List.mem_cons.1 hx with rfl | hx
      · exact .head _
      · exact .tail _ (mem_findAllFrom_start hr hx (by omega) (by omega))
    | none =>
      cases hlong : r before ((c :: cs) ++ tail) with
      | none =>
        rw [hlong] at hx
        exact mem_findAllFrom_start hr hx (by omega) (by omega)
      | some found =>
        -- A find that runs out of the start leaves no room for another one.
        rw [hlong] at hx
        have hover : cs.length + 1 < found.length := by
          refine Nat.lt_of_not_le fun hle => ?_
          rw [hr.shorter hlong (by rwa [List.length_cons])] at hshort
          cases hshort
        rcases List.mem_cons.1 hx with rfl | hx
        · simp only at hend
          omega
        · have := le_of_mem_findAllFrom hx
          omega

/-! ## Cutting at a mark -/

theorem cutAt?_cons (c d : Char) (cs : List Char) : cutAt? c (d :: cs) =
    if d = c then some ([], cs) else (cutAt? c cs).map fun x => (d :: x.1, x.2) := by
  rw [cutAt?, cutAt?, List.dropWhile_cons, List.takeWhile_cons]
  by_cases h : d = c
  · simp [h]
  · have hd : decide (d ≠ c) = true := by simpa using h
    rw [if_pos hd, if_pos hd, if_neg h]
    cases cs.dropWhile (· ≠ c) <;> rfl

/-- A cut is made at the first mark. -/
theorem cutAt?_append {c : Char} {rest : List Char} : ∀ {text : List Char}, c ∉ text →
    cutAt? c (text ++ c :: rest) = some (text, rest)
  | [], _ => by rw [List.nil_append, cutAt?_cons, if_pos rfl]
  | d :: text, h => by
    rw [List.mem_cons, not_or] at h
    rw [List.cons_append, cutAt?_cons, if_neg (Ne.symm h.1), cutAt?_append h.2]
    rfl

theorem cutAt?_eq_some {c : Char} : ∀ {cs text rest : List Char},
    cutAt? c cs = some (text, rest) → cs = text ++ c :: rest ∧ c ∉ text
  | [], _, _, h => by cases h
  | d :: cs, text, rest, h => by
    rw [cutAt?_cons] at h
    split at h
    · rename_i hd
      obtain ⟨rfl, rfl⟩ := Prod.mk.inj (Option.some.inj h)
      exact ⟨by rw [hd, List.nil_append], List.not_mem_nil⟩
    · rename_i hd
      obtain ⟨⟨text', rest'⟩, hx, he⟩ := Option.map_eq_some_iff.1 h
      obtain ⟨rfl, rfl⟩ := Prod.mk.inj he
      obtain ⟨rfl, hc⟩ := cutAt?_eq_some hx
      exact ⟨rfl, fun hm => (List.mem_cons.1 hm).elim (fun e => hd e.symm) hc⟩

theorem cutAt?_eq_none {c : Char} {cs : List Char} : cutAt? c cs = none ↔ c ∉ cs := by
  constructor
  · intro h hm
    obtain ⟨text, rest, rfl, ht⟩ := List.eq_append_cons_of_mem hm
    rw [cutAt?_append ht] at h
    cases h
  · intro h
    cases hx : cutAt? c cs with
    | none => rfl
    | some x =>
      obtain ⟨text, rest⟩ := x
      obtain ⟨rfl, -⟩ := cutAt?_eq_some hx
      simp at h

/-- A text falls into a part without marks, a mark and the rest in one way. -/
theorem append_mark_injective {p : Char → Bool} {a a' b b' : List Char} {q q' : Char}
    (hq : p q = true) (hq' : p q' = true) (ha : ∀ c ∈ a, p c = false) (ha' : ∀ c ∈ a', p c = false)
    (h : a ++ q :: b = a' ++ q' :: b') : a = a' := by
  have front : ∀ {a b : List Char} {q : Char}, p q = true → (∀ c ∈ a, p c = false) →
      (a ++ q :: b).takeWhile (fun c => !p c) = a := by
    intro a b q hq ha
    rw [List.takeWhile_append_of_pos fun c hc => by rw [ha c hc]; rfl,
      List.takeWhile_cons_of_neg (by rw [hq]; decide), List.append_nil]
  rw [← front hq ha (b := b), h, front hq' ha']

/-- A text falls into a part without a character, the character and the rest in one way. -/
theorem append_char_injective {c : Char} {a a' b b' : List Char} (ha : c ∉ a) (ha' : c ∉ a')
    (h : a ++ c :: b = a' ++ c :: b') : a = a' ∧ b = b' := by
  have unmarked : ∀ {a : List Char}, c ∉ a → ∀ d ∈ a, (d == c) = false := fun ha d hd => by
    rw [beq_eq_false_iff_ne]
    rintro rfl
    exact ha hd
  have hself : (c == c) = true := beq_self_eq_true c
  obtain rfl := append_mark_injective (p := (· == c)) hself hself (unmarked ha) (unmarked ha') h
  exact ⟨rfl, (List.cons.inj (List.append_cancel_left h)).2⟩

/-- A text falls into a part that ends in no mark and the marks behind it in one way. -/
theorem append_gap_injective {p : Char → Bool} {xs xs' gap gap' : List Char} {c c' : Char}
    (hc : p c = false) (hc' : p c' = false) (hgap : ∀ d ∈ gap, p d = true)
    (hgap' : ∀ d ∈ gap', p d = true) (h : xs ++ c :: gap = xs' ++ c' :: gap') :
    xs ++ [c] = xs' ++ [c'] := by
  have unmarked : ∀ {gap : List Char}, (∀ d ∈ gap, p d = true) →
      ∀ d ∈ gap.reverse, (!p d) = false := fun hgap d hd => by
    rw [hgap d (List.mem_reverse.1 hd)]
    rfl
  have hback : gap.reverse ++ c :: xs.reverse = gap'.reverse ++ c' :: xs'.reverse := by
    simpa using congrArg List.reverse h
  have hsame : gap.reverse = gap'.reverse := by
    refine append_mark_injective (p := fun d => !p d) ?_ ?_ (unmarked hgap) (unmarked hgap') hback
    · rw [hc]; rfl
    · rw [hc']; rfl
  rw [hsame, List.append_cancel_left_eq] at hback
  simpa using congrArg List.reverse hback

end StylePrune.Content
