import Mathlib.Data.List.Sort
import StylePrune.Names
import StylePrune.Text.Point

/-!
# Sorted sets hold what was put in

For a test `lt` that orders its members strictly (`Strict`), `Sorted.insert` keeps a list strictly
increasing and adds one member (`pairwise_insert`, `mem_insert`), so `Sorted.ofList` has the members
of the list it is made from (`mem_ofList`, `pairwise_ofList`), and one that is a set already stays
as it is (`ofList_eq_self`). Texts are ordered by their codes
(`Text.lt_iff`, `Text.strict_lt`).
-/

namespace StylePrune.Sorted

/-- A test that orders its members strictly and all of them. -/
structure Strict {α : Type} (lt : α → α → Bool) : Prop where
  irrefl : ∀ x, lt x x = false
  trans : ∀ x y z, lt x y = true → lt y z = true → lt x z = true
  total : ∀ x y, lt x y = false → lt y x = false → x = y

variable {α : Type} {lt : α → α → Bool}

theorem mem_insert (h : Strict lt) (x y : α) : ∀ xs : List α, y ∈ insert lt x xs ↔ y = x ∨ y ∈ xs
  | [] => by simp [insert]
  | z :: rest => by
    rw [insert]
    split
    · rw [List.mem_cons]
    split
    · rw [List.mem_cons, mem_insert h x y rest, List.mem_cons, or_left_comm]
    · rename_i hx hz
      have e : x = z := h.total x z (by simpa using hx) (by simpa using hz)
      rw [List.mem_cons, e, ← or_assoc, or_self]

theorem pairwise_insert (h : Strict lt) (x : α) : ∀ {xs : List α},
    xs.Pairwise (fun a b => lt a b = true) → (insert lt x xs).Pairwise fun a b => lt a b = true
  | [], _ => by simp [insert]
  | z :: rest, hs => by
    obtain ⟨hz, hrest⟩ := List.pairwise_cons.1 hs
    rw [insert]
    split
    · rename_i hx
      refine List.pairwise_cons.2 ⟨fun w hw => ?_, hs⟩
      rcases List.mem_cons.1 hw with rfl | hw
      · exact hx
      · exact h.trans _ _ _ hx (hz w hw)
    split
    · rename_i hx
      refine List.pairwise_cons.2 ⟨fun w hw => ?_, pairwise_insert h x hrest⟩
      rcases (mem_insert h x w rest).1 hw with rfl | hw
      · exact hx
      · exact hz w hw
    · exact hs

theorem mem_union (h : Strict lt) (y : α) (ys : List α) : ∀ xs : List α,
    y ∈ union lt xs ys ↔ y ∈ xs ∨ y ∈ ys := by
  induction ys with
  | nil => intro xs; simp [union]
  | cons z zs ih =>
    intro xs
    rw [union, List.foldl_cons]
    rw [show zs.foldl _ (insert lt z xs) = union lt (insert lt z xs) zs from rfl, ih,
      mem_insert h, List.mem_cons]
    rw [or_comm (a := y = z), or_assoc]

theorem pairwise_union (h : Strict lt) (ys : List α) : ∀ {xs : List α},
    xs.Pairwise (fun a b => lt a b = true) →
      (union lt xs ys).Pairwise fun a b => lt a b = true := by
  induction ys with
  | nil => exact id
  | cons z zs ih => exact fun hs => ih (pairwise_insert h z hs)

theorem mem_ofList (h : Strict lt) (y : α) (ys : List α) : y ∈ ofList lt ys ↔ y ∈ ys := by
  rw [ofList, mem_union h]; simp

theorem pairwise_ofList (h : Strict lt) (ys : List α) :
    (ofList lt ys).Pairwise fun a b => lt a b = true :=
  pairwise_union h ys List.Pairwise.nil

theorem insert_last (h : Strict lt) {x : α} : ∀ {xs : List α}, (∀ y ∈ xs, lt y x = true) →
    insert lt x xs = xs ++ [x]
  | [], _ => rfl
  | y :: rest, hx => by
    obtain ⟨hy, hrest⟩ := List.forall_mem_cons.1 hx
    have hnot : lt x y = false := by
      rw [Bool.eq_false_iff]
      exact fun hxy => Bool.eq_false_iff.1 (h.irrefl x) (h.trans x y x hxy hy)
    rw [insert, if_neg (by rw [hnot]; decide), if_pos hy, insert_last h hrest, List.cons_append]

/-- A strictly increasing list is the set of its members. -/
theorem ofList_eq_self (h : Strict lt) {xs : List α}
    (hxs : xs.Pairwise fun a b => lt a b = true) : ofList lt xs = xs := by
  have union_append : ∀ (ys xs : List α), (xs ++ ys).Pairwise (fun a b => lt a b = true) →
      union lt xs ys = xs ++ ys := by
    intro ys
    induction ys with
    | nil => exact fun xs _ => (List.append_nil xs).symm
    | cons y ys ih =>
      intro xs hxs
      have hlast : ∀ x ∈ xs, lt x y = true := fun x hx =>
        (List.pairwise_append.1 hxs).2.2 x hx y List.mem_cons_self
      rw [List.append_cons] at hxs ⊢
      rw [union, List.foldl_cons, insert_last h hlast]
      exact ih (xs ++ [y]) hxs
  exact union_append xs [] hxs

/-- Strictly increasing lists with the same members are the same. -/
theorem eq_of_mem_iff (h : Strict lt) {xs ys : List α}
    (hxs : xs.Pairwise fun a b => lt a b = true) (hys : ys.Pairwise fun a b => lt a b = true)
    (hmem : ∀ a, a ∈ xs ↔ a ∈ ys) : xs = ys := by
  have : Std.Irrefl fun a b => lt a b = true := ⟨fun a ha => by rw [h.irrefl a] at ha; cases ha⟩
  have : Std.Antisymm fun a b => lt a b = true := ⟨fun a b hab hba => by
    have := h.trans a b a hab hba
    rw [h.irrefl a] at this
    cases this⟩
  exact hxs.eq_of_mem_iff hys hmem

theorem strict_stringLt : Strict stringLt where
  irrefl a := by simp [stringLt]
  trans a b c := by
    simp only [stringLt, decide_eq_true_eq]
    exact String.lt_trans
  total a b hab hba := by
    simp only [stringLt, decide_eq_false_iff_not] at hab hba
    exact String.le_antisymm hba hab

end StylePrune.Sorted

namespace StylePrune

/-- A point is known by its code. -/
theorem Point.code_injective {p q : Point} (h : p.code = q.code) : p = q := by
  cases p with
  | char c =>
    cases q with
    | char d => exact congrArg Point.char (Char.toNat_inj.1 h)
    | surrogate j =>
      exfalso
      have := c.valid
      simp only [Point.code, Char.toNat] at h
      simp only [UInt32.isValidChar, Nat.isValidChar] at this
      omega
  | surrogate i =>
    cases q with
    | char d =>
      exfalso
      have := d.valid
      simp only [Point.code, Char.toNat] at h
      simp only [UInt32.isValidChar, Nat.isValidChar] at this
      omega
    | surrogate j => exact congrArg Point.surrogate (Fin.ext (by simpa [Point.code] using h))

theorem Text.codes_injective {a b : Text} (h : a.codes = b.codes) : a = b :=
  List.map_inj_right (fun _ _ => Point.code_injective) |>.1 h

/-- Texts are ordered as their codes are. -/
theorem Text.lt_iff : ∀ {a b : Text}, Text.lt a b = true ↔ a.codes < b.codes
  | [], [] => by simp [Text.lt, Text.codes]
  | [], _ :: _ => by simp [Text.lt, Text.codes]
  | _ :: _, [] => by simp [Text.lt, Text.codes]
  | p :: ps, q :: qs => by
    have ih := Text.lt_iff (a := ps) (b := qs)
    rw [Text.codes, Text.codes] at ih ⊢
    rw [Text.lt, List.map_cons, List.map_cons, List.cons_lt_cons_iff]
    split
    · simp [*]
    split
    · simp only [Bool.false_eq_true, false_iff]
      omega
    · rw [ih, show p.code = q.code by omega]
      simp

theorem Text.strict_lt : Sorted.Strict Text.lt where
  irrefl a := by rw [← Bool.not_eq_true, Text.lt_iff]; exact List.lt_irrefl _
  trans a b c := by simp only [Text.lt_iff]; exact List.lt_trans
  total a b hab hba := by
    rw [← Bool.not_eq_true, Text.lt_iff] at hab hba
    exact Text.codes_injective (List.le_antisymm hba hab)

end StylePrune
