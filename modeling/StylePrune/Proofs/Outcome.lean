/-!
# Steps that may end in an error

When a chain of steps, or one step for each member of a list, gives a value.
-/

namespace StylePrune.Outcome

variable {α β γ ε δ : Type}

theorem bind_eq_ok {x : Except ε α} {f : α → Except ε β} {b : β} :
    x >>= f = .ok b ↔ ∃ a, x = .ok a ∧ f a = .ok b := by
  cases x with
  | error e => simp [bind, Except.bind]
  | ok a => simp [bind, Except.bind]

theorem mapError_ok (f : ε → δ) (a : α) : (Except.ok a : Except ε α).mapError f = .ok a := rfl

theorem mapError_eq_ok {x : Except ε α} {f : ε → δ} {a : α} :
    x.mapError f = .ok a ↔ x = .ok a := by
  cases x with
  | error e => exact iff_of_false (fun h => by cases h) fun h => by cases h
  | ok b => exact ⟨fun h => congrArg Except.ok (Except.ok.inj h), fun h => h ▸ rfl⟩

theorem map_eq_ok {x : Except ε α} {f : α → β} {b : β} :
    x.map f = .ok b ↔ ∃ a, x = .ok a ∧ f a = b := by
  cases x <;> simp [Except.map]

theorem isOk_iff {x : Except ε α} : x.isOk = true ↔ ∃ a, x = .ok a := by
  cases x with
  | error e => exact iff_of_false (fun h => by cases h) fun ⟨_, h⟩ => by cases h
  | ok a => exact iff_of_true rfl ⟨a, rfl⟩

/-- All steps give a value exactly if each does. -/
theorem mapM_ok_iff {f : α → Except ε β} {xs : List α} :
    (∃ ys, xs.mapM f = .ok ys) ↔ ∀ x ∈ xs, ∃ y, f x = .ok y := by
  induction xs with
  | nil => simp [pure, Except.pure]
  | cons x rest ih =>
    simp only [List.forall_mem_cons, ← ih, List.mapM_cons, bind_eq_ok]
    constructor
    · rintro ⟨_, y, hy, ys, hys, _⟩
      exact ⟨⟨y, hy⟩, ys, hys⟩
    · rintro ⟨⟨y, hy⟩, ys, hys⟩
      exact ⟨y :: ys, y, hy, ys, hys, rfl⟩

theorem exists_of_mem_mapM {f : α → Except ε β} {xs : List α} {ys : List β} {y : β}
    (h : xs.mapM f = .ok ys) (hy : y ∈ ys) : ∃ x ∈ xs, f x = .ok y := by
  induction xs generalizing ys with
  | nil =>
    obtain rfl := Except.ok.inj h
    cases hy
  | cons x rest ih =>
    rw [List.mapM_cons] at h
    obtain ⟨z, hz, zs, hzs, heq⟩ := bind_eq_ok.1 h |>.imp fun z hz => hz.imp id bind_eq_ok.1
    obtain rfl := Except.ok.inj heq
    rcases List.mem_cons.1 hy with rfl | hy
    · exact ⟨x, List.mem_cons_self, hz⟩
    · obtain ⟨x', hx', h'⟩ := ih hzs hy
      exact ⟨x', List.mem_cons_of_mem x hx', h'⟩

theorem mem_of_mem_mapM {f : α → Except ε β} {xs : List α} {ys : List β} {x : α} {y : β}
    (h : xs.mapM f = .ok ys) (hx : x ∈ xs) (hy : f x = .ok y) : y ∈ ys := by
  induction xs generalizing ys with
  | nil => cases hx
  | cons x' rest ih =>
    rw [List.mapM_cons] at h
    obtain ⟨z, hz, zs, hzs, heq⟩ := bind_eq_ok.1 h |>.imp fun z hz => hz.imp id bind_eq_ok.1
    obtain rfl := Except.ok.inj heq
    rcases List.mem_cons.1 hx with rfl | hx
    · obtain rfl := Except.ok.inj (hz.symm.trans hy)
      exact List.mem_cons_self
    · exact List.mem_cons_of_mem z (ih hzs hx)

/-- With one step for each member, the order of the members is that of the values. -/
theorem mapM_perm {f : α → Except ε β} {xs xs' : List α} (hperm : xs.Perm xs') :
    ∀ {ys}, xs.mapM f = .ok ys → ∃ ys', xs'.mapM f = .ok ys' ∧ ys.Perm ys' := by
  have ok_cons {x : α} {rest : List α} {ys : List β} : (x :: rest).mapM f = .ok ys ↔
      ∃ y, f x = .ok y ∧ ∃ zs, rest.mapM f = .ok zs ∧ y :: zs = ys := by
    simp only [List.mapM_cons, bind_eq_ok, pure, Except.pure, Except.ok.injEq]
  induction hperm with
  | nil => exact fun h => ⟨_, h, .refl _⟩
  | cons x _ ih =>
    intro ys h
    obtain ⟨y, hy, zs, hzs, rfl⟩ := ok_cons.1 h
    obtain ⟨zs', hzs', hperm⟩ := ih hzs
    exact ⟨y :: zs', ok_cons.2 ⟨y, hy, zs', hzs', rfl⟩, hperm.cons y⟩
  | swap a b rest =>
    intro ys h
    obtain ⟨b', hb, _, hrest, rfl⟩ := ok_cons.1 h
    obtain ⟨a', ha, zs, hzs, rfl⟩ := ok_cons.1 hrest
    exact ⟨a' :: b' :: zs, ok_cons.2 ⟨a', ha, _, ok_cons.2 ⟨b', hb, zs, hzs, rfl⟩, rfl⟩, .swap ..⟩
  | trans _ _ ih ih' =>
    intro ys h
    obtain ⟨zs, hzs, hperm⟩ := ih h
    obtain ⟨zs', hzs', hperm'⟩ := ih' hzs
    exact ⟨zs', hzs', hperm.trans hperm'⟩

theorem mapM_map (f : α → Except ε β) (g : β → γ) (xs : List α) :
    (xs.mapM fun x => (f x).map g) = (xs.mapM f).map (List.map g) := by
  induction xs with
  | nil => rfl
  | cons x rest ih =>
    rw [List.mapM_cons, List.mapM_cons, ih]
    cases f x with
    | error e => rfl
    | ok y => cases rest.mapM f <;> rfl

end StylePrune.Outcome
