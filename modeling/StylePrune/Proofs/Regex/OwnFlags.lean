import StylePrune.Proofs.Regex.Blind

/-!
# The flags that a pattern sets for itself

A pattern may set flags for the whole of it, but only before anything else (`Heads`). So reading it
with some of the flags that it ends with anyhow gives the same (`read_union`), and a pattern that
was read from text is known by its source and the flags it is written with.
-/

namespace StylePrune.Regex

namespace Flags

/-- Whether flags are among others. -/
def Within (a b : Flags) : Prop := b.union a = b

theorem union_assoc (a b c : Flags) : (a.union b).union c = a.union (b.union c) := by
  simp only [union, Bool.or_assoc]

theorem union_comm (a b : Flags) : a.union b = b.union a := by
  simp only [union, Bool.or_comm]

theorem union_self (a : Flags) : a.union a = a := by
  simp only [union, Bool.or_self]

theorem union_right_comm (a b c : Flags) : (a.union b).union c = (a.union c).union b := by
  simp only [union, Bool.or_right_comm]

theorem Within.refl (a : Flags) : a.Within a := a.union_self

theorem Within.of_union {a b c : Flags} (h : (a.union b).Within c) : a.Within c := by
  rw [Within, ← h, union_assoc, union_right_comm a b a, union_self]

end Flags

namespace Reader

variable {α β : Type} {x y : Read α} {f k : α → Read β} {s s' : State} {a : α}

/-! ## Steps that leave the flags -/

/-- A step after which the flags of the whole pattern are as before. -/
class Keeps (x : Read α) : Prop where
  flags_eq : ∀ {s a s'}, x s = .ok (a, s') → s'.flags = s.flags

theorem run_bind (x : Read α) (f : α → Read β) (s : State) :
    (x >>= f) s = (x s).bind fun r => f r.1 r.2 := rfl

theorem run_get (f : State → Read β) (s : State) : (get >>= f) s = f s s := rfl

theorem bind_eq_ok {b : β} (h : (x >>= f) s = .ok (b, s')) :
    ∃ a t, x s = .ok (a, t) ∧ f a t = .ok (b, s') := by
  rw [run_bind] at h
  cases hx : x s with
  | error e => rw [hx] at h; cases h
  | ok r => exact ⟨r.1, r.2, rfl, by rwa [hx] at h⟩

namespace Keeps

instance of_blind [h : Blind x] : Keeps x := ⟨h.flags_eq⟩

instance bind [hx : Keeps x] [hf : ∀ a, Keeps (f a)] : Keeps (x >>= f) where
  flags_eq h := by
    obtain ⟨a, t, ha, hb⟩ := bind_eq_ok h
    rw [(hf a).flags_eq hb, hx.flags_eq ha]

instance ite {c : Prop} [Decidable c] [hx : Keeps x] [hy : Keeps y] :
    Keeps (if c then x else y) := by
  split
  · exact hx
  · exact hy

theorem get {f : State → Read β} (hf : ∀ s, Keeps (f s)) : Keeps (MonadState.get >>= f) where
  flags_eq {s _ _} h := (hf s).flags_eq h

end Keeps

/-! ## Steps before anything else -/

variable {G F : Flags} {h : Prop}

/-- Steps of two readings, the second one with the flags `G` on top, for places that may be before
anything else, which is so if `h`. A step that ends leaves the flags; or it stands before
anything else, the flags grow, and if they are then such that `G` is among them, both readings
agree. -/
structure Heads (G F : Flags) (h : Prop) (x y : Read α) : Prop where
  run : ∀ {s a t}, (h → s.flags = F) → x s = .ok (a, t) → t.flags = s.flags ∨
    h ∧ F.Within t.flags ∧ (G.Within t.flags → y (s.withFlags (F.union G)) = .ok (a, t))

namespace Heads

theorem of_keeps [hx : Keeps x] : Heads G F h x y := ⟨fun _ hs => .inl (hx.flags_eq hs)⟩

theorem bind [hx : Blind x] (hf : ∀ a, Heads G F h (f a) (k a)) :
    Heads G F h (x >>= f) (x >>= k) where
  run {s b t} hs hb := by
    obtain ⟨a, s', ha, hb⟩ := bind_eq_ok hb
    have hflags := hx.flags_eq ha
    refine ((hf a).run (fun hh => hflags.trans (hs hh)) hb).imp (·.trans hflags) ?_
    rintro ⟨hh, hgrown, hagree⟩
    refine ⟨hh, hgrown, fun hG => ?_⟩
    rw [run_bind, hx.run_withFlags _ ha]
    exact hagree hG

theorem ite {c : Prop} [Decidable c] {x' y' : Read α} (hx : Heads G F h x y)
    (hx' : Heads G F h x' y') : Heads G F h (if c then x else x') (if c then y else y') := by
  split
  · exact hx
  · exact hx'

/-- A step that uses the place. -/
theorem get {f k : State → Read β} (hk : ∀ g s, k (s.withFlags g) = k s)
    (hf : ∀ s, Heads G F h (f s) (k s)) :
    Heads G F h (MonadState.get >>= f) (MonadState.get >>= k) where
  run {s b t} hs hb := by
    refine ((hf s).run hs hb).imp id ?_
    rintro ⟨hh, hgrown, hagree⟩
    refine ⟨hh, hgrown, fun hG => ?_⟩
    show k (s.withFlags _) (s.withFlags _) = _
    rw [hk]
    exact hagree hG

end Heads

/-- Flags for the whole pattern are set in both readings. -/
theorem heads_union {level : Level} {nodes : List Node} {fuel : Nat} {on : Flags}
    (hsequence : Heads G (F.union on) h (sequence (F.union on) level fuel nodes)
      (sequence ((F.union on).union G) level fuel nodes)) (hh : h) :
    Heads G F h
      (modify (fun s => { s with flags := s.flags.union on }) >>= fun _ : PUnit =>
        sequence (F.union on) level fuel nodes)
      (modify (fun s => { s with flags := s.flags.union on }) >>= fun _ : PUnit =>
        sequence ((F.union G).union on) level fuel nodes) where
  run {s _ t} hs hx := by
    have hcomm := F.union_right_comm G on
    obtain ⟨⟨⟩, s', hs', hx⟩ := bind_eq_ok hx
    obtain rfl : s.withFlags (s.flags.union on) = s' := (Prod.mk.inj (Except.ok.inj hs')).2
    rw [hs hh] at hx
    refine .inr ⟨hh, ?_⟩
    have hsecond (result : Except PatternError (List Node × State))
        (h : sequence ((F.union on).union G) level fuel nodes
          (s.withFlags ((F.union on).union G)) = result) :
        (modify (fun s => { s with flags := s.flags.union on }) >>= fun _ : PUnit =>
          sequence ((F.union G).union on) level fuel nodes : Read (List Node))
            (s.withFlags (F.union G)) = result := by
      rw [← h, ← hcomm]
      rfl
    rcases hsequence.run (fun _ => rfl) hx with hsame | ⟨-, hgrown, hagree⟩
    · have hflags : t.flags = F.union on := hsame
      rw [hflags]
      refine ⟨?_, fun hG => hsecond _ ?_⟩
      · exact (Flags.Within.refl (F.union on)).of_union
      · rw [hG]
        exact hx
    · exact ⟨hgrown.of_union, fun hG => hsecond _ (hagree hG)⟩

theorem repeatLast_ne_nil {here min : Nat} {max : Option Nat} {nodes nodes' : List Node}
    {s s' : State} (h : repeatLast here min max nodes s = .ok (nodes', s')) : nodes' ≠ [] := by
  have hmarked (body : Node) (before : List Node) (h : (do
      return .repeated (← greedMark) min max body :: before : Read (List Node)) s =
        .ok (nodes', s')) : nodes' ≠ [] := by
    obtain ⟨greed, t, -, h⟩ := bind_eq_ok h
    cases h
    exact List.cons_ne_nil _ _
  unfold repeatLast at h
  cases nodes with
  | nil => cases h
  | cons n rest =>
    cases hlast : lastOf (n :: rest) with
    | item => exact hmarked n rest (by rwa [hlast] at h)
    | none => rw [hlast] at h; cases h
    | anchor => rw [hlast] at h; cases h
    | repeated => rw [hlast] at h; cases h

/-- Whether a sequence may still set flags for the whole pattern. -/
def AtHead (level : Level) (nodes : List Node) : Prop := level = .top true ∧ nodes = []

/-- What the functions that call each other do, by the fuel that is left. -/
theorem heads_fuel (hG : G.verbose = false) (fuel : Nat) :
    (∀ flags before, Keeps (alternatives flags true fuel before)) ∧
    (∀ flags start head, Keeps (grouped flags start head fuel)) ∧
    ∀ F level nodes, Heads G F (AtHead level nodes) (sequence F level fuel nodes)
      (sequence (F.union G) level fuel nodes) := by
  induction fuel with
  | zero =>
    exact ⟨fun _ _ => inferInstanceAs (Keeps (fail _ _)),
      fun _ _ _ => inferInstanceAs (Keeps (fail _ _)),
      fun _ _ _ => @Heads.of_keeps _ _ _ _ _ _ (inferInstanceAs (Keeps (fail _ _)))⟩
  | succ fuel ih =>
    obtain ⟨halternatives, hgrouped, hsequence⟩ := ih
    have hleaves {level : Level} {nodes : List Node} (hhead : ¬ AtHead level nodes)
        (flags : Flags) : Keeps (sequence flags level fuel nodes) :=
      ⟨fun hs => ((hsequence flags level nodes).run (fun hh => absurd hh hhead) hs).resolve_right
        fun hh => hhead hh.1⟩
    have hinner (flags : Flags) : Keeps (sequence flags .inner fuel []) :=
      hleaves (fun hh => by cases hh.1) flags
    refine ⟨fun flags before => ?alternatives, fun flags start head => ?grouped,
      fun F level nodes => ?sequence⟩
    case alternatives =>
      rw [alternatives]
      refine .get fun s => ?_
      simp only [↓reduceIte]
      infer_instance
    case grouped =>
      rcases head with name | _ | ⟨on, off⟩ | _
      all_goals
        rw [grouped]
        dsimp only
        infer_instance
    case sequence =>
      have hbehind {nodes' : List Node} (hne : nodes' ≠ []) :
          Keeps (sequence F level fuel nodes') :=
        hleaves (fun hh => hne hh.2) F
      have hcons (n : Node) : Keeps (sequence F level fuel (n :: nodes)) :=
        hbehind (List.cons_ne_nil n nodes)
      have hrepeat (here min : Nat) (max : Option Nat) : Keeps (repeatLast here min max nodes >>=
          fun nodes => sequence F level fuel nodes) := by
        refine ⟨fun h => ?_⟩
        obtain ⟨nodes', t, hnodes, h⟩ := bind_eq_ok h
        rw [(hbehind (repeatLast_ne_nil hnodes)).flags_eq h, Keeps.flags_eq hnodes]
      have hsame := hsequence F level nodes
      have hverbose : (F.union G).verbose = F.verbose := by
        simp only [Flags.union, hG, Bool.or_false]
      rw [sequence, sequence]
      dsimp only
      rw [hverbose]
      refine .bind fun t => ?_
      cases t with
      | none => exact .of_keeps
      | some t =>
        refine .ite .of_keeps (.bind fun _ => .get (fun _ _ => rfl) fun s => ?_)
        cases t with
        | escape c => exact .of_keeps
        | plain c =>
          refine .ite hsame (.ite (.bind fun _ => .bind fun _ => hsame) ?_)
          refine .ite .of_keeps ?_
          refine .ite .of_keeps ?_
          refine .ite .of_keeps ?_
          refine .ite .of_keeps ?_
          refine .ite ?braces ?_
          case braces =>
            refine .bind fun _ => .ite .of_keeps (.bind fun count => ?_)
            cases count <;> exact .of_keeps
          refine .ite .of_keeps ?_
          refine .ite .of_keeps ?_
          refine .ite (.bind fun isMarked => .ite ?marked .of_keeps) .of_keeps
          case marked =>
            refine .bind fun t => ?_
            cases t with
            | none => exact .of_keeps
            | some t =>
              cases t with
              | escape d => exact .of_keeps
              | plain d =>
                refine .ite ?named (.ite .of_keeps ?_)
                case named =>
                  refine .bind fun isGroup => .ite .of_keeps (.bind fun isReference => ?_)
                  refine .ite (.bind fun n => .bind fun name => .bind fun _ => ?_) ?_
                  · refine .get (fun _ _ => rfl) fun s => ?_
                    cases s.names.lookup name <;> exact .of_keeps
                  · refine .bind fun t => ?_
                    cases t <;> exact .of_keeps
                refine .ite (.bind fun n => .bind fun _ => hsame) (.ite .of_keeps ?_)
                refine .ite (.bind fun t => ?behind) ?_
                case behind =>
                  cases t with
                  | none => exact .of_keeps
                  | some t =>
                    refine .ite (.get (fun _ _ => rfl) fun s => ?_) .of_keeps
                    refine @Heads.of_keeps _ _ _ _ _ _ ?_
                    have hset (groups : State → Option Nat)
                        (h : ∀ g s, groups (s.withFlags g) = groups s) :
                        Blind (modify (m := Read) fun s =>
                          { s with lookbehindGroups := groups s }) :=
                      .modify fun g s => by rw [h]; rfl
                    refine @Keeps.bind _ _ _ _
                      (@Keeps.of_blind _ _ (hset _ fun _ _ => rfl)) fun _ => ?_
                    refine @Keeps.bind _ _ _ _ inferInstance fun body => ?_
                    refine @Keeps.bind _ _ _ _
                      (@Keeps.of_blind _ _ (hset _ fun _ _ => rfl)) fun _ => ?_
                    infer_instance
                refine .ite (.bind fun index => ?conditional) ?_
                case conditional =>
                  refine @Heads.of_keeps _ _ _ _ _ _ ?_
                  refine @Keeps.bind _ _ _ _ (hinner F) fun yes => ?_
                  refine @Keeps.bind _ _ _ _ inferInstance fun isSplit => ?_
                  refine @Keeps.ite _ _ _ _ _ (@Keeps.bind _ _ _ _ (hinner F) fun no => ?_)
                    inferInstance
                  refine @Keeps.bind _ _ _ _ inferInstance fun isThird => ?_
                  exact @Keeps.ite _ _ _ _ _ inferInstance inferInstance
                refine .ite .of_keeps (.ite (.bind fun head => ?_) .of_keeps)
                cases head with
                | group on off => exact .of_keeps
                | whole on =>
                  dsimp only
                  by_cases hhead : AtHead level nodes
                  · obtain ⟨hlevel, hnodes⟩ := hhead
                    rw [if_neg (by simp [hlevel, hnodes]), if_neg (by simp [hlevel, hnodes])]
                    exact heads_union (hsequence (F.union on) level nodes) ⟨hlevel, hnodes⟩
                  · have hnot : (decide (level ≠ .top true) || !nodes.isEmpty) = true := by
                      rcases Classical.not_and_iff_not_or_not.1 hhead with hne | hne <;> simp [hne]
                    rw [if_pos hnot]
                    exact @Heads.of_keeps _ _ _ _ _ _ ⟨fun h => by cases h⟩

/-! ## Whole patterns -/

/-- The alternatives of a pattern behind the first leave the flags. -/
theorem keeps_later : ∀ (fuel : Nat) {before : List (List Node)}, before ≠ [] →
    ∀ F, Keeps (alternatives F false fuel before)
  | 0, _, _, _ => inferInstanceAs (Keeps (fail _ _))
  | fuel + 1, before, hbefore, F => by
    have hnext (F : Flags) (nodes : List Node) :
        Keeps (alternatives F false fuel (nodes :: before)) :=
      keeps_later fuel (List.cons_ne_nil nodes before) F
    have hsequence (F : Flags) : Keeps (sequence F (.top before.isEmpty) fuel []) := by
      have hlevel : Level.top before.isEmpty = .top false := by simp [hbefore]
      rw [hlevel]
      refine ⟨fun h => ?_⟩
      exact (((heads_fuel (G := {}) rfl fuel).2.2 F (.top false) []).run
        (fun hh => by cases hh.1) h).resolve_right fun hh => by cases hh.1.1
    rw [alternatives]
    refine .get fun s => ?_
    simp only [Bool.false_eq_true, ↓reduceIte]
    infer_instance

/-- They are read under all flags that are set by then, whatever was given. -/
theorem alternatives_later (hG : G.Within s.flags) (fuel : Nat) (before : List (List Node)) :
    alternatives (F.union G) false fuel before s = alternatives F false fuel before s := by
  cases fuel with
  | zero => rfl
  | succ fuel =>
    have hflags : (F.union G).union s.flags = F.union s.flags := by
      rw [Flags.union_assoc, Flags.union_comm G, show s.flags.union G = s.flags from hG]
    rw [alternatives, alternatives, run_get, run_get]
    simp only [Bool.false_eq_true, ↓reduceIte, hflags]

/-! ## More flags at the start -/

variable {n : Node} {nodes : List Node} {t : State}

theorem sequence_union (hG : G.verbose = false) {fuel : Nat} (hs : s.flags = F)
    (h : sequence F (.top true) fuel [] s = .ok (nodes, t)) : F.Within t.flags ∧
      (G.Within t.flags →
        sequence (F.union G) (.top true) fuel [] (s.withFlags (F.union G)) = .ok (nodes, t)) := by
  rcases ((heads_fuel hG fuel).2.2 F (.top true) []).run (fun _ => hs) h with hsame | hgrown
  · rw [hsame, hs]
    refine ⟨.refl F, fun hG => ?_⟩
    rwa [show F.union G = F from hG, ← hs, State.withFlags_self, hs]
  · exact hgrown.2

theorem alternatives_union (hG : G.verbose = false) {fuel : Nat} (hs : s.flags = F)
    (h : alternatives F false fuel [] s = .ok (n, t)) : F.Within t.flags ∧
      (G.Within t.flags →
        alternatives (F.union G) false fuel [] (s.withFlags (F.union G)) = .ok (n, t)) := by
  cases fuel with
  | zero => cases h
  | succ fuel =>
    rw [alternatives, run_get] at h
    rw [alternatives, run_get]
    simp only [Bool.false_eq_true, ↓reduceIte, hs, Flags.union_self, List.isEmpty_nil,
      State.withFlags_flags] at h ⊢
    obtain ⟨nodes, s₁, hfirst, h⟩ := bind_eq_ok h
    obtain ⟨isNext, s₂, haccept, h⟩ := bind_eq_ok h
    obtain ⟨hgrown, hagree⟩ := sequence_union hG hs hfirst
    have haccepted : s₂.flags = s₁.flags := Keeps.flags_eq haccept
    cases isNext with
    | false =>
      obtain ⟨rfl, rfl⟩ := Prod.mk.inj (Except.ok.inj h)
      rw [haccepted]
      refine ⟨hgrown, fun hG => ?_⟩
      -- A single alternative does not look at the flags.
      rw [run_bind, hagree hG, Except.bind, run_bind, haccept]
      rfl
    | true =>
      have hrest : t.flags = s₂.flags :=
        (keeps_later fuel (List.cons_ne_nil nodes []) F).flags_eq h
      rw [hrest, haccepted]
      refine ⟨hgrown, fun hG => ?_⟩
      rw [run_bind, hagree hG, Except.bind, run_bind, haccept, ← h]
      exact alternatives_later (haccepted ▸ hG) fuel [nodes]

/-- What is checked at the end of a pattern. -/
theorem whole_union (hG : G.verbose = false) (hs : s.flags = F) (h : whole F s = .ok (n, t)) :
    F.Within t.flags ∧
      (G.Within t.flags → whole (F.union G) (s.withFlags (F.union G)) = .ok (n, t)) := by
  obtain ⟨fuel, s', hfuel, hread⟩ := bind_eq_ok h
  obtain ⟨n', t', hn, hchecked⟩ := bind_eq_ok hread
  obtain rfl : s = s' := by
    cases hfuel
    rfl
  obtain ⟨hgrown, hagree⟩ := alternatives_union hG hs hn
  have hchecks : t.flags = t'.flags := by
    refine @Keeps.flags_eq _ _ (.get fun s => ?_) _ _ _ hchecked
    dsimp only
    repeat' first
      | infer_instance
      | refine @Keeps.ite _ _ _ _ _ ?_ ?_
      | refine @Keeps.bind _ _ _ _ inferInstance fun _ => ?_
      | split
  rw [hchecks]
  refine ⟨hgrown, fun hG => ?_⟩
  rw [whole, run_bind, Blind.run_withFlags inferInstance _ hfuel, Except.bind, run_bind, hagree hG]
  exact hchecked

end Reader

namespace Pattern

open Flags (Within)

/-- Reading a pattern with flags that it ends with anyhow gives the same pattern. -/
theorem read_union {source : String} {F G : Flags} {p : Pattern} (hG : G.verbose = false)
    (h : read source F = .ok p) :
    F.Within p.flags ∧ (G.Within p.flags → read source (F.union G) = .ok p) := by
  rw [read] at h ⊢
  cases htoken : Reader.tokenOf source.toList 0 with
  | error e => rw [htoken] at h; cases h
  | ok first =>
    obtain ⟨next, later⟩ := first
    rw [htoken] at h
    dsimp only at h ⊢
    generalize hstart :
      (⟨next, later, 0, F, [some .zero], [], none, []⟩ : Reader.State) = start at h
    have hflags : start.flags = F := by rw [← hstart]
    have hagain : (⟨next, later, 0, F.union G, [some .zero], [], none, []⟩ : Reader.State) =
        start.withFlags (F.union G) := by rw [← hstart]; rfl
    rw [hagain]
    cases hwhole : (Reader.whole F).run start with
    | error e => rw [hwhole] at h; cases h
    | ok result =>
      obtain ⟨body, s⟩ := result
      rw [hwhole] at h
      obtain rfl := Except.ok.inj h
      refine (Reader.whole_union hG hflags hwhole).imp id fun hagree hG => ?_
      rw [show (Reader.whole (F.union G)).run (start.withFlags (F.union G)) = _ from hagree hG]

end Pattern

end StylePrune.Regex
