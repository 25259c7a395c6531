import StylePrune.Regex.Reader

/-!
# What reading does with the flags of the whole pattern

The state of the reader holds the flags of the whole pattern. A step is blind if it neither looks at
them nor sets them (`Blind`). Steps that are made of blind ones are blind (`Blind.bind`), and all
steps are but those that start a pattern or set flags for the whole of it.
-/

namespace StylePrune.Regex.Reader

variable {α β : Type} {x y : Read α} {f : α → Read β} {s s' : State} {a : α}

/-- A state with other flags. -/
def State.withFlags (g : Flags) (s : State) : State := { s with flags := g }

section

variable (g : Flags) (s : State)

@[simp] theorem State.withFlags_self : s.withFlags s.flags = s := rfl
@[simp] theorem State.withFlags_next : (s.withFlags g).next = s.next := rfl
@[simp] theorem State.withFlags_later : (s.withFlags g).later = s.later := rfl
@[simp] theorem State.withFlags_position : (s.withFlags g).position = s.position := rfl
@[simp] theorem State.withFlags_flags : (s.withFlags g).flags = g := rfl
@[simp] theorem State.withFlags_widths : (s.withFlags g).widths = s.widths := rfl
@[simp] theorem State.withFlags_names : (s.withFlags g).names = s.names := rfl
@[simp] theorem State.withFlags_conditions : (s.withFlags g).conditions = s.conditions := rfl
@[simp] theorem State.withFlags_lookbehindGroups :
    (s.withFlags g).lookbehindGroups = s.lookbehindGroups := rfl

end

/-- A step that goes the same under all flags of the whole pattern, and leaves them. -/
class Blind (x : Read α) : Prop where
  run : ∀ g s, x (s.withFlags g) = (x s).map fun r => (r.1, r.2.withFlags g)

namespace Blind

theorem run_withFlags (h : Blind x) (g : Flags) (hx : x s = .ok (a, s')) :
    x (s.withFlags g) = .ok (a, s'.withFlags g) := by
  rw [h.run, hx]
  rfl

/-- A blind step leaves the flags. -/
theorem flags_eq (h : Blind x) (hx : x s = .ok (a, s')) : s'.flags = s.flags := by
  have := h.run_withFlags s.flags hx
  rw [State.withFlags_self, hx] at this
  have hs : s' = s'.withFlags s.flags := (Prod.mk.inj (Except.ok.inj this)).2
  rw [hs, State.withFlags_flags]

instance (a : α) : Blind (pure a : Read α) := ⟨fun _ _ => rfl⟩

instance (e : PatternError) : Blind (throw e : Read α) := ⟨fun _ _ => rfl⟩

instance bind [hx : Blind x] [hf : ∀ a, Blind (f a)] : Blind (x >>= f) where
  run g s := by
    simp only [Bind.bind, StateT.bind, hx.run]
    cases x s with
    | error e => rfl
    | ok r => exact (hf r.1).run g r.2

instance ite {c : Prop} [Decidable c] [hx : Blind x] [hy : Blind y] :
    Blind (if c then x else y) := by
  split
  · exact hx
  · exact hy

/-- A step that uses the state, but not its flags. -/
theorem get {f : State → Read β} (h : ∀ g s, f (s.withFlags g) = f s)
    (hf : ∀ s, Blind (f s)) : Blind (MonadState.get >>= f) where
  run g s := by
    show f (s.withFlags g) (s.withFlags g) = _
    rw [h]
    exact (hf s).run g s

theorem modify {f : State → State} (h : ∀ g s, f (s.withFlags g) = (f s).withFlags g) :
    Blind (modify f : Read Unit) where
  run g s := congrArg (fun s => Except.ok ((), s)) (h g s)

end Blind

/-! ## Tokens -/

instance (message : String) (offset : Nat) : Blind (fail message offset : Read α) :=
  .get (fun _ _ => rfl) fun _ => inferInstanceAs (Blind (throw _))

instance : Blind advance where
  run g s := by
    obtain ⟨next, later, position, flags, widths, names, groups, conditions⟩ := s
    cases next with
    | none => rfl
    | some t =>
      simp only [advance, Bind.bind, StateT.bind, MonadState.get, getThe, MonadStateOf.get,
        StateT.get, State.withFlags, Pure.pure, Except.pure, Except.bind]
      cases tokenOf later (position + t.length) with
      | error e => rfl
      | ok r => rfl

instance : Blind peek := .get (fun _ _ => rfl) fun _ => inferInstanceAs (Blind (pure _))

instance : Blind leftLength := .get (fun _ _ => rfl) fun _ => inferInstanceAs (Blind (pure _))

instance : Blind take := .get (fun _ _ => rfl) fun _ => by dsimp only; infer_instance

instance (c : Char) : Blind (accept c) := by
  rw [accept]
  infer_instance

instance (p : Char → Bool) : Blind (nextIs p) := by
  rw [nextIs]
  refine @Blind.bind _ _ _ _ _ fun t => ?_
  split <;> infer_instance

instance blind_takeWhile (p : Char → Bool) : ∀ n, Blind (takeWhile p n)
  | 0 => inferInstanceAs (Blind (pure _))
  | n + 1 => by
    have ih := blind_takeWhile p n
    rw [takeWhile]
    refine @Blind.bind _ _ _ _ _ fun t => ?_
    split <;> infer_instance

instance blind_takeUntil (terminator : Char) (what : String) :
    ∀ n read, Blind (takeUntil terminator what n read)
  | 0, _ => inferInstanceAs (Blind (fail _ _))
  | n + 1, read => by
    have ih := blind_takeUntil terminator what n
    rw [takeUntil]
    refine @Blind.bind _ _ _ _ _ fun t => ?_
    split <;> infer_instance

/-! ## Escapes and sets -/

instance (text : List Char) : Blind (badEscape text : Read α) :=
  inferInstanceAs (Blind (fail _ _))

instance (text : List Char) : Blind (octalTooLarge text : Read α) :=
  inferInstanceAs (Blind (fail _ _))

instance (c : Char) (width : Nat) : Blind (hexEscape c width) := by
  rw [hexEscape]
  dsimp only
  infer_instance

instance : Blind namedEscape := by
  have hname (name : String) : Blind (match codeOfName? name with
      | some code => (pure (.code code) : Read Escape)
      | none => fail s!"undefined character name {Quoted.string name}" (name.length + 4)) := by
    split <;> infer_instance
  rw [namedEscape]
  dsimp only
  infer_instance

instance (c : Char) : Blind (commonEscape c) := by
  rw [commonEscape]
  infer_instance

instance (c : Char) : Blind (setEscape c) := by
  rw [setEscape]
  dsimp only
  split <;> infer_instance

instance (index : Nat) : Blind (checkLookbehind index) := by
  rw [checkLookbehind]
  refine .get (fun _ _ => rfl) fun s => ?_
  dsimp only
  split <;> infer_instance

instance (c : Char) : Blind (numericEscape c) := by
  rw [numericEscape]
  dsimp only
  refine @Blind.bind _ _ _ _ _ fun isLonger => ?_
  refine @Blind.ite _ _ _ _ _ ?_ (.get (fun _ _ => rfl) fun _ => by infer_instance)
  refine @Blind.bind _ _ _ _ _ fun digits => ?_
  refine @Blind.bind _ _ _ _ _ fun isOctal => ?_
  exact @Blind.ite _ _ _ _ _ (by infer_instance) (.get (fun _ _ => rfl) fun _ => by infer_instance)

instance (flags : Flags) (c : Char) : Blind (escape flags c) := by
  have hother : Blind (match categoryEscape? c, controlEscape? c with
      | some (category, negated), _ => (pure (.category category negated) : Read Escape)
      | none, some code => pure (.code code)
      | none, none =>
        if c = '0' then do
          let digits ← takeWhile isOctal 2
          pure (.code (number 8 digits))
        else if isDigit c then numericEscape c
        else commonEscape c) := by
    split <;> infer_instance
  rw [escape]
  infer_instance

instance : ∀ t, Blind (setMember t)
  | .plain _ => inferInstanceAs (Blind (pure _))
  | .escape c => inferInstanceAs (Blind (setEscape c))

instance blind_setItems (flags : Flags) (start : Nat) :
    ∀ n items, Blind (setItems flags start n items)
  | 0, _ => inferInstanceAs (Blind (fail _ _))
  | n + 1, items => by
    have ih := blind_setItems flags start n
    rw [setItems]
    dsimp only
    repeat' first
      | infer_instance
      | refine @Blind.ite _ _ _ _ _ ?_ ?_
      | refine @Blind.bind _ _ _ _ _ fun _ => ?_
      | split

/-! ## Heads of groups, counts and comments -/

instance (t : Token) (instead : String) : Blind (flagExpected t instead : Read α) :=
  inferInstanceAs (Blind (fail _ _))

instance blind_flagsOn : ∀ n on c, Blind (flagsOn n on c)
  | 0, _, _ => inferInstanceAs (Blind (fail _ _))
  | n + 1, on, c => by
    have ih := blind_flagsOn n
    rw [flagsOn]
    dsimp only
    repeat' first
      | infer_instance
      | refine @Blind.ite _ _ _ _ _ ?_ ?_
      | refine @Blind.bind _ _ _ _ _ fun _ => ?_
      | split

instance blind_flagsOff : ∀ n off c, Blind (flagsOff n off c)
  | 0, _, _ => inferInstanceAs (Blind (fail _ _))
  | n + 1, off, c => by
    have ih := blind_flagsOff n
    rw [flagsOff]
    dsimp only
    repeat' first
      | infer_instance
      | refine @Blind.ite _ _ _ _ _ ?_ ?_
      | refine @Blind.bind _ _ _ _ _ fun _ => ?_
      | split

instance (c : Char) : Blind (flagHead c) := by
  rw [flagHead]
  dsimp only
  repeat' first
    | infer_instance
    | refine @Blind.ite _ _ _ _ _ ?_ ?_
    | refine @Blind.bind _ _ _ _ _ fun _ => ?_
    | split

instance (n : Node) : Blind (widthOf n) :=
  .get (fun _ _ => rfl) fun _ => inferInstanceAs (Blind (pure _))

instance (name : Option String) : Blind (openGroup name) where
  run g s := by
    cases name with
    | none => rfl
    | some name =>
      simp only [openGroup, Bind.bind, StateT.bind, MonadState.get, getThe, MonadStateOf.get,
        StateT.get, Pure.pure, Except.pure, Except.bind, State.withFlags_names]
      cases s.names.lookup name <;> rfl

instance (index : Nat) (body : Node) : Blind (closeGroup index body) := by
  have (width : Width) : Blind (modify (σ := State) (m := Read) fun s =>
      { s with widths := s.widths.set index (some width) }) := .modify fun _ _ => rfl
  rw [closeGroup]
  infer_instance

instance (name : String) : Blind (checkName name) := by
  rw [checkName]
  infer_instance

instance : Blind conditionGroup := by
  rw [conditionGroup]
  dsimp only
  refine @Blind.bind _ _ _ _ inferInstance fun n => @Blind.bind _ _ _ _ inferInstance fun name => ?_
  refine @Blind.ite _ _ _ _ _ (.get (fun _ _ => rfl) fun s => ?named) ?numbered
  case named => split <;> infer_instance
  case numbered =>
    have hadd (index : Nat) : Blind (modify fun s =>
        if (s.conditions.lookup index).isSome then s
        else { s with conditions := s.conditions ++ [(index, s.position - name.length - 1)] }) := by
      refine .modify fun g s => ?_
      rw [State.withFlags_conditions]
      split <;> rfl
    split
    · refine @Blind.ite _ _ _ _ _ (@Blind.bind _ _ _ _ inferInstance fun _ => ?_) ?_ <;>
        infer_instance
    · infer_instance

instance (digits : List Char) : Blind (integer digits) := by
  rw [integer]
  dsimp only
  infer_instance


/-- Steps that use a state kept from before: they go the same, and leave the flags, if both states
have other flags. -/
structure BlindFrom (f : State → Read β) : Prop where
  run : ∀ g before s, f (before.withFlags g) (s.withFlags g) =
    (f before s).map fun r => (r.1, r.2.withFlags g)

namespace BlindFrom

variable {f k : State → Read β}

theorem get (h : BlindFrom f) : Blind (MonadState.get >>= f) := ⟨fun g s => h.run g s s⟩

theorem const (h : ∀ g s, f (s.withFlags g) = f s) [hf : ∀ s, Blind (f s)] : BlindFrom f where
  run g before s := by rw [h, (hf before).run]

theorem bind {f : State → α → Read β} [hx : Blind x] (hf : ∀ a, BlindFrom fun s => f s a) :
    BlindFrom fun s => x >>= f s where
  run g before s := by
    simp only [Bind.bind, StateT.bind, hx.run]
    cases x s with
    | error e => rfl
    | ok r => exact (hf r.1).run g before r.2

theorem ite {c : Prop} [Decidable c] (hf : BlindFrom f) (hk : BlindFrom k) :
    BlindFrom fun s => if c then f s else k s := by
  split
  · exact hf
  · exact hk

theorem set [hx : Blind x] : BlindFrom fun s => MonadStateOf.set s >>= fun _ => x :=
  ⟨fun g before _ => hx.run g before⟩

end BlindFrom

instance : Blind braceCount := by
  rw [braceCount]
  dsimp only
  refine BlindFrom.get (.bind fun n => .bind fun low => .bind fun comma => .ite ?more ?same)
  case more =>
    refine .bind fun n => .bind fun high => .bind fun closed => .ite .set ?_
    exact .const fun _ _ => rfl
  case same =>
    refine .bind fun high => .bind fun closed => .ite .set ?_
    exact .const fun _ _ => rfl

instance blind_skipComment (start : Nat) : ∀ n, Blind (skipComment start n)
  | 0 => inferInstanceAs (Blind (throw _))
  | n + 1 => by
    have ih := blind_skipComment start n
    rw [skipComment]
    repeat' first
      | infer_instance
      | refine @Blind.ite _ _ _ _ _ ?_ ?_
      | refine @Blind.bind _ _ _ _ _ fun _ => ?_
      | split

instance blind_skipLine : ∀ n, Blind (skipLine n)
  | 0 => inferInstanceAs (Blind (pure _))
  | n + 1 => by
    have ih := blind_skipLine n
    rw [skipLine]
    repeat' first
      | infer_instance
      | refine @Blind.ite _ _ _ _ _ ?_ ?_
      | refine @Blind.bind _ _ _ _ _ fun _ => ?_
      | split

instance : Blind greedMark := by
  rw [greedMark]
  infer_instance

instance (start : Nat) : Blind (unterminated start : Read α) := inferInstanceAs (Blind (throw _))

instance (here min : Nat) (max : Option Nat) (nodes : List Node) :
    Blind (repeatLast here min max nodes) := by
  unfold repeatLast
  split <;> infer_instance

end StylePrune.Regex.Reader
