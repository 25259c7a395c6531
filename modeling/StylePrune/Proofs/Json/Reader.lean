import StylePrune.Proofs.Json.Strings

/-!
# What the reader accepts

What is read as a value is one of the grammar (`read_sound`), and every value of the grammar is read
if the text behind it ends it (`read_complete`): both by induction on the levels that the reader
goes down. So it accepts the texts of its dialect and no others (`parse_iff`).
-/

namespace StylePrune.Json

variable {cs rest : List Char} {v : Json} {fuel : Nat}

/-- A value starts with a character of its own. -/
theorem Value.head (h : Value .read cs v rest) :
    ∃ c more, cs = c :: more ∧ isSpace c = false ∧ c ≠ ']' ∧ c ≠ '\uFEFF' := by
  cases h with
  | word h =>
    simp only [Dialect.read, words, List.mem_cons, List.not_mem_nil, or_false, Prod.mk.injEq] at h
    rcases h with ⟨rfl, rfl⟩ | ⟨rfl, rfl⟩ | ⟨rfl, rfl⟩ | ⟨rfl, rfl⟩ | ⟨rfl, rfl⟩ | ⟨rfl, rfl⟩ <;>
      exact ⟨_, _, rfl, by decide⟩
  | number h =>
    obtain ⟨negative, c, more, rfl, hc⟩ := h.head
    cases negative with
    | true => exact ⟨'-', _, rfl, by decide⟩
    | false =>
      exact ⟨c, _, rfl, isSpace_of_isDigit hc, ne_of_isDigit hc rfl, ne_of_isDigit hc rfl⟩
  | string _ => exact ⟨'"', _, rfl, by decide⟩
  | noItems _ => exact ⟨'[', _, rfl, by decide⟩
  | items _ _ => exact ⟨'[', _, rfl, by decide⟩
  | noMembers _ => exact ⟨'\x7b', _, rfl, by decide⟩
  | members _ _ => exact ⟨'\x7b', _, rfl, by decide⟩

theorem Items.head {vs : List Json} (h : Items .read cs vs rest) :
    ∃ c more, cs = c :: more ∧ isSpace c = false ∧ c ≠ ']' ∧ c ≠ '\uFEFF' := by
  cases h with
  | last h _ => exact h.head
  | more h _ _ _ => exact h.head

theorem Members.head {ms : List (Text × Json)} (h : Members .read cs ms rest) :
    ∃ more, cs = '"' :: more := by
  cases h with
  | last _ _ _ _ _ => exact ⟨_, rfl⟩
  | more _ _ _ _ _ _ _ => exact ⟨_, rfl⟩

/-! ## What is read is in the grammar -/

/-- Whether the values that are read with some fuel are values of the grammar. -/
def SoundValues (fuel : Nat) : Prop :=
  ∀ cs v rest, value fuel cs = .ok (v, rest) → Value .read cs v rest

/-- Whether what is read as the further items of an array is that in the grammar. -/
def SoundItems (fuel : Nat) : Prop :=
  ∀ read cs v rest, items fuel read cs = .ok (v, rest) →
    ∃ vs, Items .read cs vs rest ∧ v = .arr (read.reverse ++ vs)

/-- Whether what is read as the further members of an object is that in the grammar. -/
def SoundMembers (fuel : Nat) : Prop :=
  ∀ read cs v rest, members fuel read cs = .ok (v, rest) →
    ∃ ms, Members .read cs ms rest ∧ v = .obj (setMembers read ms)

/-- A blank text and what it leads to, where the reader goes on. -/
theorem blanks_of_skipSpace {left : List Char} (h : skipSpace cs = left) : Blanks cs left :=
  h ▸ blanks_skipSpace cs

theorem SoundItems.value (hitems : SoundItems fuel) (hmembers : SoundMembers fuel) :
    SoundValues (fuel + 1) := by
  intro cs v rest h
  rw [value.eq_def] at h
  dsimp only at h
  split at h
  · cases h
  rename_i c more
  split at h
  case isTrue hquote =>
    subst hquote
    cases hstring : string ('"' :: more) with
    | error fault => rw [hstring] at h; cases h
    | ok found =>
      rw [hstring] at h
      obtain ⟨rfl, rfl⟩ := Prod.mk.inj (Except.ok.inj h)
      obtain ⟨raw, hraw, rfl⟩ := string_sound hstring
      exact .string hraw
  split at h
  case isTrue hbrace =>
    subst hbrace
    split at h
    · rename_i after hskip
      obtain ⟨rfl, rfl⟩ := Prod.mk.inj (Except.ok.inj h)
      exact .noMembers (blanks_of_skipSpace hskip)
    · obtain ⟨ms, hms, rfl⟩ := hmembers _ _ _ _ h
      exact .members (blanks_skipSpace more) hms
  split at h
  case isTrue hbracket =>
    subst hbracket
    split at h
    · rename_i after hskip
      obtain ⟨rfl, rfl⟩ := Prod.mk.inj (Except.ok.inj h)
      exact .noItems (blanks_of_skipSpace hskip)
    · obtain ⟨vs, hvs, rfl⟩ := hitems _ _ _ _ h
      exact .items (blanks_skipSpace more) hvs
  split at h
  · rename_i hword
    obtain ⟨rfl⟩ := Except.ok.inj h
    obtain ⟨w, hw, hcs⟩ := word?_sound hword
    rw [hcs]
    exact .word hw
  · cases hnumber : number? (c :: more) with
    | none => rw [hnumber] at h; cases h
    | some result =>
      rw [hnumber, Option.getD_some] at h
      obtain ⟨text, hcs, htext⟩ := number?_sound (hnumber.trans (congrArg some h))
      rw [hcs]
      exact .number htext

theorem SoundValues.items (hvalues : SoundValues fuel) (hitems : SoundItems fuel) :
    SoundItems (fuel + 1) := by
  intro read cs v rest h
  rw [Json.items] at h
  split at h
  · cases h
  rename_i x left hx
  split at h
  · rename_i after hskip
    obtain ⟨rfl, rfl⟩ := Prod.mk.inj (Except.ok.inj h)
    exact ⟨[x], .last (hvalues _ _ _ hx) (blanks_of_skipSpace hskip), by rw [List.reverse_cons]⟩
  · rename_i after hskip
    obtain ⟨vs, hvs, rfl⟩ := hitems _ _ _ _ h
    refine ⟨x :: vs, .more (hvalues _ _ _ hx) (blanks_of_skipSpace hskip)
      (blanks_skipSpace after) hvs, ?_⟩
    rw [List.reverse_cons, List.append_assoc, List.singleton_append]
  · cases h

theorem SoundValues.members (hvalues : SoundValues fuel) (hmembers : SoundMembers fuel) :
    SoundMembers (fuel + 1) := by
  intro read cs v rest h
  rw [members.eq_def] at h
  dsimp only at h
  split at h
  case h_2 => cases h
  split at h
  · cases h
  rename_i more _ name left hstring
  obtain ⟨raw, hraw, rfl⟩ := string_sound hstring
  split at h
  case h_2 => cases h
  rename_i next hcolon
  split at h
  · cases h
  rename_i x after hx
  split at h
  · rename_i end' hend
    obtain ⟨rfl, rfl⟩ := Prod.mk.inj (Except.ok.inj h)
    exact ⟨[(name, x)], .last hraw (blanks_of_skipSpace hcolon) (blanks_skipSpace next)
      (hvalues _ _ _ hx) (blanks_of_skipSpace hend), rfl⟩
  · rename_i next' hcomma
    obtain ⟨ms, hms, rfl⟩ := hmembers _ _ _ _ h
    exact ⟨(name, x) :: ms, .more hraw (blanks_of_skipSpace hcolon) (blanks_skipSpace next)
      (hvalues _ _ _ hx) (blanks_of_skipSpace hcomma) (blanks_skipSpace next') hms, rfl⟩
  · cases h

/-- What is read is in the grammar: a value, an array from its next item on, and an object from its
next member on. -/
theorem read_sound : ∀ fuel : Nat, SoundValues fuel ∧ SoundItems fuel ∧ SoundMembers fuel
  | 0 =>
    ⟨fun _ _ _ h => (by cases h), fun _ _ _ _ h => (by cases h), fun _ _ _ _ h => (by cases h)⟩
  | fuel + 1 =>
    have ⟨hvalues, hitems, hmembers⟩ := read_sound fuel
    ⟨hitems.value hmembers, hvalues.items hitems, hvalues.members hmembers⟩

/-! ## What is in the grammar is read -/

/-- Whether the values of the grammar are read with some fuel, in texts that are short enough for
it. They leave no more text than they start with. -/
def CompleteValues (fuel : Nat) : Prop :=
  ∀ cs v rest, Value .read cs v rest → 2 * cs.length ≤ fuel →
    rest.length ≤ cs.length ∧ (Stops rest → value fuel cs = .ok (v, rest))

def CompleteItems (fuel : Nat) : Prop :=
  ∀ read cs vs rest, Items .read cs vs rest → 2 * cs.length + 1 ≤ fuel →
    rest.length ≤ cs.length ∧ items fuel read cs = .ok (.arr (read.reverse ++ vs), rest)

def CompleteMembers (fuel : Nat) : Prop :=
  ∀ read cs ms rest, Members .read cs ms rest → 2 * cs.length + 1 ≤ fuel →
    rest.length ≤ cs.length ∧ members fuel read cs = .ok (.obj (setMembers read ms), rest)

theorem value_word {w : String} (h : (w, v) ∈ words) (rest : List Char) (fuel : Nat) :
    value (fuel + 1) (w.toList ++ rest) = .ok (v, rest) := by
  have hword := word?_append h rest
  simp only [words, List.mem_cons, List.not_mem_nil, or_false, Prod.mk.injEq] at h
  rcases h with ⟨rfl, rfl⟩ | ⟨rfl, rfl⟩ | ⟨rfl, rfl⟩ | ⟨rfl, rfl⟩ | ⟨rfl, rfl⟩ | ⟨rfl, rfl⟩ <;> rfl

/-- What starts with a digit, or with a minus sign and a digit, is read as a number. -/
theorem value_digit (negative : Bool) {c : Char} (hc : isDigit c = true) (more : List Char)
    (fuel : Nat) : value (fuel + 1) (signOf negative ++ c :: more) =
      (number? (signOf negative ++ c :: more)).getD
        (.error (.malformed "Expecting value" (signOf negative ++ c :: more))) := by
  have hword := word?_digit negative hc more
  obtain ⟨first, tail, hfirst, hplain⟩ : ∃ first tail, signOf negative ++ c :: more =
      first :: tail ∧ first ≠ '"' ∧ first ≠ '\x7b' ∧ first ≠ '[' := by
    cases negative with
    | true => exact ⟨'-', _, rfl, by decide⟩
    | false =>
      exact ⟨c, _, rfl, ne_of_isDigit hc rfl, ne_of_isDigit hc rfl, ne_of_isDigit hc rfl⟩
  rw [hfirst] at hword ⊢
  rw [value, if_neg hplain.1, if_neg hplain.2.1, if_neg hplain.2.2, hword]

theorem value_number {text : List Char} (h : Number .read text v) (hrest : Stops rest)
    (fuel : Nat) : value (fuel + 1) (text ++ rest) = .ok (v, rest) := by
  have hnumber := h.number? hrest
  obtain ⟨negative, c, more, rfl, hc⟩ := h.head
  rw [List.append_assoc, List.cons_append] at hnumber ⊢
  rw [value_digit negative hc, hnumber, Option.getD_some]

theorem CompleteItems.value (hitems : CompleteItems fuel) (hmembers : CompleteMembers fuel) :
    CompleteValues (fuel + 1) := by
  intro cs v rest h hfuel
  cases h with
  | word h => exact ⟨by simp, fun _ => value_word h rest fuel⟩
  | number h => exact ⟨by simp, fun hrest => value_number h hrest fuel⟩
  | @string raw rest t h =>
    refine ⟨by simp only [List.length_cons, List.length_append]; omega, fun _ => ?_⟩
    rw [Json.value, if_pos rfl, h.string rest]
    rfl
  | noItems h =>
    have hlength := h.length_le
    rw [List.length_cons] at hlength
    refine ⟨by rw [List.length_cons]; omega, fun _ => ?_⟩
    rw [Json.value, if_neg (by decide), if_neg (by decide), if_pos rfl]
    simp only [skipSpace_eq h rfl]
  | @items more start rest vs hblanks h =>
    obtain ⟨c, tail, rfl, hspace, hc, -⟩ := h.head
    have hstart := hblanks.length_le
    rw [List.length_cons] at hfuel
    obtain ⟨hlength, hread⟩ := hitems [] _ _ _ h (by omega)
    refine ⟨by rw [List.length_cons]; omega, fun _ => ?_⟩
    rw [Json.value, if_neg (by decide), if_neg (by decide), if_pos rfl, skipSpace_eq hblanks hspace]
    split
    · rename_i heq
      exact absurd (List.cons.inj heq).1 hc
    · exact hread
  | noMembers h =>
    have hlength := h.length_le
    rw [List.length_cons] at hlength
    refine ⟨by rw [List.length_cons]; omega, fun _ => ?_⟩
    rw [Json.value, if_neg (by decide), if_pos rfl]
    simp only [skipSpace_eq h rfl]
  | @members more start rest ms hblanks h =>
    obtain ⟨tail, rfl⟩ := h.head
    have hstart := hblanks.length_le
    rw [List.length_cons] at hfuel
    obtain ⟨hlength, hread⟩ := hmembers [] _ _ _ h (by omega)
    refine ⟨by rw [List.length_cons]; omega, fun _ => ?_⟩
    rw [Json.value, if_neg (by decide), if_pos rfl, skipSpace_eq hblanks rfl]
    exact hread

theorem CompleteValues.items (hvalues : CompleteValues fuel) (hitems : CompleteItems fuel) :
    CompleteItems (fuel + 1) := by
  intro read cs vs rest h hfuel
  cases h with
  | @last _ after _ v h hend =>
    obtain ⟨hafter, hread⟩ := hvalues _ _ _ h (by omega)
    have hlength := hend.length_le
    rw [List.length_cons] at hlength
    refine ⟨by omega, ?_⟩
    rw [Json.items, hread (stops_of_blanks hend (.cons (by decide) _))]
    simp only [skipSpace_eq hend rfl, List.reverse_cons]
  | @more _ after next start _ v vs h hcomma hblanks hmore =>
    obtain ⟨hafter, hread⟩ := hvalues _ _ _ h (by omega)
    obtain ⟨c, tail, rfl, hspace, -, -⟩ := hmore.head
    have hnext := hcomma.length_le
    have hstart := hblanks.length_le
    rw [List.length_cons] at hnext
    obtain ⟨hrest, hmore⟩ := hitems (v :: read) _ _ _ hmore (by omega)
    refine ⟨by omega, ?_⟩
    rw [Json.items, hread (stops_of_blanks hcomma (.cons (by decide) _))]
    simp only [skipSpace_eq hcomma rfl, skipSpace_eq hblanks hspace, hmore, List.reverse_cons,
      List.append_assoc, List.singleton_append]

theorem CompleteValues.members (hvalues : CompleteValues fuel) (hmembers : CompleteMembers fuel) :
    CompleteMembers (fuel + 1) := by
  intro read cs ms rest h hfuel
  cases h with
  | @last raw colon next start after _ t v hname hcolon hblanks h hend =>
    simp only [List.length_cons, List.length_append] at hfuel ⊢
    obtain ⟨c, tail, rfl, hspace, -, -⟩ := h.head
    have hnext := hcolon.length_le
    have hstart := hblanks.length_le
    obtain ⟨hafter, hread⟩ := hvalues _ _ _ h (by simp only [List.length_cons] at *; omega)
    have hlength := hend.length_le
    simp only [List.length_cons] at *
    refine ⟨by omega, ?_⟩
    rw [Json.members, hname.string]
    simp only [skipSpace_eq hcolon rfl, skipSpace_eq hblanks hspace,
      hread (stops_of_blanks hend (.cons (by decide) _)), skipSpace_eq hend rfl]
    rfl
  | @more raw colon next start after next' start' _ t v ms hname hcolon hblanks h hcomma hblanks'
      hmore =>
    simp only [List.length_cons, List.length_append] at hfuel ⊢
    obtain ⟨c, tail, rfl, hspace, -, -⟩ := h.head
    obtain ⟨tail', rfl⟩ := hmore.head
    have hnext := hcolon.length_le
    have hstart := hblanks.length_le
    obtain ⟨hafter, hread⟩ := hvalues _ _ _ h (by simp only [List.length_cons] at *; omega)
    have hnext' := hcomma.length_le
    have hstart' := hblanks'.length_le
    obtain ⟨hrest, hmore⟩ := hmembers (setMember read (nameOf t) v) _ _ _ hmore
      (by simp only [List.length_cons] at *; omega)
    simp only [List.length_cons] at *
    refine ⟨by omega, ?_⟩
    rw [Json.members, hname.string]
    simp only [skipSpace_eq hcolon rfl, skipSpace_eq hblanks hspace,
      hread (stops_of_blanks hcomma (.cons (by decide) _)), skipSpace_eq hcomma rfl,
      skipSpace_eq hblanks' (show isSpace '"' = false from rfl), hmore]
    rfl

/-- What is in the grammar is read: a value, the further items of an array, and the further members
of an object. -/
theorem read_complete :
    ∀ fuel : Nat, CompleteValues fuel ∧ CompleteItems fuel ∧ CompleteMembers fuel
  | 0 => by
    refine ⟨fun cs v rest h hfuel => ?_, fun _ _ _ _ _ hfuel => ?_, fun _ _ _ _ _ hfuel => ?_⟩
    · obtain ⟨c, more, rfl, -⟩ := h.head
      cases hfuel
    · cases hfuel
    · cases hfuel
  | fuel + 1 =>
    have ⟨hvalues, hitems, hmembers⟩ := read_complete fuel
    ⟨hitems.value hmembers, hvalues.items hitems, hvalues.members hmembers⟩

/-- The texts that are read are those of the dialect, each as the value that it is written for. -/
theorem parse_iff {text : List Char} : parse text = .ok v ↔ Document .read text v := by
  constructor
  · intro h
    rw [parse.eq_def] at h
    split at h
    · cases h
    split at h
    · cases h
    rename_i x left hx
    split at h
    · rename_i hend
      obtain rfl := Except.ok.inj h
      exact ⟨skipSpace text, left, blanks_skipSpace text, (read_sound _).1 _ _ _ hx,
        blanks_of_skipSpace hend⟩
    · cases h
  · rintro ⟨start, after, hstart, h, hafter⟩
    obtain ⟨c, more, rfl, hspace, -, hmark⟩ := h.head
    have hlength := hstart.length_le
    obtain ⟨-, hread⟩ := (read_complete (2 * text.length + 2)).1 _ _ _ h (by omega)
    have hskip := skipSpace_eq hstart hspace
    have hplain : ∀ rest, text = '\uFEFF' :: rest → False := by
      rintro rest rfl
      rw [skipSpace_cons (by decide)] at hskip
      exact hmark (List.cons.inj hskip).1.symm
    obtain ⟨blank, hblank, rfl⟩ := hafter
    rw [parse.eq_2 _ hplain, hskip, hread (stops_of_blanks ⟨blank, hblank, rfl⟩ .nil)]
    simp only [skipSpace_append hblank]
    rfl

end StylePrune.Json
