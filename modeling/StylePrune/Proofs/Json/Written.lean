import StylePrune.Proofs.Json.Strings

/-!
# The characters of written JSON

A value without floating-point numbers and dates, the objects of which name each member once, is
`Exact`. Its text holds ASCII characters only and no carriage return (`Exact.allWritten`).
-/

namespace StylePrune.Json

/-- Values that their text determines. -/
inductive Exact : Json → Prop where
  | null : Exact .null
  | bool (b : Bool) : Exact (.bool b)
  | int {n : Int} (h : (Nat.toDigits 10 n.natAbs).length ≤ Decimal.maxDigits) : Exact (.int n)
  | str (s : String) : Exact (.str s)
  | arr {items : List Json} (h : ∀ v ∈ items, Exact v) : Exact (.arr items)
  | obj {members : List (String × Json)} (names : (members.map Prod.fst).Nodup)
      (h : ∀ m ∈ members, Exact m.2) : Exact (.obj members)

theorem Exact.strings (xs : List String) : Exact (Json.strings xs) :=
  .arr fun v hv => by
    obtain ⟨s, -, rfl⟩ := List.mem_map.1 hv
    exact .str s

theorem print_int (indent : Option Nat) (n : Int) : (print indent (.int n)).toList =
    (if n < 0 then ['-'] else []) ++ Nat.toDigits 10 n.natAbs := by
  rw [print, Int.toString_eq_repr, Int.repr_eq_if]
  split
  · rw [if_neg (by omega), Nat.toList_repr, show n.toNat = n.natAbs by omega]
    rfl
  · rw [if_pos (by omega), String.toList_append, Nat.toList_repr,
      show (-n).toNat = n.natAbs by omega]
    simp

/-- The characters of written values: ASCII, and no carriage return. -/
def isWritten (c : Char) : Bool := c.toNat < 128 && c ≠ '\r'

theorem isWritten_of_printable {c : Char} (h : 32 ≤ c.toNat ∧ c.toNat < 127) :
    isWritten c = true := by
  rw [isWritten, Bool.and_eq_true, decide_eq_true_eq, decide_eq_true_eq]
  exact ⟨by omega, by rintro rfl; exact absurd h (by decide)⟩

theorem isWritten_of_isDigit {c : Char} (h : c.isDigit = true) : isWritten c = true := by
  simp only [Char.isDigit, Bool.and_eq_true, decide_eq_true_eq, UInt32.le_iff_toNat_le] at h
  exact isWritten_of_printable
    ⟨Nat.le_trans (by decide) h.1, Nat.lt_of_le_of_lt h.2 (by decide)⟩

theorem isWritten_hex4 {n : Nat} (h : n < 65536) : (hex4 n).all isWritten = true := by
  have digit : ∀ d < 16, isWritten (Nat.digitChar d) = true := by decide
  rw [hex4_eq h, hexDigits4]
  simp only [List.all_cons, digit _ (show n / 4096 < 16 by omega),
    digit _ (show n / 256 % 16 < 16 by omega), digit _ (show n / 16 % 16 < 16 by omega),
    digit _ (show n % 16 < 16 by omega)]
  rfl

theorem isWritten_escaped (c : Char) : (escapedPoint (.char c)).all isWritten = true := by
  have numbered : (numberedEscape c.toNat).all isWritten = true := by
    have hvalid : c.toNat < 0xD800 ∨ 0xDFFF < c.toNat ∧ c.toNat < 0x110000 := c.valid
    unfold numberedEscape
    split
    · exact isWritten_hex4 (by omega)
    · rw [List.all_append, isWritten_hex4 (by omega), isWritten_hex4 (by omega)]
      rfl
  unfold escapedPoint
  split
  case h_8 h =>
    cases h
    split
    · rename_i hc
      rw [List.all_cons, isWritten_of_printable hc]
      rfl
    · exact numbered
  case h_9 => exact numbered
  all_goals rfl

/-- A text of such characters. -/
def AllWritten (s : String) : Prop := s.toList.all isWritten = true

instance (s : String) : Decidable (AllWritten s) := inferInstanceAs (Decidable (_ = _))

theorem AllWritten.append {s t : String} (hs : AllWritten s) (ht : AllWritten t) :
    AllWritten (s ++ t) := by
  rw [AllWritten, String.toList_append, List.all_append, hs, ht]
  rfl

theorem AllWritten.quotedString (s : String) : AllWritten (quotedString s) := by
  have htext := quotedString_toList s []
  have hinner : ((Text.ofString s).flatMap escapedPoint).all isWritten = true := by
    rw [List.all_flatMap, Text.ofString, Text.ofChars, List.all_map]
    exact List.all_eq_true.2 fun c _ => isWritten_escaped c
  rw [List.append_nil] at htext
  rw [AllWritten, htext, List.all_cons, List.all_append, hinner]
  rfl

theorem AllWritten.lineBreak (indent : Option Nat) : AllWritten (lineBreak indent) := by
  cases indent with
  | none => decide
  | some n =>
    rw [Json.lineBreak]
    refine .append (by decide) ?_
    rw [AllWritten, String.toList_ofList, List.all_replicate]
    split <;> rfl

theorem AllWritten.printItems (indent : Option Nat) {items : List Json}
    (h : ∀ v ∈ items, AllWritten (print indent v)) : AllWritten (printItems indent items) := by
  induction items with
  | nil => rw [Json.printItems]; decide
  | cons item rest ih =>
    obtain ⟨hitem, hrest⟩ := List.forall_mem_cons.1 h
    rw [Json.printItems]
    refine .append (.append (.append ?_ (.lineBreak indent)) hitem) (ih hrest)
    split <;> decide

theorem AllWritten.printMembers (indent : Option Nat) {members : List (String × Json)}
    (h : ∀ m ∈ members, AllWritten (print indent m.2)) (first : Bool) :
    AllWritten (printMembers indent first members) := by
  induction members generalizing first with
  | nil => rw [Json.printMembers]; decide
  | cons m rest ih =>
    obtain ⟨hm, hrest⟩ := List.forall_mem_cons.1 h
    rw [Json.printMembers]
    refine .append (.append (.append (.append (.append ?_ (.lineBreak indent))
      (.quotedString m.1)) (by decide)) hm) (ih hrest false)
    split
    · decide
    · split <;> decide

/-- An exact value is written in ASCII, without a carriage return. -/
theorem Exact.allWritten {v : Json} (h : Exact v) (indent : Option Nat) :
    AllWritten (print indent v) := by
  induction h generalizing indent with
  | null => rw [print]; decide
  | bool b => cases b <;> rw [print] <;> decide
  | @int n h =>
    rw [AllWritten, print_int, List.all_append, Bool.and_eq_true]
    refine ⟨by split <;> rfl, List.all_eq_true.2 fun c hc => ?_⟩
    exact isWritten_of_isDigit (Nat.isDigit_of_mem_toDigits (by decide) (by decide) hc)
  | str s => rw [print]; exact .quotedString s
  | @arr items h ih =>
    cases items with
    | nil => rw [print]; decide
    | cons item rest =>
      rw [print]
      exact .append (.append (.append (.append (.append (by decide) (.lineBreak _))
        (ih item List.mem_cons_self _))
        (.printItems _ fun v hv => ih v (List.mem_cons_of_mem _ hv) _)) (.lineBreak _)) (by decide)
  | @obj members names h ih =>
    cases members with
    | nil => rw [print]; decide
    | cons m rest =>
      rw [print]
      exact .append (.append (.append (by decide) (.printMembers _ (fun m hm => ih m hm _) true))
        (.lineBreak _)) (by decide)

end StylePrune.Json
