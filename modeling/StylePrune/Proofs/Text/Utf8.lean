import StylePrune.Text.Point
import StylePrune.Text.Utf8

/-!
# Plain text in UTF-8

Text of ASCII characters has one byte for each, and is read back from its bytes
(`decode_encode_ascii`). Without carriage returns its line ends stay as they are
(`plainLines_eq_self`), and with plain line ends it has none (`not_mem_plainLines`).

A text is plain if it holds no surrogate (`Text.isPlain`). Just then it can be encoded, as the text
of a string (`isOk_toString?`, `eq_ofString_of_toString?`).
-/

namespace StylePrune.Utf8

theorem toList_loop (bytes : ByteArray) (i : Nat) (read : List UInt8) :
    ByteArray.toList.loop bytes i read = read.reverse ++ bytes.data.toList.drop i := by
  fun_induction ByteArray.toList.loop bytes i read with
  | case1 i read hlt ih =>
    have hi : i < bytes.data.toList.length := by simpa using hlt
    have hget : bytes.get! i = bytes.data.toList[i] := by
      simp only [ByteArray.get!, Array.getElem_toList]
      exact getElem!_pos bytes.data i (by simpa using hlt)
    rw [ih, List.drop_eq_getElem_cons hi, hget]
    simp
  | case2 i read hge =>
    have hi : bytes.data.toList.length ≤ i := by simpa using hge
    rw [List.drop_eq_nil_of_le hi, List.append_nil]

theorem encode_eq (text : String) : encode text = text.toList.flatMap String.utf8EncodeChar := by
  have hbytes : text.toByteArray = (text.toList.flatMap String.utf8EncodeChar).toByteArray := by
    conv => lhs; rw [← String.ofList_toList (s := text), String.toByteArray_ofList]
    rfl
  rw [encode, String.toUTF8, ByteArray.toList, toList_loop, hbytes, List.toList_data_toByteArray]
  rfl

/-- A character of ASCII is its own byte. -/
theorem decodeStrictFrom_ascii {cs : List Char} (h : ∀ c ∈ cs, c.toNat < 128) (position : Nat) :
    decodeStrictFrom position 0 (cs.flatMap String.utf8EncodeChar) = .ok cs := by
  induction cs generalizing position with
  | nil => rfl
  | cons c cs ih =>
    obtain ⟨hc, hcs⟩ := List.forall_mem_cons.1 h
    have hbyte : String.utf8EncodeChar c = [UInt8.ofNat c.toNat] := by
      rw [String.utf8EncodeChar, if_pos (show c.val.toNat ≤ 127 from Nat.le_of_lt_succ hc)]
      rfl
    have hnat : (UInt8.ofNat c.toNat).toNat = c.toNat := by
      rw [UInt8.toNat_ofNat', Nat.mod_eq_of_lt (by omega)]
    have hread : ∀ rest, read (UInt8.ofNat c.toNat) rest = .char c.toNat 1 := fun rest => by
      unfold read
      rw [if_pos (UInt8.lt_iff_toNat_lt.2 (by rw [hnat]; exact hc)), hnat]
    rw [List.flatMap_cons, hbyte, List.singleton_append, decodeStrictFrom, hread]
    simp only [Nat.sub_self]
    rw [ih hcs, Char.ofNat_toNat]
    rfl

theorem decode_encode_ascii {text : String} (h : ∀ c ∈ text.toList, c.toNat < 128) :
    decode (encode text) = .ok text.toList := by
  rw [encode_eq, decode, decodeStrictFrom_ascii h]

theorem plainLines_eq_self {cs : List Char} (h : '\r' ∉ cs) : plainLines cs = cs := by
  induction cs with
  | nil => rfl
  | cons c cs ih =>
    rw [List.mem_cons, not_or] at h
    rw [plainLines, ih h.2]
    · rintro rest rfl
      exact absurd rfl h.1
    · rintro rfl
      exact absurd rfl h.1

theorem not_mem_plainLines (cs : List Char) : '\r' ∉ plainLines cs := by
  fun_induction plainLines cs with
  | case1 rest ih | case2 rest _ ih => simp [ih]
  | case3 c rest _ hc ih =>
    rw [List.mem_cons, not_or]
    exact ⟨fun h => hc h.symm, ih⟩
  | case4 => simp

end StylePrune.Utf8

namespace StylePrune

/-! ## Texts that can be encoded -/

def Point.isChar : Point → Bool
  | .char _ => true
  | .surrogate _ => false

namespace Text

/-- A text without surrogates. -/
def isPlain (t : Text) : Bool := t.all Point.isChar

theorem isPlain_append (a b : Text) : (a ++ b).isPlain = (a.isPlain && b.isPlain) := List.all_append

theorem isPlain_ofChars (cs : List Char) : (ofChars cs).isPlain = true := by
  rw [isPlain, ofChars, List.all_map]
  exact List.all_eq_true.2 fun _ _ => rfl

theorem isPlain_ofString (s : String) : (ofString s).isPlain = true := isPlain_ofChars s.toList

/-- Texts without surrogates are those that can be encoded. -/
theorem isOk_toString? (t : Text) : (toString? t).isOk = t.isPlain := by
  have hfrom : ∀ (t : Text) (index : Nat), (toCharsFrom? index t).isOk = t.isPlain := by
    intro t
    induction t with
    | nil => exact fun _ => rfl
    | cons p rest ih =>
      intro index
      cases p with
      | surrogate offset => rfl
      | char c =>
        have hrest : isPlain (.char c :: rest) = isPlain rest := rfl
        rw [toCharsFrom?, hrest, ← ih (index + 1)]
        cases toCharsFrom? (index + 1) rest <;> rfl
  rw [toString?, ← hfrom t 0]
  cases toCharsFrom? 0 t <;> rfl

/-- A text that can be encoded is the one of its string. -/
theorem eq_ofString_of_toString? {t : Text} {s : String} (h : toString? t = .ok s) :
    t = ofString s := by
  have hfrom : ∀ (t : Text) (index : Nat) (cs : List Char),
      toCharsFrom? index t = .ok cs → t = ofChars cs := by
    intro t
    induction t with
    | nil =>
      rintro index cs ⟨⟩
      rfl
    | cons p rest ih =>
      intro index cs h
      cases p with
      | surrogate offset => cases h
      | char c =>
        rw [toCharsFrom?] at h
        cases hrest : toCharsFrom? (index + 1) rest with
        | error e => rw [hrest] at h; cases h
        | ok more =>
          rw [hrest] at h
          obtain rfl := Except.ok.inj h
          rw [ih _ _ hrest]
          rfl
  rw [toString?] at h
  cases hcs : toCharsFrom? 0 t with
  | error e => rw [hcs] at h; cases h
  | ok cs =>
    rw [hcs] at h
    obtain rfl := Except.ok.inj h
    rw [hfrom t 0 cs hcs, ofString, String.toList_ofList]

end Text

end StylePrune
