import StylePrune.Json.Printer
import StylePrune.Proofs.Json.Grammar

/-!
# Strings in JSON

What is read as a string is one of the grammar (`string_sound`), and every string of the grammar is
read (`StringBody.string`), be its characters escaped by number (`numberedChar_unit`) or by a pair
of surrogates (`numberedChar_pair`). What is written for a string is in the grammar
(`stringBody_ofChars`). Names of members that are no strings stay apart (`nameOf_inj`).
-/

namespace StylePrune.Json

/-! ## Hexadecimal digits -/

theorem hexValue?_digitChar : ∀ d < 16, hexValue? (Nat.digitChar d) = some d := by decide

/-- The four digits of a number of sixteen bits. -/
def hexDigits4 (n : Nat) : List Char :=
  [Nat.digitChar (n / 4096), Nat.digitChar (n / 256 % 16), Nat.digitChar (n / 16 % 16),
    Nat.digitChar (n % 16)]

theorem hex4_eq {n : Nat} (h : n < 65536) : hex4 n = '\\' :: 'u' :: hexDigits4 n := by
  have more {m : Nat} (hm : 16 ≤ m) :
      Nat.toDigits 16 m = Nat.toDigits 16 (m / 16) ++ [Nat.digitChar (m % 16)] :=
    Nat.toDigits_of_base_le (by decide) hm
  have last {m : Nat} (hm : m < 16) : Nat.toDigits 16 m = [Nat.digitChar m] :=
    Nat.toDigits_of_lt_base hm
  have zero {m : Nat} (hm : m = 0) : Nat.digitChar m = '0' := by rw [hm]; rfl
  have divide (m : Nat) : n / 16 / 16 = n / 256 ∧ n / 256 / 16 = n / 4096 := by
    simp only [Nat.div_div_eq_div_mul, Nat.reduceMul, and_self]
  rw [hex4, hexDigits4]
  by_cases h1 : n < 16
  · rw [last h1, zero (show n / 4096 = 0 by omega), zero (show n / 256 % 16 = 0 by omega),
      zero (show n / 16 % 16 = 0 by omega), Nat.mod_eq_of_lt h1]
    rfl
  rw [more (by omega)]
  by_cases h2 : n / 16 < 16
  · rw [last h2, zero (show n / 4096 = 0 by omega), zero (show n / 256 % 16 = 0 by omega),
      Nat.mod_eq_of_lt h2]
    rfl
  rw [more (by omega), (divide n).1]
  by_cases h3 : n / 256 < 16
  · rw [last h3, zero (show n / 4096 = 0 by omega), Nat.mod_eq_of_lt h3]
    rfl
  rw [more (by omega), (divide n).2, last (show n / 4096 < 16 by omega)]
  rfl

theorem hexUnit_digits {n : Nat} (h : n < 65536) : HexUnit (hexDigits4 n) n := by
  have hn : n = n / 4096 * 4096 + n / 256 % 16 * 256 + n / 16 % 16 * 16 + n % 16 := by omega
  have hunit := HexUnit.intro (hexValue?_digitChar (n / 4096) (by omega))
    (hexValue?_digitChar (n / 256 % 16) (by omega)) (hexValue?_digitChar (n / 16 % 16) (by omega))
    (hexValue?_digitChar (n % 16) (by omega))
  rwa [← hn] at hunit

theorem hexUnit?_sound {cs rest : List Char} {n : Nat} (h : hexUnit? cs = some (n, rest)) :
    ∃ ds, HexUnit ds n ∧ cs = ds ++ rest := by
  unfold hexUnit? at h
  split at h
  · rename_i a b c d e more
    split at h
    · rename_i ha hb hc hd
      obtain ⟨rfl, rfl⟩ := Prod.mk.inj (Option.some.inj h)
      exact ⟨[a, b, c, d], .intro ha hb hc hd, rfl⟩
    · cases h
  · cases h

theorem HexUnit.hexUnit? {ds : List Char} {n : Nat} (h : HexUnit ds n) (c : Char)
    (more : List Char) : hexUnit? (ds ++ c :: more) = some (n, c :: more) := by
  cases h with
  | intro ha hb hc hd =>
    simp only [List.cons_append, List.nil_append, Json.hexUnit?, ha, hb, hc, hd]

theorem HexUnit.length {ds : List Char} {n : Nat} (h : HexUnit ds n) : ds.length = 4 := by
  cases h
  rfl

/-! ## Characters by number -/

theorem Point.ofCode_toNat (c : Char) : Point.ofCode c.toNat = .char c := by
  have hc : c.toNat < 0xD800 ∨ 0xDFFF < c.toNat ∧ c.toNat < 0x110000 := c.valid
  rw [Point.ofCode, dif_neg (by omega), if_pos (by omega), Char.ofNat_toNat]

/-- Two surrogates that belong together make one character. -/
theorem numberedChar_pair {high low : List Char} {m n : Nat} (hhigh : HexUnit high m)
    (hm : IsHigh m) (hlow : HexUnit low n) (hn : IsLow n) (d : Char) (after : List Char) :
    numberedChar ('u' :: (high ++ '\\' :: 'u' :: (low ++ d :: after))) =
      .ok (.ofCode (0x10000 + (m - 0xD800) * 0x400 + (n - 0xDC00)), d :: after) := by
  have hlong : ¬ (low ++ d :: after).length < 5 := by
    rw [List.length_append, hlow.length, List.length_cons]
    omega
  rw [numberedChar, List.drop_succ_cons, List.drop_zero, hhigh.hexUnit?]
  simp only [if_pos (show 0xD800 ≤ m ∧ m < 0xDC00 from hm), if_neg hlong]
  rw [hlow.hexUnit?]
  exact if_pos hn

/-- What is left before the closing quote of a string starts with some character. -/
theorem exists_cons_of_quote (raw left : List Char) :
    ∃ c rest, raw ++ '"' :: left = c :: rest :=
  List.exists_cons_of_ne_nil (List.append_ne_nil_of_right_ne_nil raw (List.cons_ne_nil '"' left))

/-- A string that goes on with `\u` goes on with the digits of a number. -/
theorem StringBody.starts {raw left more : List Char} {t : Text} (h : StringBody raw t)
    (heq : raw ++ '"' :: left = '\\' :: 'u' :: more) :
    ∃ ds n after, HexUnit ds n ∧ raw = '\\' :: 'u' :: (ds ++ after) := by
  cases h with
  | nil => cases heq
  | plain _ hescape _ _ => exact absurd (List.cons.inj heq).1 hescape
  | simple he _ =>
    rw [(List.cons.inj (List.cons.inj heq).2).1] at he
    cases he
  | pair hhigh _ _ _ _ => exact ⟨_, _, _, hhigh, rfl⟩
  | unit hds _ _ => exact ⟨_, _, _, hds, rfl⟩

theorem numberedChar_unit {ds raw : List Char} {n : Nat} {t : Text} (hds : HexUnit ds n)
    (hn : IsHigh n → ¬ StartsLow raw) (h : StringBody raw t) (left : List Char) :
    numberedChar ('u' :: (ds ++ (raw ++ '"' :: left))) = .ok (.ofCode n, raw ++ '"' :: left) := by
  obtain ⟨c, rest, hrest⟩ := exists_cons_of_quote raw left
  rw [numberedChar, List.drop_succ_cons, List.drop_zero, hrest, hds.hexUnit?]
  by_cases hhigh : 0xD800 ≤ n ∧ n < 0xDC00
  · simp only [if_pos hhigh]
    split
    · rename_i heq
      obtain ⟨low, k, after, hlow, rfl⟩ := h.starts (hrest.trans heq)
      have hnot : ¬ (0xDC00 ≤ k ∧ k < 0xE000) := fun hk => hn hhigh ⟨low, k, after, hlow, hk, rfl⟩
      split
      · rfl
      obtain ⟨d, tail, htail⟩ := exists_cons_of_quote after left
      rw [← hrest] at heq
      simp only [List.cons_append, List.append_assoc, List.cons.injEq, true_and] at heq
      rw [← heq, htail, hlow.hexUnit?]
      exact if_neg hnot
    · rfl
  · simp only [if_neg hhigh]

theorem numberedChar_sound {cs rest : List Char} {p : Point}
    (h : numberedChar ('u' :: cs) = .ok (p, rest)) : ∃ ds n, HexUnit ds n ∧
      (cs = ds ++ rest ∧ p = .ofCode n ∨
        IsHigh n ∧ ∃ low k, HexUnit low k ∧ IsLow k ∧
          cs = ds ++ '\\' :: 'u' :: (low ++ rest) ∧
          p = .ofCode (0x10000 + (n - 0xD800) * 0x400 + (k - 0xDC00))) := by
  have single {ds after : List Char} {n : Nat} (hds : HexUnit ds n) (hcs : cs = ds ++ after)
      (h : (Except.ok (Point.ofCode n, after) : Result Point) = .ok (p, rest)) :
      cs = ds ++ rest ∧ p = .ofCode n := by
    obtain ⟨rfl, rfl⟩ := Prod.mk.inj (Except.ok.inj h)
    exact ⟨hcs, rfl⟩
  rw [numberedChar, List.drop_succ_cons, List.drop_zero] at h
  split at h
  · cases h
  rename_i n after hunit
  obtain ⟨ds, hds, hcs⟩ := hexUnit?_sound hunit
  refine ⟨ds, n, hds, ?_⟩
  split at h
  case isFalse => exact .inl (single hds hcs h)
  case isTrue hn =>
    split at h
    case h_2 => exact .inl (single hds hcs h)
    case h_1 more =>
      split at h
      · exact .inl (single hds hcs h)
      split at h
      · cases h
      rename_i k left hsecond
      split at h
      case isFalse => exact .inl (single hds hcs h)
      case isTrue hk =>
        obtain ⟨low, hlow, rfl⟩ := hexUnit?_sound hsecond
        obtain ⟨rfl, rfl⟩ := Prod.mk.inj (Except.ok.inj h)
        exact .inr ⟨hn, low, k, hlow, hk, hcs, rfl⟩

/-! ## Strings -/

theorem stringRest_numbered {start more after : List Char} {p : Point}
    (h : numberedChar ('u' :: more) = .ok (p, after)) (fuel : Nat) (read : Text) :
    stringRest start (fuel + 1) read ('\\' :: 'u' :: more) =
      stringRest start fuel (p :: read) after := by
  rw [stringRest, if_neg (by decide), if_pos rfl]
  simp only [if_true, h]

theorem stringRest_simple {start after : List Char} {e c : Char} (h : simpleEscape? e = some c)
    (fuel : Nat) (read : Text) : stringRest start (fuel + 1) read ('\\' :: e :: after) =
      stringRest start fuel (.char c :: read) after := by
  have he : e ≠ 'u' := by
    rintro rfl
    cases h
  rw [stringRest, if_neg (by decide), if_pos rfl]
  simp only [if_neg he, h]

theorem stringRest_plain {start after : List Char} {c : Char} (hquote : c ≠ '"')
    (hescape : c ≠ '\\') (hcontrol : 0x1F < c.toNat) (fuel : Nat) (read : Text) :
    stringRest start (fuel + 1) read (c :: after) =
      stringRest start fuel (.char c :: read) after := by
  rw [stringRest.eq_def]
  exact (if_neg hquote).trans ((if_neg hescape).trans (if_neg (Nat.not_le.2 hcontrol)))

/-- The rest of a string is read up to its closing quote. -/
theorem StringBody.stringRest {raw : List Char} {t : Text} (h : StringBody raw t)
    (start left : List Char) : ∀ (fuel : Nat) (read : Text), raw.length < fuel →
      stringRest start fuel read (raw ++ '"' :: left) = .ok (read.reverse ++ t, left) := by
  have hread (p : Point) (t read : Text) : (p :: read).reverse ++ t = read.reverse ++ p :: t := by
    rw [List.reverse_cons, List.append_assoc, List.singleton_append]
  induction h with
  | nil =>
    rintro (_ | fuel) read hfuel
    · cases hfuel
    · rw [List.append_nil]
      exact if_pos rfl
  | plain hquote hescape hcontrol _ ih =>
    rintro (_ | fuel) read hfuel
    · cases hfuel
    · rw [List.cons_append, stringRest_plain hquote hescape hcontrol,
        ih fuel _ (Nat.lt_of_succ_lt_succ hfuel), hread]
  | simple he _ ih =>
    rintro (_ | fuel) read hfuel
    · cases hfuel
    · rw [List.length_cons, List.length_cons] at hfuel
      rw [List.cons_append, List.cons_append, stringRest_simple he, ih fuel _ (by omega), hread]
  | @pair high low raw _ _ _ hhigh hm hlow hn _ ih =>
    rintro (_ | fuel) read hfuel
    · cases hfuel
    · simp only [List.length_cons, List.length_append] at hfuel
      obtain ⟨d, after, hafter⟩ := exists_cons_of_quote raw left
      have hpair := numberedChar_pair hhigh hm hlow hn d after
      rw [← hafter] at hpair
      simp only [List.cons_append, List.append_assoc]
      rw [stringRest_numbered hpair, ih fuel _ (by omega), hread]
  | unit hds hn h ih =>
    rintro (_ | fuel) read hfuel
    · cases hfuel
    · simp only [List.length_cons, List.length_append] at hfuel
      simp only [List.cons_append, List.append_assoc]
      rw [stringRest_numbered (numberedChar_unit hds hn h left), ih fuel _ (by omega), hread]

/-- A character that is read by number goes in front of the body behind it. -/
theorem StringBody.numbered {raw left more : List Char} {p : Point} {t : Text}
    (h : StringBody raw t) (hchar : numberedChar ('u' :: more) = .ok (p, raw ++ '"' :: left)) :
    ∃ raw', StringBody ('\\' :: 'u' :: raw') (p :: t) ∧ more = raw' ++ '"' :: left := by
  obtain ⟨ds, n, hds, ⟨hmore, hp⟩ | ⟨hn, low, k, hlow, hk, hmore, hp⟩⟩ := numberedChar_sound hchar
  · rw [hp]
    refine ⟨ds ++ raw, .unit hds ?_ h, by rw [hmore, List.append_assoc]⟩
    -- If the escape of a low surrogate followed, the two would have been read as a pair.
    rintro hn ⟨low, k, after, hlow, hk, rfl⟩
    obtain ⟨d, tail, htail⟩ := exists_cons_of_quote after left
    have hpair := numberedChar_pair hds hn hlow hk d tail
    simp only [hmore, List.cons_append, List.append_assoc, htail] at hchar
    rw [hpair] at hchar
    have hlength := congrArg List.length (Prod.mk.inj (Except.ok.inj hchar)).2
    simp only [List.length_cons, List.length_append] at hlength
    omega
  · rw [hp]
    exact ⟨ds ++ '\\' :: 'u' :: (low ++ raw), .pair hds hn hlow hk h, by rw [hmore]; simp⟩

theorem stringRest_sound {start : List Char} : ∀ (fuel : Nat) (read : Text) (cs left : List Char)
    (t : Text), stringRest start fuel read cs = .ok (t, left) →
      ∃ raw body, StringBody raw body ∧ cs = raw ++ '"' :: left ∧ t = read.reverse ++ body := by
  intro fuel
  induction fuel with
  | zero =>
    intro read cs left t h
    cases h
  | succ fuel ih =>
    intro read cs left t h
    -- What is left behind one more point is a body by induction, and the point goes in front.
    have next {p : Point} {rest : List Char}
        (h : stringRest start fuel (p :: read) rest = .ok (t, left)) :
        ∃ raw body, StringBody raw body ∧ rest = raw ++ '"' :: left ∧
          t = read.reverse ++ p :: body := by
      obtain ⟨raw, body, hbody, hrest, ht⟩ := ih _ _ _ _ h
      refine ⟨raw, body, hbody, hrest, ?_⟩
      rw [ht, List.reverse_cons, List.append_assoc, List.singleton_append]
    cases cs with
    | nil => cases h
    | cons c rest =>
      rw [stringRest.eq_def] at h
      dsimp only at h
      split at h
      case isTrue hc =>
        obtain ⟨rfl, rfl⟩ := Prod.mk.inj (Except.ok.inj h)
        exact ⟨[], [], .nil, congrArg (· :: rest) hc, (List.append_nil _).symm⟩
      case isFalse hquote =>
        split at h
        case isFalse hescape =>
          split at h
          · cases h
          rename_i hcontrol
          obtain ⟨raw, body, hbody, rfl, ht⟩ := next h
          exact ⟨c :: raw, .char c :: body, .plain hquote hescape (Nat.lt_of_not_le hcontrol) hbody,
            rfl, ht⟩
        case isTrue hescape =>
          subst hescape
          split at h
          · cases h
          rename_i e more
          split at h
          case isFalse =>
            split at h
            · rename_i c he
              obtain ⟨raw, body, hbody, rfl, ht⟩ := next h
              exact ⟨'\\' :: e :: raw, .char c :: body, .simple he hbody, rfl, ht⟩
            · cases h
          case isTrue he =>
            subst he
            split at h
            · cases h
            rename_i p after hchar
            obtain ⟨raw, body, hbody, rfl, ht⟩ := next h
            obtain ⟨raw', hbody', rfl⟩ := hbody.numbered hchar
            exact ⟨'\\' :: 'u' :: raw', p :: body, hbody', rfl, ht⟩

/-- A string of the grammar is read, whatever follows it. -/
theorem StringBody.string {raw : List Char} {t : Text} (h : StringBody raw t) (left : List Char) :
    string ('"' :: (raw ++ '"' :: left)) = .ok (t, left) := by
  rw [Json.string, List.drop_succ_cons, List.drop_zero, h.stringRest _ _ _ _ (by
    rw [List.length_cons, List.length_append]
    omega)]
  rfl

/-- A string that is read is one of the grammar. -/
theorem string_sound {cs left : List Char} {t : Text} (h : string ('"' :: cs) = .ok (t, left)) :
    ∃ raw, StringBody raw t ∧ cs = raw ++ '"' :: left := by
  obtain ⟨raw, body, hbody, hcs, ht⟩ := stringRest_sound _ _ _ _ _ h
  exact ⟨raw, ht ▸ hbody, hcs⟩

/-! ## Written strings -/

theorem StringBody.escaped {raw : List Char} {t : Text} (h : StringBody raw t) (c : Char) :
    StringBody (escapedPoint (.char c) ++ raw) (.char c :: t) := by
  have numbered : StringBody (numberedEscape c.toNat ++ raw) (.char c :: t) := by
    have hvalid : c.toNat < 0xD800 ∨ 0xDFFF < c.toNat ∧ c.toNat < 0x110000 := c.valid
    unfold numberedEscape
    split
    · rename_i hc
      rw [hex4_eq (by omega), ← Point.ofCode_toNat c]
      refine .unit (hexUnit_digits (by omega)) (fun hhigh => ?_) h
      rw [IsHigh] at hhigh
      omega
    · rename_i hc
      have hcode : c.toNat = 0x10000 + (0xD800 + (c.toNat - 0x10000) / 0x400 - 0xD800) * 0x400 +
          (0xDC00 + (c.toNat - 0x10000) % 0x400 - 0xDC00) := by omega
      have hpair := StringBody.pair
        (hexUnit_digits (n := 0xD800 + (c.toNat - 0x10000) / 0x400) (by omega))
        (by rw [IsHigh]; omega)
        (hexUnit_digits (n := 0xDC00 + (c.toNat - 0x10000) % 0x400) (by omega))
        (by rw [IsLow]; omega) h
      rw [← hcode, Point.ofCode_toNat] at hpair
      simp only
      rw [hex4_eq (by omega), hex4_eq (by omega), List.append_assoc]
      exact hpair
  unfold escapedPoint
  split
  case h_1 e => cases e; exact .simple rfl h
  case h_2 e => cases e; exact .simple rfl h
  case h_3 e => cases e; exact .simple rfl h
  case h_4 e => cases e; exact .simple rfl h
  case h_5 e => cases e; exact .simple rfl h
  case h_6 e => cases e; exact .simple rfl h
  case h_7 e => cases e; exact .simple rfl h
  case h_8 x hquote hescape _ _ _ _ _ e =>
    cases e
    split
    · rename_i hc
      exact .plain (fun e => hquote (by rw [e])) (fun e => hescape (by rw [e])) (by omega) h
    · exact numbered
  case h_9 => exact numbered

theorem stringBody_ofChars (cs : List Char) :
    StringBody ((Text.ofChars cs).flatMap escapedPoint) (Text.ofChars cs) := by
  induction cs with
  | nil => exact .nil
  | cons c cs ih => exact ih.escaped c

theorem toCharsFrom?_ofChars (cs : List Char) :
    ∀ index, Text.toCharsFrom? index (Text.ofChars cs) = .ok cs := by
  induction cs with
  | nil => exact fun _ => rfl
  | cons c cs ih => exact fun index => congrArg (Except.map (c :: ·)) (ih (index + 1))

theorem ofText_ofString (s : String) : ofText (Text.ofString s) = .str s := by
  rw [ofText, Text.toString?, Text.ofString, toCharsFrom?_ofChars]
  exact congrArg Json.str String.ofList_toList

theorem nameOf_ofString (s : String) : nameOf (Text.ofString s) = s := by
  rw [nameOf, Text.toString?, Text.ofString, toCharsFrom?_ofChars]
  exact String.ofList_toList

theorem quotedString_toList (s : String) (after : List Char) :
    (quotedString s).toList ++ after =
      '"' :: ((Text.ofString s).flatMap escapedPoint ++ '"' :: after) := by
  simp [quotedString, quoted]

/-! ## Names of members -/

theorem toDigits_eq_hexDigits4 {n : Nat} (hn : 4096 ≤ n) (h : n < 65536) :
    Nat.toDigits 16 n = hexDigits4 n := by
  rw [Nat.toDigits_of_base_le (by decide) (by omega),
    Nat.toDigits_of_base_le (by decide) (by omega),
    Nat.toDigits_of_base_le (by decide) (by omega), Nat.toDigits_of_lt_base (by omega), hexDigits4]
  simp only [Nat.div_div_eq_div_mul, Nat.reduceMul, List.cons_append, List.nil_append]

theorem standIn_surrogate (offset : Fin 2048) : ∃ digits, standIn (.surrogate offset) =
    '\uFFFD' :: 'd' :: digits ∧ digits.length = 3 ∧
      HexUnit ('d' :: digits) (0xD800 + offset.val) := by
  have hlt := offset.isLt
  have hfirst : Nat.digitChar ((0xD800 + offset.val) / 4096) = 'd' := by
    rw [show (0xD800 + offset.val) / 4096 = 13 by omega]
    rfl
  have hunit := hexUnit_digits (n := 0xD800 + offset.val) (by omega)
  rw [hexDigits4, hfirst] at hunit
  refine ⟨_, ?_, rfl, hunit⟩
  rw [standIn, toDigits_eq_hexDigits4 (by omega) (by omega), hexDigits4, hfirst]

theorem HexUnit.unique {ds : List Char} {m n : Nat} (hm : HexUnit ds m) (hn : HexUnit ds n) :
    m = n := by
  have hm := hm.hexUnit? ' ' []
  rw [hn.hexUnit?] at hm
  exact (Prod.mk.inj (Option.some.inj hm)).1.symm

theorem standIn_char_ne_surrogate (c : Char) (offset : Fin 2048) (cs ds : List Char) :
    standIn (.char c) ++ cs ≠ standIn (.surrogate offset) ++ ds := by
  obtain ⟨digits, hstandIn, -, -⟩ := standIn_surrogate offset
  rw [hstandIn, standIn]
  split
  · rename_i hc
    intro h
    rw [hc] at h
    exact absurd (List.cons.inj (List.cons.inj h).2).1 (by decide)
  · rename_i hc
    exact fun h => hc (List.cons.inj h).1

theorem standIn_char_inj {c d : Char} {cs ds : List Char}
    (h : standIn (.char c) ++ cs = standIn (.char d) ++ ds) : c = d ∧ cs = ds := by
  rw [standIn, standIn] at h
  split at h <;> split at h
  · rename_i hc hd
    exact ⟨hc.trans hd.symm, by simpa [hc, hd] using h⟩
  · rename_i hc hd
    exact absurd ((List.cons.inj h).1.symm.trans hc) hd
  · rename_i hc hd
    exact absurd ((List.cons.inj h).1.trans hd) hc
  · exact List.cons.inj h

theorem standIn_surrogate_inj {a b : Fin 2048} {cs ds : List Char}
    (h : standIn (.surrogate a) ++ cs = standIn (.surrogate b) ++ ds) : a = b ∧ cs = ds := by
  obtain ⟨digits, ha, hlength, hunit⟩ := standIn_surrogate a
  obtain ⟨digits', hb, hlength', hunit'⟩ := standIn_surrogate b
  rw [ha, hb] at h
  obtain ⟨hdigits, hrest⟩ := List.append_inj h (by simp only [List.length_cons, hlength, hlength'])
  rw [← (List.cons.inj hdigits).2] at hunit'
  exact ⟨Fin.ext (Nat.add_left_cancel (hunit.unique hunit')), hrest⟩

/-- Texts with unpaired surrogates are told apart by their names. -/
theorem nameOf_inj {t u : Text} (ht : t.toString?.isOk = false) (hu : u.toString?.isOk = false)
    (h : nameOf t = nameOf u) : t = u := by
  have name {t : Text} (ht : t.toString?.isOk = false) :
      nameOf t = String.ofList (t.flatMap standIn) := by
    rw [nameOf]
    split
    · rename_i hs
      rw [hs] at ht
      cases ht
    · rfl
  have nonempty (p : Point) (cs : List Char) : [] ≠ standIn p ++ cs := by
    cases p with
    | char c =>
      rw [standIn]
      split <;> exact fun h => by cases h
    | surrogate offset => exact fun h => by cases h
  rw [name ht, name hu] at h
  replace h := String.ofList_injective h
  clear ht hu
  induction t generalizing u with
  | nil =>
    cases u with
    | nil => rfl
    | cons q u => exact absurd h (nonempty q _)
  | cons p t ih =>
    cases u with
    | nil => exact absurd h.symm (nonempty p _)
    | cons q u =>
      rw [List.flatMap_cons, List.flatMap_cons] at h
      cases p with
      | char c =>
        cases q with
        | char d =>
          obtain ⟨rfl, hrest⟩ := standIn_char_inj h
          exact congrArg _ (ih hrest)
        | surrogate b => exact absurd h (standIn_char_ne_surrogate c b _ _)
      | surrogate a =>
        cases q with
        | char d => exact absurd h.symm (standIn_char_ne_surrogate d a _ _)
        | surrogate b =>
          obtain ⟨rfl, hrest⟩ := standIn_surrogate_inj h
          exact congrArg _ (ih hrest)

end StylePrune.Json
