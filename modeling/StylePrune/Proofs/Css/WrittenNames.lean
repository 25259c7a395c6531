import StylePrune.Css.Serialize
import StylePrune.Css.Tree
import StylePrune.Proofs.Css.Passing

/-!
# Written names are read back

A written name is a run of name characters and of escapes that name one character, whatever follows
them (`Spells`). The lexer reads such a text back as the name (`name_spelled`), with the raw pairing
of brackets in step, so a class written as the selector of a rule is read as that rule
(`read_classRule`).
-/

namespace StylePrune

theorem Text.ofChars_append (cs ds : List Char) : ofChars (cs ++ ds) = ofChars cs ++ ofChars ds :=
  List.map_append

namespace Css

namespace Lexer

open Balance (accepts accepts_inert)

/-! ## Spelled names -/

/-- Behind a backslash, `es` names the character `c`, whatever follows. -/
def EscapeOf (c : Char) (es : List Char) : Prop :=
  (∀ e ∈ es, normalChar e = e) ∧
    ∀ rest, startsEscape (es ++ rest) = true ∧ escape (es ++ rest) = (.char c, es.length)

/-- A text spells a name: each character stands for itself or is named by an escape. -/
inductive Spells : List Char → List Char → Prop
  | nil : Spells [] []
  | char {c : Char} (hc : isName c = true) {text n : List Char} (h : Spells text n) :
    Spells (c :: text) (c :: n)
  | escape {c : Char} {es : List Char} (hes : EscapeOf c es) {text n : List Char}
    (h : Spells text n) : Spells ('\\' :: (es ++ text)) (c :: n)

variable {c d : Char} {es text more n rest : List Char}

theorem Spells.append {m : List Char} (h : Spells text n) (hmore : Spells more m) :
    Spells (text ++ more) (n ++ m) := by
  induction h with
  | nil => exact hmore
  | char hc _ ih => exact .char hc ih
  | escape hes _ ih =>
    rw [List.cons_append, List.append_assoc]
    exact .escape hes ih

theorem EscapeOf.spells (h : EscapeOf c es) : Spells ('\\' :: es) [c] := by
  have hspells := Spells.escape h .nil
  rwa [List.append_nil] at hspells

/-- A spelled name is read back, if no more of a name follows. -/
theorem name_spelled (h : Spells text n) (hrest : name rest = ([], 0)) :
    name (text ++ rest) = (Text.ofChars n, text.length) := by
  induction h with
  | nil => exact hrest
  | char hc _ ih =>
    rw [List.cons_append, name, if_pos hc, ih]
    rfl
  | @escape c es hes text n _ ih =>
    obtain ⟨hstarts, hescape⟩ := hes.2 (text ++ rest)
    rw [List.cons_append, List.append_assoc, name, if_neg (by decide), hstarts, hescape]
    simp only [decide_true, Bool.and_self, if_true, List.drop_left, ih, List.length_cons,
      List.length_append]
    rw [Nat.add_comm text.length]
    rfl

theorem Spells.normal (h : Spells text n) : ∀ c ∈ text, normalChar c = c := by
  induction h with
  | nil => exact List.forall_mem_nil _
  | char hc _ ih => exact List.forall_mem_cons.2 ⟨normalChar_of_class (by decide) hc, ih⟩
  | escape hes _ ih =>
    exact List.forall_mem_cons.2 ⟨by decide, List.forall_mem_append.2 ⟨hes.1, ih⟩⟩

/-- A spelled name starts with a name character or a backslash. -/
theorem Spells.head (h : Spells (c :: text) n) : isName c = true ∨ c = '\\' := by
  cases h with
  | char hc => exact .inl hc
  | escape => exact .inr rfl

theorem Spells.tail (h : Spells (c :: text) n) (hc : c ≠ '\\') : ∃ m, Spells text m := by
  cases h with
  | char _ h => exact ⟨_, h⟩
  | escape => exact absurd rfl hc

/-! ## Names as they are written -/

theorem escapeOf_char (hhex : isHex c = false) (hline : c ≠ '\n') (hc : normalChar c = c) :
    EscapeOf c [c] := by
  refine ⟨fun e he => List.mem_singleton.1 he ▸ hc, fun rest => ⟨?_, ?_⟩⟩
  · rw [startsEscape, List.singleton_append, List.head?_cons]
    simpa using hline
  · rw [List.singleton_append, escape, List.take_succ_cons,
      List.takeWhile_cons_of_neg (by rw [hhex]; decide)]
    rfl

/-- An escape by number, ended by a blank. -/
theorem escapeOf_number (hhex : es.all isHex = true) (hne : es ≠ []) (hlength : es.length < 6)
    (hcode : ofHex es ≠ 0 ∧ Point.ofCode (ofHex es) = .char c) : EscapeOf c (es ++ [' ']) := by
  have hall := List.all_eq_true.1 hhex
  refine ⟨?_, fun rest => ?_⟩
  · intro d hd
    rcases List.mem_append.1 hd with hd | hd
    · exact normalChar_of_class (by decide) (hall d hd)
    · rw [List.mem_singleton.1 hd]
      decide
  · rw [List.append_assoc, List.singleton_append]
    have hdigits : ((es ++ ' ' :: rest).take 6).takeWhile isHex = es := by
      obtain ⟨k, hk⟩ := Nat.exists_eq_add_of_lt hlength
      rw [List.take_append, List.take_of_length_le (Nat.le_of_lt hlength), hk,
        show es.length + k + 1 - es.length = k + 1 by omega, List.take_succ_cons,
        List.takeWhile_append_of_pos hall, List.takeWhile_cons_of_neg (by decide), List.append_nil]
    obtain ⟨e, more, rfl⟩ := List.exists_cons_of_ne_nil hne
    constructor
    · have he : e ≠ '\n' := by
        rintro rfl
        exact absurd (hall _ List.mem_cons_self) (by decide)
      rw [startsEscape, List.cons_append, List.head?_cons]
      simpa using he
    · rw [escape.eq_def]
      simp only [hdigits, List.isEmpty_cons, Bool.false_eq_true, if_false, List.drop_left,
        if_neg hcode.1, hcode.2, List.length_append]
      rfl

theorem escapeOf_digit (h : Serialize.isAsciiDigit c = true) :
    EscapeOf c (Serialize.hex c.toNat ++ [' ']) := by
  have hdigits : ∀ k < 10, let d := Char.ofNat (48 + k)
      (Serialize.hex d.toNat).all isHex = true ∧ Serialize.hex d.toNat ≠ [] ∧
        (Serialize.hex d.toNat).length < 6 ∧ ofHex (Serialize.hex d.toNat) ≠ 0 ∧
          Point.ofCode (ofHex (Serialize.hex d.toNat)) = .char d := by
    decide +kernel
  have hbounds : 48 ≤ c.toNat ∧ c.toNat ≤ 57 := by
    simpa [Serialize.isAsciiDigit, Char.le_def, UInt32.le_iff_toNat_le] using h
  obtain ⟨hhex, hne, hlength, hcode⟩ := hdigits (c.toNat - 48) (by omega)
  have hc : Char.ofNat (48 + (c.toNat - 48)) = c := by
    rw [Nat.add_sub_cancel' hbounds.1, Char.ofNat_toNat]
  rw [hc] at hhex hne hlength hcode
  exact escapeOf_number hhex hne hlength hcode

/-- Hexadecimal digits are written as they are in a name. -/
theorem isNameStart_or_isDigit (h : isHex c = true) : (isNameStart c || isDigit c) = true := by
  simp only [isHex, isNameStart, Bool.or_eq_true, Bool.and_eq_true, decide_eq_true_eq] at h ⊢
  rcases h with (hdigit | ⟨ha, hf⟩) | ⟨ha, hf⟩
  · exact .inr hdigit
  · exact .inl (.inl (.inl (.inl ⟨ha, Char.le_trans hf (by decide)⟩)))
  · exact .inl (.inl (.inl (.inr ⟨ha, Char.le_trans hf (by decide)⟩)))

theorem escaped_eq (hhex : isHex c = false) (hnul : c ≠ '\x00') :
    ∃ es, Serialize.escaped c = Text.ofChars ('\\' :: es) ∧ EscapeOf c es := by
  have by_number (d : Char) (hd : [d].all isHex = true)
      (hcode : ofHex [d] ≠ 0 ∧ Point.ofCode (ofHex [d]) = .char c) : EscapeOf c [d, ' '] :=
    escapeOf_number hd (List.cons_ne_nil _ _) (by decide : 1 < 6) hcode
  by_cases hc : c = '\n' ∨ c = '\r' ∨ c = '\x0c'
  · rcases hc with rfl | rfl | rfl
    · exact ⟨_, rfl, by_number 'A' rfl (by decide)⟩
    · exact ⟨_, rfl, by_number 'D' rfl (by decide)⟩
    · exact ⟨_, rfl, by_number 'C' rfl (by decide)⟩
  · simp only [not_or] at hc
    refine ⟨[c], ?_, escapeOf_char hhex hc.1 (normalChar_of_notMem ?_)⟩
    · rw [Serialize.escaped, if_neg hc.1, if_neg hc.2.1, if_neg hc.2.2, Text.ofString,
        String.toList_ofList]
    · simp [rewritten, hc, hnul]

theorem namePoint_spells (hnul : c ≠ '\x00') :
    ∃ text, Serialize.namePoint (.char c) = Text.ofChars text ∧ Spells text [c] := by
  have hname : isName c = (Serialize.isAsciiLetter c || c = '-' || c = '_' ||
      Serialize.isAsciiDigit c || c.toNat > 0x7F) := by
    rw [isName, isNameStart, Serialize.isAsciiLetter, Serialize.isAsciiDigit, isDigit]
    ac_rfl
  rw [Serialize.namePoint, ← hname]
  cases hc : isName c with
  | true => exact ⟨[c], rfl, .char hc .nil⟩
  | false =>
    have hhex : isHex c = false := Bool.eq_false_iff.2 fun h => by
      rw [isName, isNameStart_or_isDigit h] at hc
      cases hc
    obtain ⟨es, hescaped, hes⟩ := escaped_eq hhex hnul
    exact ⟨_, hescaped, hes.spells⟩

theorem name_spells (hnul : '\x00' ∉ n) :
    ∃ text, Serialize.name (Text.ofChars n) = Text.ofChars text ∧ Spells text n := by
  induction n with
  | nil => exact ⟨[], rfl, .nil⟩
  | cons c n ih =>
    obtain ⟨hc, hn⟩ := List.ne_and_not_mem_of_not_mem_cons hnul
    obtain ⟨front, hfront, hspells⟩ := namePoint_spells (Ne.symm hc)
    obtain ⟨text, htext, hmore⟩ := ih hn
    refine ⟨front ++ text, ?_, hspells.append hmore⟩
    rw [Text.ofChars_append, ← hfront, ← htext]
    exact List.flatMap_cons

/-- An identifier starts with the text, and with a hyphen before it. -/
def Begins (text : List Char) : Prop :=
  ∀ rest, startsIdent (text ++ rest) = true ∧ startsIdent ('-' :: (text ++ rest)) = true

theorem EscapeOf.begins (h : EscapeOf c es) : Begins ('\\' :: es) :=
  fun rest => ⟨(h.2 rest).1, (h.2 rest).1⟩

theorem firstPoint_spells (hnul : c ≠ '\x00') :
    ∃ text, Serialize.firstPoint (.char c) = Text.ofChars text ∧ Spells text [c] ∧ Begins text := by
  have hname : isNameStart c = (Serialize.isAsciiLetter c || c = '_' || c.toNat > 0x7F) := rfl
  rw [Serialize.firstPoint, ← hname]
  cases hc : isNameStart c with
  | true =>
    have hne : c ≠ '-' ∧ c ≠ '\\' := by
      constructor <;> rintro rfl <;> exact absurd hc (by decide)
    refine ⟨[c], rfl, .char (by rw [isName, hc]; rfl) .nil, fun rest => ⟨?_, ?_⟩⟩
    · rw [List.singleton_append, startsIdent]
      · exact hc
      all_goals simp [hne]
    · rw [List.singleton_append, startsIdent]
      · exact hc
      all_goals simp [hne]
  | false =>
    by_cases hdigit : Serialize.isAsciiDigit c = true
    · have hes := escapeOf_digit hdigit
      refine ⟨_, ?_, hes.spells, hes.begins⟩
      rw [if_neg Bool.false_ne_true, if_pos hdigit]
      rfl
    · have hhex : isHex c = false := Bool.eq_false_iff.2 fun h => by
        have hor := isNameStart_or_isDigit h
        rw [hc, Bool.false_or] at hor
        exact hdigit hor
      obtain ⟨es, hescaped, hes⟩ := escaped_eq hhex hnul
      refine ⟨_, ?_, hes.spells, hes.begins⟩
      rw [if_neg Bool.false_ne_true, if_neg hdigit, hescaped]

/-- A written identifier spells its name, and starts as an identifier does. -/
theorem identifier_spells (hne : n ≠ []) (hnul : '\x00' ∉ n) :
    ∃ text, Serialize.identifier (Text.ofChars n) = Text.ofChars text ∧ Spells text n ∧
      ∀ rest, startsIdent (text ++ rest) = true := by
  obtain ⟨c, more, rfl⟩ := List.exists_cons_of_ne_nil hne
  obtain ⟨hc, hmore⟩ := List.ne_and_not_mem_of_not_mem_cons hnul
  by_cases hyphen : c = '-'
  · subst hyphen
    cases more with
    | nil =>
      have hes : EscapeOf '-' ['-'] := escapeOf_char rfl (by decide) (by decide)
      exact ⟨_, rfl, hes.spells, fun rest => (hes.begins rest).1⟩
    | cons d more =>
      obtain ⟨hd, hmore⟩ := List.ne_and_not_mem_of_not_mem_cons hmore
      obtain ⟨text, htext, hspells⟩ := name_spells hmore
      by_cases hyphens : d = '-'
      · subst hyphens
        refine ⟨'-' :: '-' :: text, ?_, .char rfl (.char rfl hspells), fun rest => rfl⟩
        exact congrArg (fun t => Point.char '-' :: Point.char '-' :: t) htext
      · obtain ⟨front, hfront, hfirst, hbegins⟩ := firstPoint_spells (Ne.symm hd)
        refine ⟨'-' :: (front ++ text), ?_, .char rfl (hfirst.append hspells), fun rest => ?_⟩
        · have hd' : (Point.char d).is '-' = false := by simpa [Point.is] using hyphens
          have hjoined : Text.ofChars front ++ Serialize.name (Text.ofChars more) =
              Text.ofChars (front ++ text) := by rw [htext, Text.ofChars_append]
          rw [Text.ofChars, List.map_cons, List.map_cons, Serialize.identifier.eq_def]
          simp only [hd', hfront]
          exact congrArg (Point.char '-' :: ·) hjoined
        · rw [List.cons_append, List.append_assoc]
          exact (hbegins _).2
  · obtain ⟨front, hfront, hfirst, hbegins⟩ := firstPoint_spells (Ne.symm hc)
    obtain ⟨text, htext, hspells⟩ := name_spells hmore
    refine ⟨front ++ text, ?_, hfirst.append hspells, fun rest => ?_⟩
    · have hc' : (Point.char c).is '-' = false := by simpa [Point.is] using hyphen
      have hjoined : Text.ofChars front ++ Serialize.name (Text.ofChars more) =
          Text.ofChars (front ++ text) := by rw [htext, Text.ofChars_append]
      rw [Text.ofChars, List.map_cons, Serialize.identifier.eq_def]
      simp only [hc', hfront]
      exact hjoined
    · rw [List.append_assoc]
      exact (hbegins _).1

/-! ## A rule for one class -/

/-- A dot, a name as it is spelled, and an empty block. -/
def classRule (text : List Char) : List Char := '.' :: (text ++ ['\x7b', '\x7d'])

theorem normalize_classRule (h : Spells text n) : normalize (classRule text) = classRule text := by
  have hblock : ∀ c ∈ ['\x7b', '\x7d'], normalChar c = c :=
    List.forall_mem_cons.2 ⟨by decide, List.forall_mem_cons.2 ⟨by decide, List.forall_mem_nil _⟩⟩
  refine normalize_of_forall (List.forall_mem_cons.2 ⟨by decide, ?_⟩)
  exact List.forall_mem_append.2 ⟨h.normal, hblock⟩

/-- The raw pairing of brackets passes over a spelled name. -/
theorem checkBalance_classRule (h : Spells text n) : checkBalance (classRule text) = .ok () := by
  have hnormal := (List.cons.inj (normalize_cons (fun _ h => absurd h (by decide)) |>.symm.trans
    (normalize_classRule h))).2
  have hcalm := calm_name (text ++ ['\x7b', '\x7d'])
  rw [name_spelled h (by rw [name]; rfl)] at hcalm
  have haccepts : accepts .plain [] (classRule text) = true := by
    rw [classRule, accepts_inert (.inl (by decide)), hcalm.skips hnormal,
      (raw_of_normal _ hnormal).2, List.drop_left]
    rfl
  rw [← Balance.checkBalance_isOk] at haccepts
  cases hb : checkBalance (classRule text) with
  | ok => rfl
  | error e =>
    rw [hb] at haccepts
    cases haccepts

/-- What stands in front of the block is a part of the name. -/
theorem Spells.of_append (h : Spells text n) (hd : text ++ ['\x7b', '\x7d'] = d :: rest)
    (hname : isName d = false) (hother : d ≠ '\\' ∧ d ≠ '\x7b') : False := by
  cases text with
  | nil => exact hother.2 (List.cons.inj hd).1.symm
  | cons c text =>
    obtain rfl := (List.cons.inj hd).1
    rcases h.head with hc | hc
    · rw [hc] at hname
      cases hname
    · exact hother.1 hc

/-- What follows a letter of the name starts no range of code points. -/
theorem startsRange_spelled (h : Spells text n) :
    step.startsRange (text ++ ['\x7b', '\x7d']) = false := by
  refine Bool.eq_false_iff.2 fun hs => ?_
  unfold step.startsRange at hs
  split at hs
  · rename_i d rest heq
    exact h.of_append heq rfl (by decide)
  · cases hs

/-- No name starts with the mark `-->`, as its last character is written with a backslash. -/
theorem not_arrow_spelled (h : Spells text n) :
    ['-', '-', '>'].isPrefixOf (text ++ ['\x7b', '\x7d']) = false := by
  refine Bool.eq_false_iff.2 fun hs => ?_
  obtain ⟨rest, hs⟩ := List.isPrefixOf_iff_prefix.1 hs
  cases text with
  | nil => exact absurd (List.cons.inj hs).1 (by decide)
  | cons c text =>
    obtain ⟨hc, hs⟩ := List.cons.inj hs
    obtain ⟨m, h⟩ := h.tail (by rw [← hc]; decide)
    cases text with
    | nil => exact absurd (List.cons.inj hs).1 (by decide)
    | cons d text =>
      obtain ⟨hd, hs⟩ := List.cons.inj hs
      obtain ⟨m, h⟩ := h.tail (by rw [← hd]; decide)
      exact h.of_append hs.symm rfl (by decide)

theorem identLike_spelled (h : Spells text n) :
    identLike (text ++ ['\x7b', '\x7d']) = ([.leaf (.ident (Text.ofChars n))], text.length) := by
  rw [identLike, name_spelled h (by rw [name]; rfl)]
  simp only [List.drop_left]
  rfl

/-- The lexeme of a spelled name with a block behind it. -/
theorem step_spelled (h : Spells (c :: text) n)
    (hstart : startsIdent (c :: text ++ ['\x7b', '\x7d']) = true) :
    step c (text ++ ['\x7b', '\x7d']) =
      .ok ([.leaf (.ident (Text.ofChars n))], text.length) := by
  have hspace : isSpace c = false := by
    rcases h.head with hc | rfl
    · exact Bool.eq_false_iff.2 fun hs => by
        simp only [isSpace, Bool.or_eq_true, decide_eq_true_eq] at hs
        rcases hs with (rfl | rfl) | rfl <;> exact absurd hc (by decide)
    · rfl
  have hrange : ((c = 'U' || c = 'u') && step.startsRange (text ++ ['\x7b', '\x7d'])) = false := by
    by_cases hc : c = '\\'
    · rw [hc]
      rfl
    · obtain ⟨m, htail⟩ := h.tail hc
      rw [startsRange_spelled htail, Bool.and_false]
  have harrow := not_arrow_spelled h
  have hident := identLike_spelled h
  rw [List.cons_append] at hstart harrow hident
  rw [step.eq_def, if_neg (by rw [hspace]; decide), if_neg (by rw [hrange]; decide),
    if_neg (by rw [harrow]; decide), if_pos hstart, hident]
  rfl

theorem isDigit_of_isNameStart (h : isNameStart c = true) : isDigit c = false := by
  simp only [isNameStart, Bool.or_eq_true, Bool.and_eq_true, decide_eq_true_eq, Char.le_def,
    UInt32.le_iff_toNat_le] at h
  simp only [isDigit, Bool.and_eq_false_iff, decide_eq_false_iff_not, Char.le_def,
    UInt32.le_iff_toNat_le]
  refine .inr (Nat.not_le.2 ?_)
  rcases h with ((⟨h, -⟩ | ⟨h, -⟩) | rfl) | h
  · exact Nat.lt_of_lt_of_le (by decide) h
  · exact Nat.lt_of_lt_of_le (by decide) h
  · decide
  · exact Nat.lt_trans (by decide) h

theorem startsIdent_head (h : startsIdent (c :: rest) = true) :
    c = '-' ∨ c = '\\' ∨ isNameStart c = true := by
  unfold startsIdent at h
  split at h <;> simp_all

theorem step_dot (hstart : startsIdent (c :: rest) = true) :
    step '.' (c :: rest) = .ok ([.leaf (.literal ['.'])], 0) := by
  have hdigit : isDigit c = false := by
    rcases startsIdent_head hstart with rfl | rfl | hc
    · rfl
    · rfl
    · exact isDigit_of_isNameStart hc
  have hdot : ('.' :: c :: rest).takeWhile isDigit = [] := rfl
  have hrest : (c :: rest).takeWhile isDigit = [] := by
    rw [List.takeWhile_cons_of_neg (by rw [hdigit]; decide)]
  have hnumber : numberLength? ('.' :: c :: rest) = none := by
    simp [numberLength?, digits, hdot, hrest]
  rw [step, hnumber]
  rfl

theorem lexemesFrom_step {p : Position} {x : Lexeme} {k : Nat} {cs : List Char}
    {xs : List (Position × Lexeme)} (h : step c cs = .ok ([x], k))
    (hrest : lexemesFrom (p.after (c :: cs.take k)) (cs.drop k) = .ok xs) :
    lexemesFrom p (c :: cs) = .ok ((p, x) :: xs) := by
  rw [lexemesFrom, h]
  simp only [hrest]
  rfl

/-- The lexemes of a rule for one class. -/
theorem lexemes_classRule (h : Spells text n) (hstart : ∀ rest, startsIdent (text ++ rest) = true) :
    ∃ dot ident opening closing, lexemes (classRule text) =
      .ok [(dot, .leaf (.literal ['.'])), (ident, .leaf (.ident (Text.ofChars n))),
        (opening, .opening .curly), (closing, .closing .curly)] := by
  have hblock (p : Position) : ∃ closing, lexemesFrom p ['\x7b', '\x7d'] =
      .ok [(p, .opening .curly), (closing, .closing .curly)] :=
    ⟨_, lexemesFrom_step rfl (lexemesFrom_step rfl (by rw [List.drop_nil, lexemesFrom]))⟩
  cases text with
  | nil => exact absurd (hstart []) (by decide)
  | cons c text =>
    have hident (p : Position) : ∃ opening closing,
        lexemesFrom p (c :: (text ++ ['\x7b', '\x7d'])) =
          .ok [(p, .leaf (.ident (Text.ofChars n))), (opening, .opening .curly),
            (closing, .closing .curly)] := by
      obtain ⟨closing, hrest⟩ := hblock (p.after (c :: text))
      refine ⟨p.after (c :: text), closing, lexemesFrom_step (step_spelled h (hstart _)) ?_⟩
      rwa [List.take_left, List.drop_left]
    obtain ⟨opening, closing, hrest⟩ := hident (Position.start.after ['.'])
    rw [lexemes, normalize_classRule h]
    exact ⟨_, _, opening, closing, lexemesFrom_step (step_dot (hstart _)) hrest⟩

end Lexer

/-- A class written as the selector of a rule is read as that rule. -/
theorem read_classRule {text n : List Char} (h : Lexer.Spells text n)
    (hstart : ∀ rest, Lexer.startsIdent (text ++ rest) = true) :
    ∃ dot ident, read (Lexer.classRule text) =
      .ok [.rule ⟨[.leaf dot (.literal ['.']), .leaf ident (.ident (Text.ofChars n))], []⟩] := by
  obtain ⟨dot, ident, opening, closing, hlexemes⟩ := Lexer.lexemes_classRule h hstart
  have htokens : tokenize (Lexer.classRule text) =
      .ok [.leaf dot (.literal ['.']), .leaf ident (.ident (Text.ofChars n)),
        .block opening .curly [] true] := by
    rw [tokenize, hlexemes]
    rfl
  have hnodes : Reading.nodes true .nothing
      [.leaf dot (.literal ['.']), .leaf ident (.ident (Text.ofChars n)),
        .block opening .curly [] true] =
      .ok [.rule ⟨[.leaf dot (.literal ['.']), .leaf ident (.ident (Text.ofChars n))], []⟩] := by
    simp [Reading.nodes, Token.isLiteral, Except.map]
  refine ⟨dot, ident, ?_⟩
  rw [read, Lexer.checkBalance_classRule h, htokens]
  exact congrArg (Except.mapError ReadError.broken) hnodes

end Css

end StylePrune
