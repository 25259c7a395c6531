import StylePrune.Proofs.Css.Encodable
import StylePrune.Proofs.Css.Lines
import StylePrune.Proofs.Css.Numerals

/-!
# Written lexemes are read back

A lexeme has a written form (`Lexeme.written`), and the lexer takes a lexeme of a form that it grants
(`Lexeme.Granted`) from a text only where the lexeme ends (`Stops`). The other way round, a written
lexeme that is firm is read back, if it ends where the text goes on and does not run on there
(`step_written`).
-/

namespace StylePrune.Css

/-- A lexeme as it is written. -/
def Lexeme.written : Lexeme → Text
  | leaf l => Serialize.leaf l
  | opening b => [.char b.opener]
  | functionHead name => Serialize.identifier name ++ [.char '(']
  | closing b => [.char b.closer]

namespace Lexer

variable {c d : Char} {cs ds n text value rest more : List Char}

/-! ## Where a text goes on -/

def startsSpace (cs : List Char) : Bool := cs.head?.any isSpace

/-- A character of a name stands first, or an escape. -/
def startsName : List Char → Bool
  | [] => false
  | c :: rest => isName c || (c = '\\' && startsEscape rest)

theorem name_of_not_startsName (h : startsName cs = false) : name cs = ([], 0) := by
  cases cs with
  | nil => rw [name]
  | cons c rest =>
    simp only [startsName, Bool.or_eq_false_iff] at h
    rw [name, if_neg (by rw [h.1]; decide), if_neg (by rw [h.2]; decide)]

theorem startsName_of_startsIdent (h : startsIdent cs = true) : startsName cs = true := by
  cases hname : startsName cs with
  | true => rfl
  | false => exact absurd (by rw [name_of_not_startsName hname]) (name_ne_nil h)

/-- What ends a name: no more of it follows, and no round bracket. -/
theorem identLike_ident {k : Nat} {v : Text} (h : name cs = (v, k)) (hdrop : cs.drop k = rest)
    (hbracket : rest.head? ≠ some '(') : identLike cs = ([.leaf (.ident v)], k) := by
  rw [identLike, h]
  simp only [hdrop]
  split
  · exact absurd rfl hbracket
  · rfl

/-- A name with a round bracket behind it, which is not `url` or has a quote there, is a function
head. -/
theorem identLike_function {k : Nat} {v : Text} (h : name cs = (v, k))
    (hdrop : cs.drop k = '(' :: rest)
    (hquote : asciiLower v = Text.ofString "url" →
      ∃ q, (rest.dropWhile isSpace).head? = some q ∧ (q = '"' ∨ q = '\x27')) :
    identLike cs = ([.functionHead v], k + 1) := by
  rw [identLike, h]
  simp only [hdrop]
  split
  · obtain ⟨q, hq, hquote⟩ := hquote ‹_›
    obtain ⟨more, hmore⟩ := List.head?_eq_some_iff.1 hq
    simp only [hmore]
    rw [if_pos (by simpa using hquote)]
  · rfl

/-- `url` with a round bracket behind it, and no quote there, is an address. -/
theorem identLike_url {k : Nat} (h : name cs = (Text.ofString "url", k))
    (hdrop : cs.drop k = '(' :: rest)
    (hquote : ∀ q, (rest.dropWhile isSpace).head? = some q → q ≠ '"' ∧ q ≠ '\x27') :
    identLike cs = ((url rest).1.map .leaf, k + 1 + (url rest).2) := by
  rw [identLike, h]
  simp only [hdrop]
  rw [if_pos (by decide)]
  split
  · have hq := hquote _ (by rw [‹rest.dropWhile isSpace = _›]; rfl)
    rw [if_neg (by simpa using hq)]
  · rfl

/-! ## Words -/

theorem isSpace_eq_false (h : isName c = true ∨ c = '\\') : isSpace c = false := by
  rcases h with hc | rfl
  · refine Bool.eq_false_iff.2 fun hs => ?_
    simp only [isSpace, Bool.or_eq_true, decide_eq_true_eq] at hs
    rcases hs with (rfl | rfl) | rfl <;> exact absurd hc (by decide)
  · rfl

/-- A spelled name is read as a name or as what its bracket makes of it, if no more of a name
follows, and neither the mark `-->` nor a range of code points. -/
theorem step_word (h : Spells (c :: text) n) (hstart : startsIdent (c :: text ++ rest) = true)
    (hrest : startsName rest = false) (hmark : n = ['-', '-'] → rest.head? ≠ some '>')
    (hrange : n = ['u'] ∨ n = ['U'] → rest.head? ≠ some '+') :
    step c (text ++ rest) = .ok ((identLike (c :: text ++ rest)).1,
      (identLike (c :: text ++ rest)).2 - 1) := by
  have hspace := isSpace_eq_false h.head
  have other {d : Char} {more m : List Char} (hd : isName d = false ∧ d ≠ '\\')
      (hs : Spells (d :: more) m) : False := by
    rcases hs.head with hname | rfl
    · rw [hd.1] at hname
      cases hname
    · exact hd.2 rfl
  have hnorange : ((c = 'U' || c = 'u') && step.startsRange (text ++ rest)) = false := by
    refine Bool.eq_false_iff.2 fun hs => ?_
    simp only [Bool.and_eq_true, Bool.or_eq_true, decide_eq_true_eq] at hs
    obtain ⟨hc, hs⟩ := hs
    have hplus : (text ++ rest).head? = some '+' := by
      unfold step.startsRange at hs
      split at hs
      · rename_i heq
        rw [heq]
        rfl
      · cases hs
    cases h with
    | escape => simp at hc
    | char _ h =>
      cases text with
      | nil =>
        cases h
        exact hrange (hc.elim (fun h => .inr (by rw [h])) fun h => .inl (by rw [h])) hplus
      | cons d text =>
        obtain rfl : d = '+' := Option.some.inj hplus
        exact other (by decide) h
  have hnomark : ['-', '-', '>'].isPrefixOf (c :: text ++ rest) = false := by
    refine Bool.eq_false_iff.2 fun hs => ?_
    obtain ⟨more, heq⟩ := List.isPrefixOf_iff_prefix.1 hs
    obtain ⟨rfl, htext⟩ := List.cons.inj heq
    have htext : '-' :: '>' :: more = text ++ rest := htext
    cases h with | char _ h => ?_
    cases text with
    | nil =>
      obtain rfl : '-' :: '>' :: more = rest := htext
      cases hrest
    | cons d text =>
      obtain ⟨rfl, hbehind⟩ := List.cons.inj htext
      cases h with | char _ h => ?_
      cases text with
      | nil =>
        cases h
        obtain rfl : '>' :: more = rest := hbehind
        exact hmark rfl rfl
      | cons d text =>
        obtain ⟨rfl, -⟩ := List.cons.inj hbehind
        exact other (by decide) h
  rw [List.cons_append] at hstart hnomark ⊢
  rw [step.eq_def, if_neg (by rw [hspace]; decide), if_neg (by rw [hnorange]; decide),
    if_neg (by rw [hnomark]; decide), if_pos hstart]

/-! ## Delimiters -/

/-- A character that is a token by itself where nothing that it starts stands. -/
def isDelimiter (c : Char) : Bool :=
  !isSpace c && !isNameStart c && !isDigit c && (Bracket.ofOpener? c).isNone &&
    (Bracket.ofCloser? c).isNone && c != '"' && c != '\x27'

/-- A delimiter and the text behind it are not read together. -/
structure Alone (c : Char) (rest : List Char) : Prop where
  ident : startsIdent (c :: rest) = false
  number : numberLength? (c :: rest) = none
  keyword : c = '@' → startsIdent rest = false
  hash : c = '#' → startsName rest = false
  comment : c = '/' → rest.head? ≠ some '*'
  column : c = '|' → rest.head? ≠ some '|'
  equal : ['~', '|', '^', '$', '*'].contains c = true → rest.head? ≠ some '='

theorem numberLength?_eq_none (h : Numeral.isStart c = false) : numberLength? (c :: cs) = none := by
  simp only [Numeral.isStart, List.contains_cons, Bool.or_eq_false_iff, beq_eq_false_iff_ne] at h
  obtain ⟨hdigit, hpoint, hplus, hminus, -⟩ := h
  have hsign : signLength (c :: cs) = 0 := if_neg (by simpa using ⟨hplus, hminus⟩)
  have hsome := isSome_numberLength? (c :: cs)
  rw [hsign, List.drop_zero] at hsome
  simpa [startsDigit, startsPoint, hdigit, beq_eq_false_iff_ne.2 hpoint] using hsome

theorem Solo.of (hspace : isSpace c = false) (hname : isNameStart c = false)
    (hident : startsIdent (c :: cs) = false) (hnumber : numberLength? (c :: cs) = none) :
    Solo c cs where
  space := by rw [hspace]; decide
  range := fun h => by
    simp only [Bool.and_eq_true, Bool.or_eq_true, decide_eq_true_eq] at h
    rcases h.1 with rfl | rfl <;> exact absurd hname (by decide)
  mark := fun h => by
    obtain ⟨more, h⟩ := List.isPrefixOf_iff_prefix.1 h
    rw [← h] at hident
    cases hident
  ident := by rw [hident]; decide
  number := hnumber

/-- A character that starts no word and no number. -/
theorem Solo.of_head (hspace : isSpace c = false) (hname : isNameStart c = false)
    (hstart : Numeral.isStart c = false) (hescape : c ≠ '\\') : Solo c cs :=
  have hhyphen : c ≠ '-' := by rintro rfl; cases hstart
  .of hspace hname (startsIdent_of_head hname ⟨hhyphen, hescape⟩) (numberLength?_eq_none hstart)

theorem step_delimiter (hc : isDelimiter c = true) (h : Alone c rest)
    (hmark : c = '<' → rest.head? ≠ some '!') :
    step c rest = .ok ([.leaf (.literal [c])], 0) := by
  simp only [isDelimiter, Bool.and_eq_true, Bool.not_eq_true', Option.isNone_iff_eq_none,
    bne_iff_ne] at hc
  obtain ⟨⟨⟨⟨⟨⟨hspace, hname⟩, -⟩, hopener⟩, hcloser⟩, hquote⟩, hquote'⟩ := hc
  have hsolo : Solo c rest := .of hspace hname h.ident h.number
  by_cases hat : c = '@'
  · subst hat
    rw [hsolo.step_at, h.keyword rfl]
    rfl
  by_cases hhash : c = '#'
  · subst hhash
    cases rest with
    | nil => rfl
    | cons d rest =>
      rw [hsolo.step_hash, if_neg (by rw [← startsName, h.hash rfl]; decide)]
      rfl
  have hnomark : ['<', '!', '-', '-'].isPrefixOf (c :: rest) = false := by
    refine Bool.eq_false_iff.2 fun hs => ?_
    obtain ⟨more, heq⟩ := List.isPrefixOf_iff_prefix.1 hs
    obtain ⟨hc, hrest⟩ := List.cons.inj heq
    exact hmark hc.symm (by rw [← hrest]; rfl)
  unfold step
  rw [if_neg hsolo.space, if_neg hsolo.range, if_neg hsolo.mark, if_neg hsolo.ident, hsolo.number]
  simp only
  rw [if_neg hat, if_neg hhash, hopener, hcloser]
  simp only
  rw [if_neg (by simpa using ⟨hquote, hquote'⟩),
    if_neg (by simpa using h.comment), if_neg (by rw [hnomark]; decide),
    if_neg (by simpa using h.column), if_neg (by simpa using h.equal)]
  rfl

theorem step_opener (b : Bracket) (rest : List Char) :
    step b.opener rest = .ok ([.opening b], 0) := by
  cases b <;> rfl

theorem step_closer (b : Bracket) (rest : List Char) :
    step b.closer rest = .ok ([.closing b], 0) := by
  cases b <;> rfl

theorem step_arrow (rest : List Char) :
    step '-' ('-' :: '>' :: rest) = .ok ([.leaf (.literal ['-', '-', '>'])], 2) := rfl

theorem step_comment_mark (rest : List Char) :
    step '<' ('!' :: '-' :: '-' :: rest) = .ok ([.leaf (.literal ['<', '!', '-', '-'])], 3) := rfl

theorem step_column (rest : List Char) :
    step '|' ('|' :: rest) = .ok ([.leaf (.literal ['|', '|'])], 1) := rfl

theorem step_equal (h : c ∈ ['~', '|', '^', '$', '*']) (rest : List Char) :
    step c ('=' :: rest) = .ok ([.leaf (.literal [c, '='])], 1) := by
  simp only [List.mem_cons, List.not_mem_nil, or_false] at h
  rcases h with rfl | rfl | rfl | rfl | rfl <;> rfl

/-! ## Comments, strings and addresses -/

theorem comment_written (h : ¬['*', '/'] <:+: text) (rest : List Char) :
    comment (text ++ '*' :: '/' :: rest) = (text, text.length + 2) := by
  induction text with
  | nil => rfl
  | cons c text ih =>
    have hmore := ih fun hmore => h (hmore.trans (List.suffix_cons c text).isInfix)
    rw [List.cons_append, comment, hmore, List.length_cons, Nat.add_right_comm]
    rintro more rfl hslash
    cases text with
    | nil => exact absurd (List.cons.inj hslash).1 (by decide)
    | cons d text =>
      obtain ⟨rfl, -⟩ := List.cons.inj hslash
      exact h (List.prefix_append ['*', '/'] text).isInfix

theorem head_comment (h : (comment cs).1 = c :: text) : ∃ rest, cs = c :: rest := by
  revert h
  fun_cases comment cs with
  | case1 | case2 => exact fun h => by cases h
  | case3 d rest =>
    intro h
    obtain ⟨rfl, -⟩ := List.cons.inj h
    exact ⟨rest, rfl⟩

/-- The text of a comment does not end it. -/
theorem not_infix_comment (cs : List Char) : ¬['*', '/'] <:+: (comment cs).1 := by
  fun_induction comment cs with
  | case1 | case2 => decide
  | case3 c rest hmark text n htext ih =>
    rw [htext] at ih
    rintro hinfix
    rcases List.infix_cons_iff.1 hinfix with hstart | hmore
    · obtain ⟨more, hmore⟩ := hstart
      obtain ⟨rfl, hslash⟩ := List.cons.inj hmore
      have hslash : '/' :: more = text := hslash
      obtain ⟨behind, rfl⟩ := head_comment (by rw [htext, ← hslash])
      exact hmark behind rfl rfl
    · exact ih hmore

/-- A text spells a value: each character stands for itself, as some may, or is named by an
escape. -/
inductive Quotes (raw : Char → Bool) : List Char → List Char → Prop
  | nil : Quotes raw [] []
  | char {c : Char} (hc : raw c = true) {text value : List Char} (h : Quotes raw text value) :
    Quotes raw (c :: text) (c :: value)
  | escape {c : Char} {es : List Char} (hes : EscapeOf c es) {text value : List Char}
    (h : Quotes raw text value) : Quotes raw ('\\' :: (es ++ text)) (c :: value)

variable {raw : Char → Bool}

/-- A value is spelled point by point. -/
theorem exists_quotes {write : Point → Text} (value : List Char)
    (h : ∀ c ∈ value, write (.char c) = [.char c] ∧ raw c = true ∨
      ∃ es, write (.char c) = Text.ofChars ('\\' :: es) ∧ EscapeOf c es) :
    ∃ text, (Text.ofChars value).flatMap write = Text.ofChars text ∧ Quotes raw text value := by
  induction value with
  | nil => exact ⟨[], rfl, .nil⟩
  | cons c value ih =>
    obtain ⟨hc, hvalue⟩ := List.forall_mem_cons.1 h
    obtain ⟨text, htext, hquotes⟩ := ih hvalue
    rcases hc with ⟨hwrite, hraw⟩ | ⟨es, hwrite, hes⟩
    · refine ⟨c :: text, ?_, .char hraw hquotes⟩
      rw [Text.ofChars, List.map_cons, List.flatMap_cons, hwrite, ← Text.ofChars, htext]
      rfl
    · refine ⟨'\\' :: (es ++ text), ?_, .escape hes hquotes⟩
      rw [Text.ofChars, List.map_cons, List.flatMap_cons, hwrite, ← Text.ofChars, htext,
        ← Text.ofChars_append]
      rfl

theorem Quotes.normal (hraw : ∀ c, raw c = true → normalChar c = c) (h : Quotes raw text value) :
    ∀ c ∈ text, normalChar c = c := by
  induction h with
  | nil => exact List.forall_mem_nil _
  | char hc _ ih => exact List.forall_mem_cons.2 ⟨hraw _ hc, ih⟩
  | escape hes _ ih =>
    exact List.forall_mem_cons.2 ⟨by decide, List.forall_mem_append.2 ⟨hes.1, ih⟩⟩

/-- Characters that stand for themselves in a string. -/
def isQuoted (c : Char) : Bool := !(['"', '\\', '\n', '\r', '\x0c', '\x00'].contains c)

theorem quoted_written (h : Quotes isQuoted text value) (rest : List Char) :
    quoted '"' (text ++ '"' :: rest) = (Text.ofChars value, .quote, text.length + 1) := by
  induction h with
  | nil =>
    rw [List.nil_append]
    unfold quoted
    rw [if_pos rfl]
    rfl
  | @char c hc text value _ ih =>
    simp only [isQuoted, List.contains_cons, Bool.not_eq_true', Bool.or_eq_false_iff,
      beq_eq_false_iff_ne] at hc
    rw [List.cons_append]
    unfold quoted
    rw [if_neg hc.1, if_neg hc.2.1, if_neg hc.2.2.1, ih]
    rfl
  | @escape c es hes text value _ ih =>
    obtain ⟨hstarts, hescape⟩ := hes.2 (text ++ '"' :: rest)
    rw [List.cons_append, List.append_assoc]
    unfold quoted
    rw [if_neg (by decide), if_pos rfl]
    split
    · rename_i hnil
      simp at hnil
    · rename_i hline
      rw [hline] at hstarts
      cases hstarts
    · rw [hescape]
      simp only [List.drop_left, ih, List.length_cons, List.length_append]
      rw [show text.length + 1 + es.length + 1 = es.length + text.length + 1 + 1 by omega]
      rfl

/-- Characters that stand for themselves in an address. -/
def isBareUrl (c : Char) : Bool :=
  !isSpace c && !isUrlBreaker c && !(['(', ')', '\\', '\r', '\x0c'].contains c)

theorem urlBody_cons (hc : isBareUrl c = true) (cs : List Char) : urlBody (c :: cs) =
    (.char c :: (urlBody cs).1, (urlBody cs).2.1, (urlBody cs).2.2 + 1) := by
  simp only [isBareUrl, List.contains_cons, Bool.and_eq_true, Bool.not_eq_true',
    Bool.or_eq_false_iff, beq_eq_false_iff_ne] at hc
  obtain ⟨⟨hspace, hbreaker⟩, -, hparen, hslash, -⟩ := hc
  rw [urlBody, if_neg hparen, if_neg (by rw [hspace]; decide), if_neg (by simp [hslash]),
    if_neg (by rw [hbreaker]; decide)]

theorem urlBody_written (h : Quotes isBareUrl text value) (rest : List Char) :
    urlBody (text ++ ')' :: rest) = (Text.ofChars value, .paren, text.length + 1) := by
  induction h with
  | nil =>
    rw [List.nil_append, urlBody, if_pos rfl]
    rfl
  | @char c hc text value _ ih =>
    rw [List.cons_append, urlBody_cons hc, ih]
    rfl
  | @escape c es hes text value _ ih =>
    obtain ⟨hstarts, hescape⟩ := hes.2 (text ++ ')' :: rest)
    rw [List.cons_append, List.append_assoc, urlBody, if_neg (by decide), if_neg (by decide),
      hstarts, if_pos (by decide), hescape]
    simp only [List.drop_left, ih, List.length_cons, List.length_append]
    rw [show text.length + 1 + es.length + 1 = es.length + text.length + 1 + 1 by omega]
    rfl

/-- A written address starts with no blank and no quote. -/
theorem Quotes.head_url (h : Quotes isBareUrl text value) (rest : List Char) :
    ∃ c more, text ++ ')' :: rest = c :: more ∧ isSpace c = false ∧ c ≠ '"' ∧ c ≠ '\x27' := by
  cases h with
  | nil => exact ⟨')', rest, rfl, by decide⟩
  | @char c hc text =>
    refine ⟨c, text ++ ')' :: rest, rfl, ?_⟩
    simp only [isBareUrl, isUrlBreaker, Bool.and_eq_true, Bool.not_eq_true', Bool.or_eq_false_iff,
      decide_eq_false_iff_not] at hc
    obtain ⟨⟨hspace, ⟨⟨⟨⟨⟨hquote, hquote'⟩, -⟩, -⟩, -⟩, -⟩, -⟩, -⟩ := hc
    exact ⟨hspace, hquote, hquote'⟩
  | escape => exact ⟨'\\', _, rfl, by decide⟩

theorem url_written (h : Quotes isBareUrl text value) (rest : List Char) :
    url (text ++ ')' :: rest) = ([.url (Text.ofChars value) true], text.length + 1) := by
  obtain ⟨c, more, htext, hspace, -⟩ := h.head_url rest
  have hblanks : (text ++ ')' :: rest).takeWhile isSpace = [] := by
    rw [htext, List.takeWhile_cons_of_neg (by rw [hspace]; decide)]
  rw [url, hblanks]
  simp only [List.length_nil, List.drop_zero, urlBody_written h rest, Nat.zero_add]

/-! ## Ranges of code points -/

theorem ofHex_append (cs : List Char) (c : Char) :
    ofHex (cs ++ [c]) = 16 * ofHex cs + hexValue c := by
  rw [ofHex, List.foldl_append]
  rfl

theorem hexValue_lt (h : isHex c = true) : hexValue c < 16 := by
  simp only [isHex, isDigit, Bool.or_eq_true, Bool.and_eq_true, decide_eq_true_eq, Char.le_def,
    UInt32.le_iff_toNat_le] at h
  simp only [hexValue, isDigit, Bool.and_eq_true, decide_eq_true_eq, Char.le_def,
    UInt32.le_iff_toNat_le]
  have bounds : ('0'.val.toNat = 48 ∧ '9'.val.toNat = 57) ∧ ('a'.val.toNat = 97 ∧
      'f'.val.toNat = 102) ∧ 'A'.val.toNat = 65 ∧ 'F'.val.toNat = 70 := by decide
  simp only [bounds] at h ⊢
  simp only [Char.toNat]
  split
  · omega
  · split <;> omega

theorem foldl_hex_lt (h : cs.all isHex = true) (a : Nat) :
    cs.foldl (fun n c => 16 * n + hexValue c) a < (a + 1) * Nat.pow 16 cs.length := by
  induction cs generalizing a with
  | nil => exact Nat.lt_of_lt_of_eq (Nat.lt_succ_self a) (Nat.mul_one _).symm
  | cons c cs ih =>
    rw [List.all_cons, Bool.and_eq_true] at h
    have hc := hexValue_lt h.1
    refine Nat.lt_of_lt_of_le (ih h.2 (16 * a + hexValue c)) ?_
    rw [show Nat.pow 16 (c :: cs).length = 16 * Nat.pow 16 cs.length from Nat.mul_comm _ _,
      ← Nat.mul_assoc]
    exact Nat.mul_le_mul_right _ (by omega)

theorem ofHex_lt {k : Nat} (h : cs.all isHex = true) (hk : cs.length ≤ k) :
    ofHex cs < Nat.pow 16 k := by
  have := foldl_hex_lt h 0
  rw [Nat.zero_add, Nat.one_mul] at this
  exact Nat.lt_of_lt_of_le this (Nat.pow_le_pow_right (by decide) hk)

theorem hex_of_lt {n : Nat} (h : n < 16) :
    Serialize.hex n = [(Nat.digitChar n).toUpper] := by
  rw [Serialize.hex, Nat.toDigits_of_lt_base h]
  rfl

theorem hex_of_le {n : Nat} (h : 16 ≤ n) :
    Serialize.hex n = Serialize.hex (n / 16) ++ [(Nat.digitChar (n % 16)).toUpper] := by
  rw [Serialize.hex, Nat.toDigits_of_base_le (by decide) h, List.map_append]
  rfl

theorem hexValue_digitChar : ∀ d < 16, isHex (Nat.digitChar d).toUpper = true ∧
    hexValue (Nat.digitChar d).toUpper = d := by decide

/-- Written hexadecimal digits read back as the number, and are no more than it needs. -/
theorem hex_spec (n : Nat) : (Serialize.hex n).all isHex = true ∧ Serialize.hex n ≠ [] ∧
    ofHex (Serialize.hex n) = n ∧
      ∀ k, n < Nat.pow 16 (k + 1) → (Serialize.hex n).length ≤ k + 1 := by
  induction n using Nat.strongRecOn with
  | ind n ih =>
    by_cases hn : n < 16
    · obtain ⟨hhex, hvalue⟩ := hexValue_digitChar n hn
      rw [hex_of_lt hn]
      refine ⟨by simp [hhex], List.cons_ne_nil _ _, ?_, fun k _ => Nat.succ_le_succ (Nat.zero_le k)⟩
      exact (Nat.zero_add _).trans hvalue
    · have hle : 16 ≤ n := Nat.le_of_not_lt hn
      obtain ⟨hall, -, hvalue, hlength⟩ := ih (n / 16) (by omega)
      obtain ⟨hhex, hdigit⟩ := hexValue_digitChar (n % 16) (by omega)
      rw [hex_of_le hle]
      refine ⟨by simp [hall, hhex], by simp, ?_, fun k hk => ?_⟩
      · rw [ofHex_append, hvalue, hdigit]
        omega
      · rw [List.length_append, List.length_singleton]
        cases k with
        | zero => exact absurd hk (Nat.not_lt.2 hle)
        | succ k =>
          have hk : n < Nat.pow 16 (k + 1) * 16 := hk
          have := hlength k (by omega)
          omega

def startsHex (cs : List Char) : Bool := cs.head?.any isHex

/-- What follows a range of code points does not go on with it. -/
def endsRange (rest : List Char) : Bool :=
  !startsHex rest && rest.head? != some '?' &&
    !(rest.head? == some '-' && startsHex rest.tail)

theorem takeWhile_take_of_head {p : Char → Bool} (h : cs.head?.any p = false) (k : Nat) :
    (cs.take k).takeWhile p = [] := by
  cases k with
  | zero => rfl
  | succ k =>
    cases cs with
    | nil => rfl
    | cons c cs => exact List.takeWhile_cons_of_neg (by simpa using h)

theorem takeWhile_hex (hds : ds.all isHex = true) (hlength : ds.length ≤ 6)
    (h : startsHex rest = false) : ((ds ++ rest).take 6).takeWhile isHex = ds := by
  rw [List.take_append, List.take_of_length_le hlength,
    List.takeWhile_append_of_pos (List.all_eq_true.1 hds), takeWhile_take_of_head h,
    List.append_nil]

/-- The written bounds of a range of code points, the last one left out if it is the first. -/
def rangeText (first last : Nat) : List Char :=
  Serialize.hex first ++ (if first = last then [] else '-' :: Serialize.hex last)

theorem unicodeRange_written {a b : Nat} (ha : a < Nat.pow 16 6) (hb : b < Nat.pow 16 6)
    (h : endsRange rest = true) :
    unicodeRange (rangeText a b ++ rest) = (a, b, (rangeText a b).length) := by
  simp only [endsRange, Bool.and_eq_true, Bool.not_eq_true', bne_iff_ne] at h
  obtain ⟨⟨hhex, hmark⟩, hhyphen⟩ := h
  obtain ⟨halla, -, hvaluea, hlengtha⟩ := hex_spec a
  obtain ⟨hallb, hneb, hvalueb, hlengthb⟩ := hex_spec b
  have hlengtha := hlengtha 5 ha
  have hlengthb := hlengthb 5 hb
  rw [rangeText]
  by_cases hab : a = b
  · subst hab
    have hnomarks : (rest.take (6 - (Serialize.hex a).length)).takeWhile (· = '?') = [] :=
      takeWhile_take_of_head (by cases rest <;> simp_all) _
    rw [if_pos rfl, List.append_nil, unicodeRange]
    simp only [takeWhile_hex halla hlengtha hhex, List.drop_left, hnomarks, List.isEmpty_nil,
      Bool.not_true, Bool.false_eq_true, if_false, List.length_nil, Nat.add_zero]
    split
    · rename_i more
      have hnone : ((more.take 6).takeWhile isHex) = [] :=
        takeWhile_take_of_head (by simpa [startsHex] using hhyphen) 6
      simp only [hnone, List.isEmpty_nil, if_true, hvaluea]
    · rw [hvaluea]
  · have hstart : startsHex ('-' :: (Serialize.hex b ++ rest)) = false := rfl
    have hnomarks : (('-' :: (Serialize.hex b ++ rest)).take
        (6 - (Serialize.hex a).length)).takeWhile (· = '?') = [] :=
      takeWhile_take_of_head rfl _
    have hempty : (Serialize.hex b).isEmpty = false := by simpa using hneb
    rw [if_neg hab, List.append_assoc, List.cons_append, unicodeRange]
    simp only [takeWhile_hex halla hlengtha hstart, List.drop_left, hnomarks, List.isEmpty_nil,
      Bool.not_true, Bool.false_eq_true, if_false, List.length_nil, Nat.add_zero,
      takeWhile_hex hallb hlengthb hhex, hempty, hvaluea, hvalueb, List.length_append,
      List.length_cons]
    rw [Nat.add_assoc, Nat.add_comm 1]

theorem step_range {a b : Nat} (ha : a < Nat.pow 16 6) (hb : b < Nat.pow 16 6)
    (h : endsRange rest = true) :
    step 'U' ('+' :: rangeText a b ++ rest) =
      .ok ([.leaf (.unicodeRange a b)], (rangeText a b).length + 1) := by
  obtain ⟨hall, hne, -⟩ := hex_spec a
  obtain ⟨d, ds, hds⟩ := List.exists_cons_of_ne_nil hne
  rw [hds] at hall
  have hd : isHex d = true := List.all_eq_true.1 hall d List.mem_cons_self
  have hrange : step.startsRange ('+' :: rangeText a b ++ rest) = true := by
    rw [rangeText, hds]
    simp [step.startsRange, hd]
  rw [step.eq_def, if_neg (by decide), if_pos (by rw [hrange]; decide), List.cons_append,
    List.drop_one,
    List.tail_cons, unicodeRange_written ha hb h]
  rfl

/-! ## Numbers -/

/-- An integer with no more digits than a number may have, or a number that is none. -/
def Numeral.IsShort (n : Numeral) : Prop :=
  n.isInteger = true → (n.text.filter isDigit).length ≤ Decimal.maxDigits

theorem numeric_numeral {n : Numeral} (hshort : n.IsShort) (rest : List Char) :
    numeric (n.text ++ rest) n.text.length n.isInteger =
      if startsIdent rest then
        one (.leaf (.dimension n.text (name rest).1)) (n.text.length + (name rest).2)
      else if rest.head? = some '%' then one (.leaf (.percentage n.text)) (n.text.length + 1)
      else one (.leaf (.number n.text)) n.text.length := by
  have hwidth : ¬(n.isInteger && Decimal.maxDigits < (n.text.filter isDigit).length) = true := by
    simpa [Numeral.IsShort] using hshort
  rw [numeric, List.take_left, List.drop_left]
  simp only
  rw [if_neg hwidth]

/-- What a numeral and the text behind it are read as. -/
theorem step_numeral {n : Numeral} (hn : n.text = c :: cs)
    (hends : endsNumber n.isInteger rest = true) (hexponent : exponentLength rest = 0) :
    step c (cs ++ rest) = (numeric (n.text ++ rest) n.text.length n.isInteger).map fun r =>
      (r.1, r.2 - 1) := by
  obtain ⟨d, ds, hd, hstart⟩ := n.exists_cons
  obtain ⟨rfl, rfl⟩ := List.cons.inj (hn.symm.trans hd)
  have hident := n.startsIdent_append rest
  have hnumber := numberLength?_append n hends hexponent
  have hspace : isSpace c = false := by
    refine Bool.eq_false_iff.2 fun hs => ?_
    simp only [isSpace, Bool.or_eq_true, decide_eq_true_eq] at hs
    rcases hs with (rfl | rfl) | rfl <;> cases hstart
  have hrange : ((c = 'U' || c = 'u') && step.startsRange (cs ++ rest)) = false := by
    refine Bool.eq_false_iff.2 fun hs => ?_
    simp only [Bool.and_eq_true, Bool.or_eq_true, decide_eq_true_eq] at hs
    rcases hs.1 with rfl | rfl <;> cases hstart
  have hmark : ['-', '-', '>'].isPrefixOf (c :: (cs ++ rest)) = false := by
    refine Bool.eq_false_iff.2 fun hs => ?_
    obtain ⟨more, heq⟩ := List.isPrefixOf_iff_prefix.1 hs
    rw [hn, List.cons_append, ← heq] at hident
    cases hident
  rw [hn, List.cons_append] at hident hnumber ⊢
  rw [step.eq_def, if_neg (by rw [hspace]; decide), if_neg (by rw [hrange]; decide),
    if_neg (by rw [hmark]; decide), if_neg (by rw [hident]; decide), hnumber]

/-- A unit that does not read as an exponent behind its number, nor is written as another one. -/
def isClearUnit (unit : Text) : Bool :=
  match unit with
  | [] => true
  | [p] => !p.is 'E'
  | p :: q :: _ =>
    !((p.is 'e' || p.is 'E') && isDigitPoint q) && !(p.is 'E' && q.is '-')
where
  isDigitPoint : Point → Bool
    | .char c => isDigit c
    | .surrogate _ => false

/-- A spelled text starts with what its value does, or with a backslash. -/
theorem Spells.head_eq (h : Spells (c :: text) n) :
    c = '\\' ∨ ∃ m, n = c :: m ∧ Spells text m := by
  cases h with
  | char _ h => exact .inr ⟨_, rfl, h⟩
  | escape => exact .inl rfl

theorem exponentLength_of_head (h : c ≠ 'e' ∧ c ≠ 'E') : exponentLength (c :: cs) = 0 := by
  rw [exponentLength_cons, if_neg (by simpa using h)]

theorem is_char (c d : Char) : (Point.char c).is d = decide (c = d) := by
  simp [Point.is]

/-- A name that starts with `e` and is written so is no exponent if no sign or digit follows. -/
theorem exponentLength_spelled {more : List Char} (h : Spells text (d :: more))
    (hd : isDigit d = false ∧ d ≠ '-') (rest : List Char) :
    exponentLength (c :: (text ++ rest)) = 0 := by
  cases text with
  | nil => cases h
  | cons a text =>
    have ha : isDigit a = false ∧ a ≠ '+' ∧ a ≠ '-' := by
      rcases h.head_eq with rfl | ⟨m, hm, -⟩
      · decide
      · obtain ⟨rfl, -⟩ := List.cons.inj hm
        refine ⟨hd.1, ?_, hd.2⟩
        rintro rfl
        rcases h.head with h | h <;> exact absurd h (by decide)
    have hsign : signLength (a :: text ++ rest) = 0 := if_neg (by simpa using ha.2)
    have hdigits : digits (a :: text ++ rest) = 0 :=
      congrArg List.length (takeWhile_eq_nil (by simp [startsDigit, ha.1]))
    rw [exponentLength_cons, hsign, List.drop_zero, hdigits, if_pos rfl]
    exact ite_self 0

/-- A written unit spells its name, starts as an identifier does, and is no exponent. -/
theorem unit_spells (hne : n ≠ []) (hnul : '\x00' ∉ n)
    (hclear : isClearUnit (Text.ofChars n) = true) :
    ∃ text, Serialize.unit (Text.ofChars n) = Text.ofChars text ∧ Spells text n ∧
      (∀ rest, startsIdent (text ++ rest) = true) ∧ ∀ rest, exponentLength (text ++ rest) = 0 := by
  have hescape : EscapeOf 'e' (['6', '5'] ++ [' ']) :=
    escapeOf_number rfl (List.cons_ne_nil _ _) (by decide) (by decide)
  have by_identifier
      (hunit : Serialize.unit (Text.ofChars n) = Serialize.identifier (Text.ofChars n))
      (hmore : ∀ c more, n = c :: more → c = 'e' ∨ c = 'E' →
        ∃ d m, more = d :: m ∧ isDigit d = false ∧ d ≠ '-') :
      ∃ text, Serialize.unit (Text.ofChars n) = Text.ofChars text ∧ Spells text n ∧
        (∀ rest, startsIdent (text ++ rest) = true) ∧
        ∀ rest, exponentLength (text ++ rest) = 0 := by
    obtain ⟨text, htext, hspells, hstart⟩ := identifier_spells hne hnul
    refine ⟨text, hunit.trans htext, hspells, hstart, fun rest => ?_⟩
    cases text with
    | nil => exact absurd (hstart []) (by decide)
    | cons c text =>
      by_cases hc : c = 'e' ∨ c = 'E'
      · rcases hspells.head_eq with rfl | ⟨m, rfl, hm⟩
        · exact absurd hc (by decide)
        · obtain ⟨d, m, rfl, hd⟩ := hmore c m rfl hc
          exact exponentLength_spelled hm hd rest
      · exact exponentLength_of_head (not_or.1 hc)
  rcases n with _ | ⟨c, _ | ⟨d, more⟩⟩
  · exact absurd rfl hne
  · by_cases hc : c = 'e' ∨ c = 'E'
    · have hclear : (!(Point.char c).is 'E') = true := hclear
      have hE : c ≠ 'E' := by simpa [is_char] using hclear
      obtain rfl : c = 'e' := hc.resolve_right hE
      exact ⟨_, rfl, hescape.spells, fun rest => rfl, fun rest => rfl⟩
    · refine by_identifier ?_ fun e more h he => absurd ((List.cons.inj h).1 ▸ he) hc
      exact if_neg (by simpa [is_char] using hc)
  · have hclear : (!(((Point.char c).is 'e' || (Point.char c).is 'E') && isDigit d) &&
        !((Point.char c).is 'E' && (Point.char d).is '-')) = true := hclear
    obtain ⟨hdigit, hhyphen⟩ : (c = 'e' ∨ c = 'E' → isDigit d = false) ∧
        (c = 'E' → d ≠ '-') := by
      simp only [is_char, Bool.and_eq_true, Bool.not_eq_true', Bool.and_eq_false_iff,
        Bool.or_eq_false_iff, decide_eq_false_iff_not] at hclear
      exact ⟨fun h => hclear.1.resolve_left fun hne => h.elim hne.1 hne.2,
        fun h => hclear.2.resolve_left (absurd h)⟩
    by_cases hc : (c = 'e' ∨ c = 'E') ∧ d = '-'
    · obtain ⟨hc, rfl⟩ := hc
      have hE : c ≠ 'E' := fun h => hhyphen h rfl
      obtain rfl : c = 'e' := hc.resolve_right hE
      obtain ⟨text, htext, hspells⟩ := name_spells (List.ne_and_not_mem_of_not_mem_cons hnul).2
      refine ⟨'\\' :: (['6', '5', ' '] ++ text), ?_, .escape hescape hspells, fun rest => rfl,
        fun rest => rfl⟩
      exact congrArg (Text.ofString "\\65 " ++ ·) htext
    · refine by_identifier (if_neg (by simpa [is_char] using hc)) fun e more' h he => ?_
      obtain ⟨rfl, rfl⟩ := List.cons.inj h
      exact ⟨d, more, rfl, hdigit he, fun h => hc ⟨he, h⟩⟩

/-- The text of an integer. -/
def isIntegerText (text : List Char) : Bool :=
  text.all fun c => isDigit c || c = '+' || c = '-'

theorem Numeral.isIntegerText_text (n : Numeral) : isIntegerText n.text = n.isInteger := by
  have hsign : n.sign.all (fun c => isDigit c || c = '+' || c = '-') = true := by
    rcases n.isSign with hs | hs | hs <;> rw [hs] <;> decide
  have hwhole : n.whole.all (fun c => isDigit c || c = '+' || c = '-') = true :=
    List.all_eq_true.2 fun c hc => by rw [List.all_eq_true.1 n.isWhole c hc]; rfl
  rw [isIntegerText, text, List.all_append, List.all_append, List.all_append, hsign, hwhole,
    isInteger]
  have hfraction : n.fraction.all (fun c => isDigit c || c = '+' || c = '-') =
      n.fraction.isEmpty := by
    rcases n.isFraction with hf | ⟨ds, hf, -⟩ <;> rw [hf] <;> rfl
  have hexponent : n.exponent.all (fun c => isDigit c || c = '+' || c = '-') =
      n.exponent.isEmpty := by
    rcases n.isExponent with he | ⟨mark, s, ds, he, hmark, -⟩
    · rw [he]
      rfl
    · rw [he]
      rcases hmark with rfl | rfl <;> rfl
  rw [hfraction, hexponent, Bool.true_and, Bool.true_and]

end Lexer

/-! ## What the lexer grants -/

open Lexer

/-- A name that can be written. -/
structure Named (name : Text) : Prop where
  ne_nil : name ≠ []
  no_nul : .char '\x00' ∉ name

/-- A name that starts as a number does, so that no identifier starts there. -/
def StartsAsNumber (name : Text) : Prop :=
  (∃ c more, name = .char c :: more ∧ isDigit c = true) ∨ name = [.char '-'] ∨
    ∃ c more, name = .char '-' :: .char c :: more ∧ isDigit c = true

/-- The text of a delimiter, or of a mark of several characters. -/
def IsMark (text : List Char) : Prop :=
  text = ['-', '-', '>'] ∨ text = ['<', '!', '-', '-'] ∨ text = ['|', '|'] ∨
    (∃ c ∈ ['~', '|', '^', '$', '*'], text = [c, '=']) ∨
    ∃ c, text = [c] ∧ isDelimiter c = true ∧ normalChar c = c

/-- The text of a number that is not too long. -/
def IsNumber (text : List Char) : Prop := ∃ n : Numeral, n.text = text ∧ n.IsShort

/-- What the lexer grants of a leaf. -/
def Leaf.Granted : Leaf → Prop
  | .whitespace text => text ≠ [] ∧ text.all isSpace = true
  | .comment text => (∀ c ∈ text, normalChar c = c) ∧ ¬['*', '/'] <:+: text
  | .ident name | .atKeyword name => Named name
  | .hash name isIdent => Named name ∧ (isIdent = false → StartsAsNumber name)
  | .string value _ | .url value _ => .char '\x00' ∉ value
  | .unicodeRange first last => first < Nat.pow 16 6 ∧ last < Nat.pow 16 6
  | .number text | .percentage text => IsNumber text
  | .dimension text unit => IsNumber text ∧ Named unit
  | .literal text => IsMark text
  | .fault _ => True

def Lexeme.Granted : Lexeme → Prop
  | .leaf l => l.Granted
  | .functionHead name => Named name
  | .opening _ | .closing _ => True

/-- Whether a leaf is written so that it can be read back. Damaged strings and addresses are not,
nor are addresses with a control character, units that look like an exponent, and a backslash before
a line end. -/
def Leaf.isFirm : Leaf → Bool
  | .string _ ended => ended
  | .url value ended => ended && value.all isKept
  | .dimension _ unit => isClearUnit unit
  | .literal text => text != ['\\']
  | .fault f => f == .badUrl
  | _ => true
where
  isKept : Point → Bool
    | .char c => !isUrlBreaker c || ['"', '\x27', '('].contains c
    | .surrogate _ => true

def Lexeme.isFirm : Lexeme → Bool
  | .leaf l => l.isFirm
  | _ => true

/-! ## Where a lexeme ends -/

/-- The lexer ends a lexeme where this text follows. -/
def Stops : Lexeme → List Char → Prop
  | .leaf (.whitespace _), rest => startsSpace rest = false
  | .leaf (.ident _), rest => startsName rest = false ∧ rest.head? ≠ some '('
  | .leaf (.atKeyword _), rest | .leaf (.hash _ _), rest | .leaf (.dimension _ _), rest =>
    startsName rest = false
  | .leaf (.number text), rest =>
    startsIdent rest = false ∧ rest.head? ≠ some '%' ∧
      endsNumber (isIntegerText text) rest = true
  | .leaf (.literal [c]), rest => Alone c rest
  | _, _ => True

/-- A lexeme as it is written does not run on into this text, where its source would not have. -/
def Clear : Lexeme → List Char → Prop
  | .leaf (.ident name), rest =>
    (name = Text.ofString "--" → rest.head? ≠ some '>') ∧
      (name = Text.ofString "u" ∨ name = Text.ofString "U" → rest.head? ≠ some '+')
  | .leaf (.unicodeRange _ _), rest => endsRange rest = true
  | .leaf (.literal ['<']), rest => rest.head? ≠ some '!'
  | .functionHead name, rest =>
    asciiLower name = Text.ofString "url" →
      ∃ q, (rest.dropWhile isSpace).head? = some q ∧ (q = '"' ∨ q = '\x27')
  | _, _ => True

/-- A text is read as a lexeme wherever the lexeme ends behind it. -/
def Restores (text : List Char) (x : Lexeme) : Prop :=
  (∀ d ∈ text, normalChar d = d) ∧ ∃ c cs, text = c :: cs ∧
    ∀ rest, Stops x rest → Clear x rest → step c (cs ++ rest) = .ok ([x], cs.length)

variable {c : Char} {cs n text rest : List Char}

theorem exists_ofChars {t : Text} (h : t.isPlain = true) : ∃ cs, t = Text.ofChars cs := by
  rw [← Text.isOk_toString?] at h
  cases hs : t.toString? with
  | error e => rw [hs] at h; cases h
  | ok s => exact ⟨s.toList, Text.eq_ofString_of_toString? hs⟩

theorem Named.exists_ofChars {name : Text} (h : Named name) (hp : name.isPlain = true) :
    ∃ n, name = Text.ofChars n ∧ n ≠ [] ∧ '\x00' ∉ n := by
  obtain ⟨n, rfl⟩ := Css.exists_ofChars hp
  refine ⟨n, rfl, ?_, fun hmem => h.no_nul (List.mem_map_of_mem hmem)⟩
  rintro rfl
  exact h.ne_nil rfl

/-! ## Each kind of lexeme -/

theorem restores_space (h : (Leaf.whitespace text).Granted) :
    Restores text (.leaf (.whitespace text)) := by
  obtain ⟨hne, hall⟩ := h
  obtain ⟨c, cs, rfl⟩ := List.exists_cons_of_ne_nil hne
  have hall := List.all_eq_true.1 hall
  refine ⟨fun d hd => normalChar_of_class (by decide) (hall d hd), c, cs, rfl,
    fun rest hstop _ => ?_⟩
  have hcs : (cs ++ rest).takeWhile isSpace = cs := by
    have hstop : rest.head?.any isSpace = false := hstop
    rw [List.takeWhile_append_of_pos fun d hd => hall d (List.mem_cons_of_mem c hd)]
    have := takeWhile_take_of_head hstop rest.length
    rw [List.take_length] at this
    rw [this, List.append_nil]
  rw [step_space (hall c List.mem_cons_self), hcs]

theorem restores_comment (h : (Leaf.comment text).Granted) :
    Restores ('/' :: '*' :: text ++ ['*', '/']) (.leaf (.comment text)) := by
  obtain ⟨hnormal, hinfix⟩ := h
  refine ⟨List.forall_mem_append.2 ⟨List.forall_mem_cons.2 ⟨by decide,
    List.forall_mem_cons.2 ⟨by decide, hnormal⟩⟩, normal_of_none rfl⟩, '/', _, rfl,
    fun rest _ _ => ?_⟩
  have hsolo : Solo '/' ('*' :: (text ++ '*' :: '/' :: rest)) :=
    .of_head (by decide) (by decide) (by decide) (by decide)
  have htext : ('*' :: text ++ ['*', '/']) ++ rest = '*' :: (text ++ '*' :: '/' :: rest) := by simp
  refine (congrArg (step '/') htext).trans ?_
  rw [hsolo.step_comment, comment_written hinfix]
  exact congrArg (fun k => Except.ok (_, k)) (by simp)

/-- A spelled word is read by what stands behind it. -/
theorem step_spelled_word (h : Spells text n) (hstart : ∀ rest, startsIdent (text ++ rest) = true) :
    ∃ c cs, text = c :: cs ∧ ∀ rest, startsName rest = false →
      (n = ['-', '-'] → rest.head? ≠ some '>') →
      (n = ['u'] ∨ n = ['U'] → rest.head? ≠ some '+') →
      step c (cs ++ rest) =
        .ok ((identLike (text ++ rest)).1, (identLike (text ++ rest)).2 - 1) := by
  cases text with
  | nil => exact absurd (hstart []) (by decide)
  | cons c cs => exact ⟨c, cs, rfl, fun rest => step_word h (hstart rest)⟩

theorem restores_ident {name : Text} (h : Named name) (hp : name.isPlain = true) :
    ∃ text, Serialize.identifier name = Text.ofChars text ∧
      Restores text (.leaf (.ident name)) := by
  obtain ⟨n, rfl, hne, hnul⟩ := h.exists_ofChars hp
  obtain ⟨text, htext, hspells, hstart⟩ := identifier_spells hne hnul
  obtain ⟨c, cs, rfl, hstep⟩ := step_spelled_word hspells hstart
  refine ⟨c :: cs, htext, hspells.normal, c, cs, rfl, fun rest hstop hclear => ?_⟩
  have hname := name_spelled hspells (name_of_not_startsName hstop.1)
  rw [hstep rest hstop.1 (fun h => hclear.1 (by rw [h]; rfl))
      (fun h => hclear.2 (h.imp (fun h => by rw [h]; rfl) fun h => by rw [h]; rfl)),
    identLike_ident hname List.drop_left hstop.2]
  rfl

theorem restores_function {name : Text} (h : Named name) (hp : name.isPlain = true) :
    ∃ text, Serialize.identifier name = Text.ofChars text ∧
      Restores (text ++ ['(']) (.functionHead name) := by
  obtain ⟨n, rfl, hne, hnul⟩ := h.exists_ofChars hp
  obtain ⟨text, htext, hspells, hstart⟩ := identifier_spells hne hnul
  obtain ⟨c, cs, rfl, hstep⟩ := step_spelled_word hspells hstart
  refine ⟨c :: cs, htext, List.forall_mem_append.2 ⟨hspells.normal, normal_of_none rfl⟩, c,
    cs ++ ['('], rfl, fun rest _ hclear => ?_⟩
  have hbracket : startsName ('(' :: rest) = false := rfl
  have hname := name_spelled hspells (name_of_not_startsName hbracket)
  rw [List.append_assoc, List.singleton_append,
    hstep ('(' :: rest) rfl (fun _ => by simp) (fun _ => by simp),
    identLike_function hname List.drop_left hclear]
  simp

theorem restores_keyword {name : Text} (h : Named name) (hp : name.isPlain = true) :
    ∃ text, Serialize.identifier name = Text.ofChars text ∧
      Restores ('@' :: text) (.leaf (.atKeyword name)) := by
  obtain ⟨n, rfl, hne, hnul⟩ := h.exists_ofChars hp
  obtain ⟨text, htext, hspells, hstart⟩ := identifier_spells hne hnul
  refine ⟨text, htext, List.forall_mem_cons.2 ⟨by decide, hspells.normal⟩, '@', text, rfl,
    fun rest hstop _ => ?_⟩
  have hsolo : Solo '@' (text ++ rest) := .of_head (by decide) (by decide) (by decide) (by decide)
  rw [hsolo.step_at, if_pos (hstart rest), name_spelled hspells (name_of_not_startsName hstop)]
  rfl

theorem startsIdent_hyphen_alone (h : startsName rest = false) :
    startsIdent ('-' :: rest) = false := by
  cases rest with
  | nil => rfl
  | cons d rest =>
    simp only [startsName, isName, Bool.or_eq_false_iff, decide_eq_false_iff_not] at h
    obtain ⟨⟨⟨hname, -⟩, hhyphen⟩, hescape⟩ := h
    by_cases hd : d = '\\'
    · subst hd
      show startsEscape rest = false
      simpa using hescape
    · exact startsIdent_hyphen hname ⟨hhyphen, hd⟩

theorem isName_of_isDigit (h : isDigit c = true) : isName c = true := by
  rw [isName, h, Bool.or_true]
  rfl

/-- Name characters are written as they are. -/
theorem name_cons_written (hc : isName c = true)
    (htext : Serialize.name (Text.ofChars (c :: n)) = Text.ofChars text) :
    ∃ more, text = c :: more ∧ Serialize.name (Text.ofChars n) = Text.ofChars more := by
  have hpoint : Serialize.namePoint (.char c) = [.char c] := by
    refine if_pos ?_
    rw [← hc, isName, isNameStart, Serialize.isAsciiLetter, Serialize.isAsciiDigit, isDigit]
    ac_rfl
  rw [Serialize.name, Text.ofChars, List.map_cons, List.flatMap_cons, hpoint] at htext
  cases text with
  | nil => cases htext
  | cons d more =>
    obtain ⟨hd, hmore⟩ := List.cons.inj htext
    exact ⟨more, congrArg (· :: more) (Point.char.inj hd).symm, hmore⟩

/-- A written name that starts as a number does is no identifier. -/
theorem StartsAsNumber.startsIdent_written (h : StartsAsNumber (Text.ofChars n))
    (htext : Serialize.name (Text.ofChars n) = Text.ofChars text)
    (hrest : startsName rest = false) :
    startsName (text ++ rest) = true ∧ startsIdent (text ++ rest) = false := by
  have points {n : List Char} {c : Char} {more : Text} (hn : Text.ofChars n = .char c :: more) :
      ∃ m, n = c :: m ∧ Text.ofChars m = more := by
    obtain ⟨d, m, rfl, hd, hm⟩ := List.map_eq_cons_iff.1 hn
    exact ⟨m, congrArg (· :: m) (Point.char.inj hd), hm⟩
  rcases h with ⟨c, more, hn, hc⟩ | hn | ⟨c, more, hn, hc⟩
  · obtain ⟨m, rfl, -⟩ := points hn
    obtain ⟨more, rfl, -⟩ := name_cons_written (isName_of_isDigit hc) htext
    have hsign := ne_sign_of_isDigit hc
    refine ⟨by rw [List.cons_append, startsName, isName_of_isDigit hc]; rfl,
      startsIdent_of_head (isNameStart_of_isDigit hc) ⟨hsign.2.1, ?_⟩⟩
    rintro rfl
    exact absurd hc (by decide)
  · obtain ⟨m, rfl, hm⟩ := points hn
    obtain rfl : m = [] := List.map_eq_nil_iff.1 hm
    obtain ⟨more, rfl, hmore⟩ := name_cons_written rfl htext
    obtain rfl : more = [] := List.map_eq_nil_iff.1 hmore.symm
    exact ⟨rfl, startsIdent_hyphen_alone hrest⟩
  · obtain ⟨m, rfl, hm⟩ := points hn
    obtain ⟨m, rfl, -⟩ := points hm
    obtain ⟨more, rfl, hmore⟩ := name_cons_written rfl htext
    obtain ⟨more, rfl, -⟩ := name_cons_written (isName_of_isDigit hc) hmore
    have hsign := ne_sign_of_isDigit hc
    refine ⟨rfl, startsIdent_hyphen (isNameStart_of_isDigit hc) ⟨hsign.2.1, ?_⟩⟩
    rintro rfl
    exact absurd hc (by decide)

theorem restores_hash {name : Text} {isIdent : Bool} (h : (Leaf.hash name isIdent).Granted)
    (hp : name.isPlain = true) :
    ∃ text, (if isIdent then Serialize.identifier name else Serialize.name name) =
      Text.ofChars text ∧ Restores ('#' :: text) (.leaf (.hash name isIdent)) := by
  obtain ⟨hnamed, hnumber⟩ := h
  obtain ⟨n, rfl, hne, hnul⟩ := hnamed.exists_ofChars hp
  have hash {text : List Char} (hspells : Spells text n)
      (hstart : ∀ rest, startsName rest = false →
        startsName (text ++ rest) = true ∧ startsIdent (text ++ rest) = isIdent) :
      Restores ('#' :: text) (.leaf (.hash (Text.ofChars n) isIdent)) := by
    refine ⟨List.forall_mem_cons.2 ⟨by decide, hspells.normal⟩, '#', text, rfl,
      fun rest hstop _ => ?_⟩
    obtain ⟨hname, hident⟩ := hstart rest hstop
    have hspelled := name_spelled hspells (name_of_not_startsName hstop)
    cases htext : text ++ rest with
    | nil =>
      rw [htext] at hname
      cases hname
    | cons d more =>
      rw [htext] at hname hident hspelled
      have hsolo : Solo '#' (d :: more) := .of_head (by decide) (by decide) (by decide) (by decide)
      rw [startsName] at hname
      rw [hsolo.step_hash, if_pos hname, hspelled, hident]
      rfl
  cases isIdent with
  | true =>
    obtain ⟨text, htext, hspells, hstart⟩ := identifier_spells hne hnul
    exact ⟨text, htext, hash hspells fun rest _ =>
      ⟨startsName_of_startsIdent (hstart rest), hstart rest⟩⟩
  | false =>
    obtain ⟨text, htext, hspells⟩ := name_spells hnul
    exact ⟨text, htext, hash hspells fun rest => (hnumber rfl).startsIdent_written htext⟩

theorem stringPoint_written (hnul : c ≠ '\x00') :
    Serialize.stringPoint (.char c) = [.char c] ∧ isQuoted c = true ∨
      ∃ es, Serialize.stringPoint (.char c) = Text.ofChars ('\\' :: es) ∧ EscapeOf c es := by
  rw [Serialize.stringPoint]
  by_cases hc : (c = '"' || c = '\\' || c = '\n' || c = '\r' || c = '\x0c') = true
  · rw [if_pos hc]
    refine .inr (escaped_eq ?_ hnul)
    simp only [Bool.or_eq_true, decide_eq_true_eq] at hc
    rcases hc with (((rfl | rfl) | rfl) | rfl) | rfl <;> rfl
  · rw [if_neg hc]
    refine .inl ⟨rfl, ?_⟩
    simp only [Bool.or_eq_true, decide_eq_true_eq, not_or] at hc
    simp [isQuoted, hc, hnul]

theorem urlPoint_written (hnul : c ≠ '\x00') (hkept : Leaf.isFirm.isKept (.char c) = true) :
    Serialize.urlPoint (.char c) = [.char c] ∧ isBareUrl c = true ∨
      ∃ es, Serialize.urlPoint (.char c) = Text.ofChars ('\\' :: es) ∧ EscapeOf c es := by
  rw [Serialize.urlPoint]
  by_cases htab : c = '\t'
  · subst htab
    have htab : EscapeOf '\t' (['9'] ++ [' ']) :=
      escapeOf_number rfl (List.cons_ne_nil _ _) (by decide) (by decide)
    exact .inr ⟨_, rfl, htab⟩
  rw [if_neg htab]
  by_cases hc : (c = ' ' || c = '"' || c = '\x27' || c = '(' || c = ')' || c = '\\' || c = '\n' ||
      c = '\r' || c = '\x0c') = true
  · rw [if_pos hc]
    refine .inr (escaped_eq ?_ hnul)
    simp only [Bool.or_eq_true, decide_eq_true_eq] at hc
    rcases hc with (((((((rfl | rfl) | rfl) | rfl) | rfl) | rfl) | rfl) | rfl) | rfl <;> rfl
  · rw [if_neg hc]
    refine .inl ⟨rfl, ?_⟩
    simp only [Bool.or_eq_true, decide_eq_true_eq, not_or] at hc
    have hbreaker : isUrlBreaker c = false := by
      simpa [Leaf.isFirm.isKept, hc] using hkept
    simp [isBareUrl, isSpace, hbreaker, hc, htab]

theorem restores_string {value : Text} (h : .char '\x00' ∉ value) (hp : value.isPlain = true) :
    ∃ text, Serialize.quoted value true = Text.ofChars text ∧
      Restores text (.leaf (.string value true)) := by
  obtain ⟨v, rfl⟩ := exists_ofChars hp
  obtain ⟨text, htext, (hquotes : Quotes isQuoted text v)⟩ :=
    exists_quotes v fun c hc => stringPoint_written (by rintro rfl; exact h (List.mem_map_of_mem hc))
  refine ⟨'"' :: (text ++ ['"']), ?_, ?_⟩
  · rw [Serialize.quoted, htext, if_pos rfl, List.cons_append]
    exact congrArg (Point.char '"' :: ·) (Text.ofChars_append text ['"']).symm
  have hraw : ∀ c, isQuoted c = true → normalChar c = c := fun c => normalChar_of_class (by decide)
  refine ⟨List.forall_mem_cons.2 ⟨by decide, List.forall_mem_append.2 ⟨hquotes.normal hraw,
    normal_of_none rfl⟩⟩, '"', text ++ ['"'], rfl, fun rest _ _ => ?_⟩
  have hsolo : Solo '"' (text ++ '"' :: rest) :=
    .of_head (by decide) (by decide) (by decide) (by decide)
  rw [List.append_assoc, List.singleton_append, hsolo.step_string (by decide), stringLike,
    quoted_written hquotes]
  simp

theorem restores_url {value : Text} (h : .char '\x00' ∉ value) (hp : value.isPlain = true)
    (hkept : value.all Leaf.isFirm.isKept = true) :
    ∃ text, Serialize.url value true = Text.ofChars text ∧
      Restores text (.leaf (.url value true)) := by
  obtain ⟨v, rfl⟩ := exists_ofChars hp
  obtain ⟨text, htext, (hquotes : Quotes isBareUrl text v)⟩ :=
    exists_quotes v fun c hc => urlPoint_written (by rintro rfl; exact h (List.mem_map_of_mem hc))
      (List.all_eq_true.1 hkept _ (List.mem_map_of_mem hc))
  refine ⟨'u' :: ('r' :: 'l' :: '(' :: (text ++ [')'])), ?_, ?_⟩
  · rw [Serialize.url, htext, if_pos rfl, List.append_assoc]
    exact congrArg (Text.ofString "url(" ++ ·) (Text.ofChars_append text [')']).symm
  have hraw : ∀ c, isBareUrl c = true → normalChar c = c := fun c => normalChar_of_class (by decide)
  refine ⟨?_, 'u', _, rfl, fun rest _ _ => ?_⟩
  · show ∀ d ∈ ['u', 'r', 'l', '('] ++ (text ++ [')']), normalChar d = d
    exact List.forall_mem_append.2 ⟨normal_of_none rfl,
      List.forall_mem_append.2 ⟨hquotes.normal hraw, normal_of_none rfl⟩⟩
  have hword : Spells ['u', 'r', 'l'] ['u', 'r', 'l'] :=
    .char rfl (.char rfl (.char rfl .nil))
  have hbracket : startsName ('(' :: (text ++ ')' :: rest)) = false := rfl
  have hname := name_spelled hword (name_of_not_startsName hbracket)
  have htail : ('r' :: 'l' :: '(' :: (text ++ [')'])) ++ rest =
      ['r', 'l'] ++ '(' :: (text ++ ')' :: rest) := by simp
  obtain ⟨c, more, hhead, hspace, hquote⟩ := hquotes.head_url rest
  refine (congrArg (step 'u') htail).trans ?_
  rw [step_word hword rfl rfl (fun _ => by simp) (fun _ => by simp),
    identLike_url hname List.drop_left fun q hq => ?_, url_written hquotes]
  · simp [Nat.add_comm 4]
  · rw [hhead, List.dropWhile_cons_of_neg (by rw [hspace]; decide), List.head?_cons,
      Option.some.injEq] at hq
    rwa [← hq]

theorem restores_range {a b : Nat} (h : (Leaf.unicodeRange a b).Granted) :
    Restores ('U' :: '+' :: rangeText a b) (.leaf (.unicodeRange a b)) := by
  have normal (n : Nat) : ∀ c ∈ Serialize.hex n, normalChar c = c := fun c hc =>
    normalChar_of_class (by decide) (List.all_eq_true.1 (hex_spec n).1 c hc)
  refine ⟨List.forall_mem_cons.2 ⟨by decide, List.forall_mem_cons.2 ⟨by decide, ?_⟩⟩, 'U',
    '+' :: rangeText a b, rfl, fun rest _ hclear => step_range h.1 h.2 hclear⟩
  rw [rangeText]
  refine List.forall_mem_append.2 ⟨normal a, ?_⟩
  split
  · exact List.forall_mem_nil _
  · exact List.forall_mem_cons.2 ⟨by decide, normal b⟩

theorem exponentLength_of_not_startsIdent (h : startsIdent rest = false) :
    exponentLength rest = 0 := by
  cases rest with
  | nil => rfl
  | cons c rest =>
    have hname := isNameStart_of_not_startsIdent (by rw [h]; decide)
    refine exponentLength_of_head ⟨?_, ?_⟩ <;> rintro rfl <;> cases hname

theorem restores_number (h : IsNumber text) : Restores text (.leaf (.number text)) := by
  obtain ⟨m, rfl, hshort⟩ := h
  obtain ⟨c, cs, hcs, -⟩ := m.exists_cons
  refine ⟨m.normal, c, cs, hcs, fun rest hstop _ => ?_⟩
  obtain ⟨hident, hpercent, hends⟩ := hstop
  rw [m.isIntegerText_text] at hends
  rw [step_numeral hcs hends (exponentLength_of_not_startsIdent hident),
    numeric_numeral hshort, if_neg (by rw [hident]; decide),
    if_neg hpercent, hcs]
  rfl

theorem restores_percentage (h : IsNumber text) :
    Restores (text ++ ['%']) (.leaf (.percentage text)) := by
  obtain ⟨m, rfl, hshort⟩ := h
  obtain ⟨c, cs, hcs, -⟩ := m.exists_cons
  refine ⟨List.forall_mem_append.2 ⟨m.normal, normal_of_none rfl⟩, c, cs ++ ['%'],
    by rw [hcs]; rfl, fun rest _ _ => ?_⟩
  have hends : endsNumber m.isInteger ('%' :: rest) = true := by cases m.isInteger <;> rfl
  have hident : startsIdent ('%' :: rest) = false := rfl
  rw [List.append_assoc, List.singleton_append, step_numeral hcs hends rfl,
    numeric_numeral hshort, if_neg (by rw [hident]; decide), List.head?_cons, if_pos rfl, hcs]
  simp [one, Except.map]

theorem endsNumber_of_startsIdent (isInteger : Bool) (h : startsIdent rest = true) :
    endsNumber isInteger rest = true := by
  cases rest with
  | nil => cases h
  | cons c rest =>
    have hc : isDigit c = false ∧ c ≠ '.' := by
      constructor
      · refine Bool.eq_false_iff.2 fun hdigit => ?_
        have hsign := ne_sign_of_isDigit hdigit
        rw [startsIdent_of_head (isNameStart_of_isDigit hdigit) ⟨hsign.2.1, ?_⟩] at h
        · cases h
        · rintro rfl
          exact absurd hdigit (by decide)
      · rintro rfl
        cases h
    simp [endsNumber, startsDigit, startsPoint, hc]

theorem restores_dimension {unit : Text} (h : IsNumber text) (hunit : Named unit)
    (hp : unit.isPlain = true) (hclear : isClearUnit unit = true) :
    ∃ behind, Serialize.unit unit = Text.ofChars behind ∧
      Restores (text ++ behind) (.leaf (.dimension text unit)) := by
  obtain ⟨m, rfl, hshort⟩ := h
  obtain ⟨c, cs, hcs, -⟩ := m.exists_cons
  obtain ⟨n, rfl, hne, hnul⟩ := hunit.exists_ofChars hp
  obtain ⟨behind, hbehind, hspells, hstart, hexponent⟩ := unit_spells hne hnul hclear
  refine ⟨behind, hbehind, List.forall_mem_append.2 ⟨m.normal, hspells.normal⟩, c, cs ++ behind,
    by rw [hcs]; rfl, fun rest hstop _ => ?_⟩
  have hends := endsNumber_of_startsIdent m.isInteger (hstart rest)
  rw [List.append_assoc, step_numeral hcs hends (hexponent rest), numeric_numeral hshort,
    if_pos (hstart rest), name_spelled hspells (name_of_not_startsName hstop), hcs]
  simp [one, Except.map]

theorem restores_literal (h : IsMark text) (hfirm : text ≠ ['\\']) :
    Restores text (.leaf (.literal text)) := by
  rcases h with rfl | rfl | rfl | ⟨c, hc, rfl⟩ | ⟨c, rfl, hc, hnormal⟩
  · exact ⟨normal_of_none rfl, '-', ['-', '>'], rfl, fun rest _ _ => step_arrow rest⟩
  · exact ⟨normal_of_none rfl, '<', ['!', '-', '-'], rfl, fun rest _ _ => step_comment_mark rest⟩
  · exact ⟨normal_of_none rfl, '|', ['|'], rfl, fun rest _ _ => step_column rest⟩
  · exact ⟨List.forall_mem_cons.2 ⟨normal_of_none rfl c hc, normal_of_none rfl⟩, c, ['='], rfl,
      fun rest _ _ => step_equal hc rest⟩
  · refine ⟨fun d hd => List.mem_singleton.1 hd ▸ hnormal, c, [], rfl, fun rest hstop hclear => ?_⟩
    refine step_delimiter hc hstop ?_
    rintro rfl
    exact hclear

/-- The mark that stands for a damaged address is a damaged address. -/
theorem url_badUrl (rest : List Char) :
    url ("[bad url])".toList ++ rest) = ([.fault .badUrl], 10) := by
  have hbody : urlBody ("[bad url])".toList ++ rest) = (Text.ofString "[bad", .bad, 5) := by
    show urlBody ('[' :: 'b' :: 'a' :: 'd' :: ' ' :: 'u' :: 'r' :: 'l' :: ']' :: ')' :: rest) = _
    rw [urlBody_cons rfl, urlBody_cons rfl, urlBody_cons rfl, urlBody_cons rfl, urlBody,
      if_neg (by decide), if_pos (by decide)]
    rfl
  have hblanks : ("[bad url])".toList ++ rest).takeWhile isSpace = [] := rfl
  rw [url, hblanks]
  simp only [List.length_nil, List.drop_zero, hbody]
  rfl

theorem restores_badUrl :
    Restores "url([bad url])".toList (.leaf (.fault .badUrl)) := by
  refine ⟨normal_of_none (by decide), 'u', ['r', 'l'] ++ '(' :: "[bad url])".toList, rfl,
    fun rest _ _ => ?_⟩
  have hword : Spells ['u', 'r', 'l'] ['u', 'r', 'l'] :=
    .char rfl (.char rfl (.char rfl .nil))
  have hbracket : startsName ('(' :: ("[bad url])".toList ++ rest)) = false := rfl
  have hname := name_spelled hword (name_of_not_startsName hbracket)
  refine (step_word hword rfl hbracket (fun _ => by simp) (fun _ => by simp)).trans ?_
  rw [identLike_url hname List.drop_left fun q hq => ?_, url_badUrl]
  · rfl
  · obtain rfl : '[' = q := Option.some.inj hq
    decide

/-- A firm lexeme is read back from what is written of it. -/
theorem exists_restores {x : Lexeme} (hg : x.Granted) (hf : x.isFirm = true)
    (hp : x.written.isPlain = true) :
    ∃ text, x.written = Text.ofChars text ∧ Restores text x := by
  have ending {t u : Text} (h : (t ++ u).isPlain = true) : t.isPlain = true ∧ u.isPlain = true := by
    rwa [Text.isPlain_append, Bool.and_eq_true] at h
  cases x with
  | opening b => exact ⟨[b.opener], rfl, normal_of_none (by cases b <;> decide), b.opener, [],
      rfl, fun rest _ _ => step_opener b rest⟩
  | closing b => exact ⟨[b.closer], rfl, normal_of_none (by cases b <;> decide), b.closer, [],
      rfl, fun rest _ _ => step_closer b rest⟩
  | functionHead name =>
    have hname : name.isPlain = true := by
      rw [← Serialize.isPlain_identifier]
      exact (ending hp).1
    obtain ⟨text, htext, hrestores⟩ := restores_function hg hname
    refine ⟨text ++ ['('], ?_, hrestores⟩
    rw [Lexeme.written, htext, Text.ofChars_append]
    rfl
  | leaf l =>
    have hplain : l.text.isPlain = true := by
      rwa [← Serialize.isPlain_leaf]
    cases l with
    | whitespace text => exact ⟨text, rfl, restores_space hg⟩
    | comment text => exact ⟨_, rfl, restores_comment hg⟩
    | ident name => exact restores_ident hg hplain
    | atKeyword name =>
      obtain ⟨text, htext, hrestores⟩ := restores_keyword hg hplain
      exact ⟨'@' :: text, congrArg (Point.char '@' :: ·) htext, hrestores⟩
    | hash name isIdent =>
      obtain ⟨text, htext, hrestores⟩ := restores_hash hg hplain
      exact ⟨'#' :: text, congrArg (Point.char '#' :: ·) htext, hrestores⟩
    | string value ended =>
      obtain rfl : ended = true := hf
      exact restores_string hg hplain
    | url value ended =>
      obtain ⟨rfl, hkept⟩ := Bool.and_eq_true_iff.1 hf
      exact restores_url hg hplain hkept
    | unicodeRange first last => exact ⟨_, rfl, restores_range hg⟩
    | number text => exact ⟨text, rfl, restores_number hg⟩
    | percentage text => exact ⟨text ++ ['%'], rfl, restores_percentage hg⟩
    | dimension text unit =>
      obtain ⟨behind, hbehind, hrestores⟩ := restores_dimension hg.1 hg.2 hplain hf
      refine ⟨text ++ behind, ?_, hrestores⟩
      rw [Lexeme.written, Serialize.leaf, hbehind, Text.ofChars_append]
    | literal text =>
      exact ⟨text, rfl, restores_literal hg (bne_iff_ne.1 hf)⟩
    | fault f =>
      cases f with
      | badUrl => exact ⟨_, rfl, restores_badUrl⟩
      | _ => cases hf

end StylePrune.Css
