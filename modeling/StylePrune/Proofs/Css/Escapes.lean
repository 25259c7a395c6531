import StylePrune.Proofs.Css.Encodable
import StylePrune.Proofs.Css.LineEnds
import StylePrune.Proofs.Css.Spelled
import StylePrune.Proofs.Outcome

/-!
# Texts that give plain trees

A surrogate comes into a token by an escape that names it, and the lexer refuses a text only for the
digits of a number. So a text without such escapes gives plain tokens (`plain_lexemesFrom`), which
nesting and reading keep (`arePlain_run`, `Reading.isPlain_nodes`), and a text without long runs of
digits is not refused (`isOk_lexemesFrom`).
-/

namespace StylePrune.Css

namespace Lexer

variable {cs rest : List Char}

/-- The code that the hexadecimal digits behind a backslash name; zero if there are none. -/
def escapedCode (rest : List Char) : Nat := ofHex ((rest.take 6).takeWhile isHex)

/-- No escape names a surrogate. -/
def PlainEscapes (cs : List Char) : Prop :=
  ∀ rest, '\\' :: rest <:+ cs → escapedCode rest < 0xD800 ∨ 0xE000 ≤ escapedCode rest

/-- No run of digits is longer than an integer may be. -/
def ShortNumbers (cs : List Char) : Prop :=
  ∀ rest, rest <:+ cs → digits rest ≤ Decimal.maxDigits

theorem PlainEscapes.suffix (h : PlainEscapes cs) (hs : rest <:+ cs) : PlainEscapes rest :=
  fun more hm => h more (hm.trans hs)

theorem PlainEscapes.drop (h : PlainEscapes cs) (k : Nat) : PlainEscapes (cs.drop k) :=
  h.suffix (List.drop_suffix k cs)

theorem PlainEscapes.tail {c : Char} (h : PlainEscapes (c :: rest)) : PlainEscapes rest :=
  h.drop 1

theorem ShortNumbers.drop (h : ShortNumbers cs) (k : Nat) : ShortNumbers (cs.drop k) :=
  fun more hm => h more (hm.trans (List.drop_suffix k cs))

theorem plainEscapes_cons {c : Char} : PlainEscapes (c :: rest) ↔
    (c = '\\' → escapedCode rest < 0xD800 ∨ 0xE000 ≤ escapedCode rest) ∧ PlainEscapes rest := by
  refine ⟨fun h => ⟨fun hc => h rest (hc ▸ List.suffix_rfl), h.tail⟩, fun h more hm => ?_⟩
  rcases List.suffix_cons_iff.1 hm with heq | hm
  · obtain ⟨rfl, rfl⟩ := List.cons.inj heq
    exact h.1 rfl
  · exact h.2 more hm

theorem shortNumbers_cons {c : Char} : ShortNumbers (c :: rest) ↔
    digits (c :: rest) ≤ Decimal.maxDigits ∧ ShortNumbers rest := by
  refine ⟨fun h => ⟨h _ List.suffix_rfl, h.drop 1⟩, fun h more hm => ?_⟩
  rcases List.suffix_cons_iff.1 hm with rfl | hm
  · exact h.1
  · exact h.2 more hm

instance decidablePlainEscapes : ∀ cs : List Char, Decidable (PlainEscapes cs)
  | [] => .isTrue fun _ h => by cases List.suffix_nil.1 h
  | _ :: rest =>
    have := decidablePlainEscapes rest
    decidable_of_decidable_of_iff plainEscapes_cons.symm

instance decidableShortNumbers : ∀ cs : List Char, Decidable (ShortNumbers cs)
  | [] => .isTrue fun _ h => List.suffix_nil.1 h ▸ Nat.zero_le _
  | _ :: rest =>
    have := decidableShortNumbers rest
    decidable_of_decidable_of_iff shortNumbers_cons.symm

/-! ## Names, strings and addresses -/

theorem isChar_escape (h : escapedCode rest < 0xD800 ∨ 0xE000 ≤ escapedCode rest) :
    (escape rest).1.isChar = true := by
  fun_cases escape rest with
  | case1 | case2 => rfl
  | case3 =>
    change (if escapedCode rest = 0 then Point.char '\uFFFD'
      else Point.ofCode (escapedCode rest)).isChar = true
    rw [Point.ofCode, dif_neg (by omega)]
    repeat' split
    all_goals rfl

/-- A text that begins with what an escape names. -/
theorem PlainEscapes.isPlain_cons {c : Char} {p : Point} {k : Nat} {value : Text}
    (h : PlainEscapes (c :: rest)) (hc : c = '\\') (hp : escape rest = (p, k))
    (hvalue : value.isPlain = true) : Text.isPlain (p :: value) = true := by
  have hchar := isChar_escape (h rest (hc ▸ List.suffix_rfl))
  rw [hp] at hchar
  rw [Text.isPlain_cons, hchar, hvalue]
  rfl

theorem isPlain_name (h : PlainEscapes cs) : (name cs).1.isPlain = true := by
  fun_induction name cs with
  | case1 | case4 => rfl
  | case2 c rest hc value n hname ih =>
    rw [hname] at ih
    exact ih h.tail
  | case3 c rest hc hescape p k hp value n hname ih =>
    rw [hname] at ih
    exact h.isPlain_cons (of_decide_eq_true (Bool.and_eq_true_iff.1 hescape).1) hp
      (ih (h.tail.drop k))

theorem isPlain_quoted (q : Char) (h : PlainEscapes cs) : (quoted q cs).1.isPlain = true := by
  fun_induction quoted q cs with
  | case1 | case2 | case3 | case6 => rfl
  | case4 more value stop n hmore hq ih =>
    rw [hmore] at ih
    exact ih (h.drop 2)
  | case5 rest _ _ p k hp value stop n hrest hq ih =>
    rw [hrest] at ih
    exact h.isPlain_cons rfl hp (ih (h.tail.drop k))
  | case7 c rest _ _ _ value stop n hrest ih =>
    rw [hrest] at ih
    exact ih h.tail

theorem isPlain_urlBody (h : PlainEscapes cs) : (urlBody cs).1.isPlain = true := by
  fun_induction urlBody cs with
  | case1 | case2 | case3 | case5 => rfl
  | case4 c rest _ _ hescape p k hp value stop n hrest ih =>
    rw [hrest] at ih
    exact h.isPlain_cons (of_decide_eq_true (Bool.and_eq_true_iff.1 hescape).1) hp
      (ih (h.tail.drop k))
  | case6 c rest _ _ _ _ value stop n hrest ih =>
    rw [hrest] at ih
    exact ih h.tail

end Lexer

/-! ## Lexemes -/

/-- The decoded text that a lexeme holds. -/
def Lexeme.text : Lexeme → Text
  | .leaf l => l.text
  | .functionHead name => name
  | .opening _ | .closing _ => []

namespace Lexer

variable {cs rest : List Char}

/-- Lexemes without surrogates. -/
def Plain (out : List Lexeme) : Prop := ∀ x ∈ out, x.text.isPlain = true

theorem plain_one {x : Lexeme} {k : Nat} {r : List Lexeme × Nat}
    (hx : x.text.isPlain = true) (h : one x k = .ok r) : Plain r.1 := by
  obtain rfl := Except.ok.inj h
  simpa [Plain] using hx

theorem plain_url (h : PlainEscapes cs) : Plain ((url cs).1.map .leaf) := by
  have hbody := isPlain_urlBody (h.drop (cs.takeWhile isSpace).length)
  fun_cases url cs with
  | case1 blanks value _ _ hvalue | case2 blanks value _ _ hvalue =>
    rw [hvalue] at hbody
    simpa [Plain, Lexeme.text, Leaf.text, Text.isPlain] using hbody
  | case3 => simp [Plain, Lexeme.text, Leaf.text, Text.isPlain]

theorem plain_identLike (h : PlainEscapes cs) : Plain (identLike cs).1 := by
  have hname := isPlain_name h
  have hbehind : ∀ {n : Nat} {rest : List Char}, cs.drop n = '(' :: rest → PlainEscapes rest :=
    fun {n _} hrest => PlainEscapes.tail (hrest ▸ h.drop n)
  fun_cases identLike cs with
  | case1 value n hvalue | case4 value n hvalue | case5 value n hvalue =>
    rw [hvalue] at hname
    simpa [Plain, Lexeme.text, Leaf.text] using hname
  | case2 value n _ rest hrest _ _ _ _ _ leaves k hurl
  | case3 value n _ rest hrest _ _ leaves k hurl =>
    have hleaves := plain_url (hbehind hrest)
    rwa [hurl] at hleaves

theorem plain_numeric {n : Nat} {isInteger : Bool} {r : List Lexeme × Nat} (h : PlainEscapes cs)
    (hr : numeric cs n isInteger = .ok r) : Plain r.1 := by
  revert hr
  have hunit := isPlain_name (h.drop n)
  fun_cases numeric cs n isInteger with
  | case1 => exact fun hr => by cases hr
  | case2 _ _ _ _ _ value k hvalue =>
    rw [hvalue] at hunit
    exact plain_one hunit
  | case3 | case4 => exact plain_one rfl

theorem plain_stringLike (q : Char) (h : PlainEscapes rest) : Plain (stringLike q rest).1 := by
  have hvalue := isPlain_quoted q h
  fun_cases stringLike q rest with
  | case1 value n hq | case3 value n hq =>
    rw [hq] at hvalue
    simpa [Plain, Lexeme.text, Leaf.text, Text.isPlain] using hvalue
  | case2 => simp [Plain, Lexeme.text, Leaf.text, Text.isPlain]

theorem plain_step {c : Char} {r : List Lexeme × Nat} (h : PlainEscapes (c :: rest))
    (hr : step c rest = .ok r) : Plain r.1 := by
  revert hr
  have hname := isPlain_name h.tail
  fun_cases step c rest with
  | case4 =>
    rename_i hout
    intro hr
    obtain rfl := Except.ok.inj hr
    have hplain := plain_identLike h
    rwa [hout] at hplain
  | case5 =>
    intro hr
    obtain ⟨r', hr', rfl⟩ := Outcome.map_eq_ok.1 hr
    exact (plain_numeric h hr' : Plain r'.1)
  | case6 =>
    rename_i hvalue
    rw [hvalue] at hname
    exact plain_one hname
  | case8 => exact plain_one hname
  | case13 =>
    intro hr
    obtain rfl := Except.ok.inj hr
    exact plain_stringLike c h.tail
  | _ => exact plain_one rfl

/-- A text without escapes that name surrogates gives lexemes without surrogates. -/
theorem plain_lexemesFrom (p : Position) (xs : List (Position × Lexeme)) (hcs : PlainEscapes cs)
    (h : lexemesFrom p cs = .ok xs) : ∀ x ∈ xs, x.2.text.isPlain = true := by
  fun_induction lexemesFrom p cs generalizing xs with
  | case1 =>
    obtain rfl := Except.ok.inj h
    exact fun x hx => by cases hx
  | case2 | case3 => cases h
  | case4 p c rest out n hstep more hmore ih =>
    obtain rfl := Except.ok.inj h
    intro x hx
    rcases List.mem_append.1 hx with hx | hx
    · obtain ⟨lexeme, hlexeme, rfl⟩ := List.mem_map.1 hx
      exact plain_step hcs hstep lexeme hlexeme
    · exact ih more (hcs.tail.drop n) hmore x hx

/-! ## Numbers -/

/-- An integer has no more digits than the run that stands behind its sign. -/
theorem width_le {n : Nat} (hcs : ShortNumbers cs) (h : numberLength? cs = some (n, true)) :
    ((cs.take n).filter isDigit).length ≤ Decimal.maxDigits := by
  unfold numberLength? at h
  extract_lets sign whole fraction mantissa exponent at h
  have hsign : (cs.take sign).filter isDigit = [] := by
    cases cs with
    | nil => rw [List.take_nil, List.filter_nil]
    | cons c rest =>
      simp only [sign]
      split
      · rename_i hc
        rcases Bool.or_eq_true_iff.1 hc with hc | hc <;> rw [of_decide_eq_true hc] <;> rfl
      · rfl
  have hn : n = sign + whole := by
    split at h
    · cases h
    · obtain ⟨rfl, hinteger⟩ := Prod.mk.inj (Option.some.inj h)
      obtain ⟨hfraction, hexponent⟩ := Bool.and_eq_true_iff.1 hinteger
      have hfraction := of_decide_eq_true hfraction
      rw [of_decide_eq_true hexponent]
      simp only [mantissa, hfraction, if_true, Nat.add_zero]
  rw [hn, List.take_add, List.filter_append, hsign, List.nil_append]
  calc (((cs.drop sign).take whole).filter isDigit).length
      ≤ ((cs.drop sign).take whole).length := List.length_filter_le ..
    _ ≤ whole := List.length_take_le ..
    _ ≤ Decimal.maxDigits := hcs _ (List.drop_suffix sign cs)

theorem isOk_numeric {n : Nat} {isInteger : Bool} (hcs : ShortNumbers cs)
    (h : numberLength? cs = some (n, isInteger)) : (numeric cs n isInteger).isOk = true := by
  fun_cases numeric cs n isInteger with
  | case1 text width hlong =>
    obtain ⟨rfl, hlong⟩ := Bool.and_eq_true_iff.1 hlong
    exact absurd (of_decide_eq_true hlong) (Nat.not_lt.2 (width_le hcs h))
  | _ => rfl

theorem isOk_step {c : Char} (hcs : ShortNumbers (c :: rest)) : (step c rest).isOk = true := by
  fun_cases step c rest with
  | case5 =>
    rename_i hlength
    have hok := isOk_numeric hcs hlength
    revert hok
    cases numeric (c :: rest) _ _ with
    | ok r => exact id
    | error e => exact id
  | _ => rfl

/-- A text without long runs of digits is not refused. -/
theorem isOk_lexemesFrom (p : Position) (hcs : ShortNumbers cs) :
    (lexemesFrom p cs).isOk = true := by
  fun_induction lexemesFrom p cs with
  | case1 => rfl
  | case2 p c rest e hstep =>
    have hok := isOk_step hcs
    rw [hstep] at hok
    cases hok
  | case3 p c rest out n hstep e hmore ih =>
    have hok := ih (hcs.drop (n + 1))
    rw [hmore] at hok
    cases hok
  | case4 => rfl

/-! ## Normal forms -/

theorem takeWhile_normalize {p : Char → Bool}
    (hp : ['\n', '\r', '\x0c', '\x00', '\uFFFD'].any p = false) (cs : List Char) :
    (normalize cs).takeWhile p = cs.takeWhile p := by
  simp only [List.any_cons, List.any_nil, Bool.or_false, Bool.or_eq_false_iff] at hp
  obtain ⟨hn, hr, hf, hz, hu⟩ := hp
  fun_induction normalize cs with
  | case1 => rfl
  | case2 cs => simp only [List.takeWhile_cons, hn, hr, Bool.false_eq_true, if_false]
  | case3 c cs hpair ih =>
    change (normalChar c :: normalize cs).takeWhile p = _
    rw [List.takeWhile_cons, List.takeWhile_cons, ih]
    rcases normalChar_eq (c := normalChar c) rfl with hc | ⟨hc, rfl | rfl⟩ | ⟨hc, rfl⟩
    · rw [← hc]
    · simp only [hc, hn, hr, Bool.false_eq_true, if_false]
    · simp only [hc, hn, hf, Bool.false_eq_true, if_false]
    · simp only [hc, hu, hz, Bool.false_eq_true, if_false]

theorem suffix_normalize (h : rest <:+ normalize cs) : ∃ raw, raw <:+ cs ∧ normalize raw = rest :=
  ⟨rawDrop _ cs, ⟨rawTake _ cs, rawTake_append_rawDrop _ cs⟩,
    (normalize_rawDrop _ cs).trans (List.suffix_iff_eq_drop.1 h).symm⟩

theorem PlainEscapes.normalize (h : PlainEscapes cs) : PlainEscapes (normalize cs) := by
  intro rest hrest
  obtain ⟨raw, hraw, hnormal⟩ := suffix_normalize hrest
  obtain ⟨more, hstarts, rfl⟩ := starts_of_normalize hnormal
  obtain rfl := hstarts.eq_cons (by decide) (by decide)
  have hdigits : escapedCode (Css.normalize more) = escapedCode more := by
    rw [escapedCode, escapedCode, ← List.take_takeWhile, ← List.take_takeWhile,
      takeWhile_normalize (by decide)]
  rw [hdigits]
  exact h more hraw

theorem ShortNumbers.normalize (h : ShortNumbers cs) : ShortNumbers (normalize cs) := by
  intro rest hrest
  obtain ⟨raw, hraw, rfl⟩ := suffix_normalize hrest
  rw [digits, takeWhile_normalize (by decide)]
  exact h raw hraw

end Lexer

/-! ## Nesting -/

theorem arePlain_eq_all (ts : List Token) : arePlain ts = ts.all Token.isPlain := by
  induction ts with
  | nil => rfl
  | cons t rest ih => rw [arePlain, ih, List.all_cons]

theorem arePlain_cons {t : Token} {ts : List Token} :
    arePlain (t :: ts) = true ↔ t.isPlain = true ∧ arePlain ts = true := Bool.and_eq_true_iff

theorem arePlain_reverse (ts : List Token) : arePlain ts.reverse = arePlain ts := by
  rw [arePlain_eq_all, arePlain_eq_all, List.all_reverse]

/-- What opens a list holds no surrogate, nor do the tokens before it. -/
structure Frame.Plain (f : Frame) : Prop where
  head : ∀ name, f.head = .function name → name.isPlain = true
  before : arePlain f.before = true

namespace Nesting

theorem arePlain_close {f : Frame} {content : List Token} {closed : Bool} (hf : f.Plain)
    (hcontent : arePlain content = true) :
    arePlain (f.head.toToken f.position content.reverse closed :: f.before) = true := by
  rw [← arePlain_reverse] at hcontent
  rw [arePlain, hf.before, Bool.and_true]
  cases hhead : f.head with
  | bracket b => exact hcontent
  | function name =>
    rw [Head.toToken, Token.isPlain, hf.head name hhead, hcontent]
    rfl

theorem arePlain_finish : ∀ (frames : List Frame) (current : List Token),
    (∀ f ∈ frames, f.Plain) → arePlain current = true → arePlain (finish frames current) = true
  | [], current, _, h => (arePlain_reverse current).trans h
  | frame :: frames, _, hf, h => by
    obtain ⟨hframe, hrest⟩ := List.forall_mem_cons.1 hf
    exact arePlain_finish frames _ hrest (arePlain_close hframe h)

/-- Plain lexemes are nested into plain tokens. -/
theorem arePlain_run : ∀ (lexemes : List (Position × Lexeme)) (frames : List Frame)
    (current : List Token), (∀ x ∈ lexemes, x.2.text.isPlain = true) → (∀ f ∈ frames, f.Plain) →
      arePlain current = true → arePlain (run frames current lexemes) = true
  | [], frames, current, _, hf, hc => arePlain_finish frames current hf hc
  | (p, lexeme) :: rest, frames, current, hl, hf, hc => by
    obtain ⟨hx, hrest⟩ := List.forall_mem_cons.1 hl
    have ih := fun frames current => arePlain_run rest frames current hrest
    have hleaf : ∀ l : Leaf, l.text.isPlain = true →
        arePlain (.leaf p l :: current) = true := fun l h => by
      rw [arePlain, Token.isPlain, h, hc]
      rfl
    cases lexeme with
    | leaf l => exact ih _ _ hf (hleaf l hx)
    | opening b =>
      exact ih _ _ (List.forall_mem_cons.2 ⟨⟨fun name h => (by cases h), hc⟩, hf⟩) rfl
    | functionHead name =>
      refine ih _ _ (List.forall_mem_cons.2 ⟨⟨fun other h => ?_, hc⟩, hf⟩) rfl
      obtain rfl := Head.function.inj h
      exact hx
    | closing b =>
      cases frames with
      | nil => exact ih _ _ hf (hleaf _ rfl)
      | cons frame outer =>
        obtain ⟨hframe, houter⟩ := List.forall_mem_cons.1 hf
        rw [run]
        split
        · exact ih _ _ houter (arePlain_close hframe hc)
        · exact ih _ _ hf (hleaf _ rfl)

end Nesting

/-! ## Reading nodes -/

namespace Reading

/-- A rule or at-rule that is being read holds no surrogate. -/
def Pending.isPlain : Pending → Bool
  | .nothing => true
  | .rule _ _ before => arePlain before
  | .atRule keyword before => keyword.isPlain && arePlain before

/-- A node followed by those of a reading. -/
theorem isPlain_map_cons {n : Node} {e : Except SyntaxError (List Node)} {ns : List Node}
    (hn : n.isPlain = true) (he : ∀ more, e = .ok more → Sheet.isPlain more = true)
    (h : e.map (n :: ·) = .ok ns) : Sheet.isPlain ns = true := by
  obtain ⟨more, hmore, rfl⟩ := Outcome.map_eq_ok.1 h
  rw [Sheet.isPlain, hn, he more hmore]
  rfl

/-- Plain tokens are read as a plain tree. -/
theorem isPlain_nodes (top : Bool) (pending : Pending) (tokens : List Token) (ns : List Node)
    (h : nodes top pending tokens = .ok ns) (hp : pending.isPlain = true)
    (ht : arePlain tokens = true) : Sheet.isPlain ns = true := by
  fun_induction nodes top pending tokens generalizing ns with
  | case1 =>
    obtain rfl := Except.ok.inj h
    rfl
  | case2 | case4 => cases h
  | case3 top keyword before =>
    obtain rfl := Except.ok.inj h
    rw [Pending.isPlain, ← arePlain_reverse] at hp
    rw [Sheet.isPlain, Node.isPlain, hp]
    rfl
  | case5 top p content closed rest q last before ih =>
    obtain ⟨hcontent, hrest⟩ := arePlain_cons.1 ht
    refine isPlain_map_cons ?_ (fun more hm => ih more hm rfl hrest) h
    rw [Node.isPlain, arePlain_reverse]
    exact Bool.and_eq_true_iff.2 ⟨hp, hcontent⟩
  | case6 top p content closed rest keyword before ihc ih =>
    obtain ⟨hcontent, hrest⟩ := arePlain_cons.1 ht
    have hcontent : arePlain content = true := hcontent
    rw [Pending.isPlain, ← arePlain_reverse] at hp
    refine isPlain_map_cons ?_ (fun more hm => ih more hm rfl hrest) h
    split
    · rw [Node.isPlain, hp, hcontent]
      rfl
    · split
      · rw [Node.isPlain, hp, ihc _ ‹_› rfl hcontent]
        rfl
      · rw [Node.isPlain, hp, hcontent]
        rfl
  | case7 top rest p text _ ih | case8 top rest p text _ ih =>
    exact isPlain_map_cons rfl (fun more hm => ih more hm rfl (arePlain_cons.1 ht).2) h
  | case9 top rest p keyword _ ih =>
    obtain ⟨hkeyword, hrest⟩ := arePlain_cons.1 ht
    exact ih ns h (Bool.and_eq_true_iff.2 ⟨hkeyword, rfl⟩) hrest
  | case10 top rest t _ _ _ _ _ ih => exact ih ns h rfl (arePlain_cons.1 ht).2
  | case11 top rest t _ _ _ _ _ ih =>
    obtain ⟨hhead, hrest⟩ := arePlain_cons.1 ht
    exact ih ns h (arePlain_cons.2 ⟨hhead, rfl⟩) hrest
  | case12 top p last before t rest _ ih =>
    obtain ⟨hhead, hrest⟩ := arePlain_cons.1 ht
    exact ih ns h (arePlain_cons.2 ⟨hhead, hp⟩) hrest
  | case13 top keyword before t rest _ _ ih =>
    rw [Pending.isPlain, ← arePlain_reverse] at hp
    refine isPlain_map_cons ?_ (fun more hm => ih more hm rfl (arePlain_cons.1 ht).2) h
    rw [Node.isPlain, hp]
  | case14 top keyword before t rest _ _ ih =>
    obtain ⟨hhead, hrest⟩ := arePlain_cons.1 ht
    obtain ⟨hkeyword, hbefore⟩ := Bool.and_eq_true_iff.1 hp
    exact ih ns h (Bool.and_eq_true_iff.2 ⟨hkeyword, arePlain_cons.2 ⟨hhead, hbefore⟩⟩) hrest

end Reading

/-- A text without escapes that name surrogates is read as a plain tree. -/
theorem isPlain_read {css : List Char} {s : Sheet} (hcss : Lexer.PlainEscapes css)
    (h : read css = .ok s) : Sheet.isPlain s = true := by
  obtain ⟨-, ts, hts, hn⟩ := read_inv h
  obtain ⟨xs, hx, rfl⟩ := tokenize_inv hts
  refine Reading.isPlain_nodes true .nothing _ _ hn rfl ?_
  exact Nesting.arePlain_run xs [] [] (Lexer.plain_lexemesFrom .start xs hcss.normalize hx)
    (fun f hf => by cases hf) rfl

/-- A text without long runs of digits is read, or refused for its syntax. -/
theorem read_ne_integerTooLong {css : List Char} (hcss : Lexer.ShortNumbers css) (digits : Nat) :
    read css ≠ .error (.integerTooLong digits) := by
  have hok := Lexer.isOk_lexemesFrom .start hcss.normalize
  cases hx : Lexer.lexemesFrom .start (normalize css) with
  | error e =>
    rw [hx] at hok
    cases hok
  | ok xs => exact read_ne_of_tokenize (by rw [tokenize, lexemes, hx]; rfl) digits

end StylePrune.Css
