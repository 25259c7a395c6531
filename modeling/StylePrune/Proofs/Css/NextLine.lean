import StylePrune.Proofs.Css.Explicit

/-!
# Text on the next line

A reader of the lexer that does not use up a text reads the same if a line feed and more text follow
(`name_feed`, `url_feed`, `identLike_feed` and so on). So a step of the lexer is the same if it
leaves something of the text, or if what it read is firm (`step_feed`).
-/

namespace StylePrune.Css.Lexer

variable {cs more : List Char}

/-! ## Runs and numbers -/

theorem takeWhile_feed {p : Char → Bool} (hp : p '\n' = false) :
    (cs ++ '\n' :: more).takeWhile p = cs.takeWhile p := by
  induction cs with
  | nil => simp [hp]
  | cons c cs ih => rw [List.cons_append, List.takeWhile_cons, List.takeWhile_cons, ih]

theorem takeWhile_take_feed {p : Char → Bool} (hp : p '\n' = false) (k : Nat) :
    ((cs ++ '\n' :: more).take k).takeWhile p = (cs.take k).takeWhile p := by
  rw [List.take_append]
  cases k - cs.length with
  | zero => rw [List.take_zero, List.append_nil]
  | succ k => exact takeWhile_feed hp

theorem takeWhile_append_of_lt {p : Char → Bool} (h : (cs.takeWhile p).length < cs.length)
    (ds : List Char) : (cs ++ ds).takeWhile p = cs.takeWhile p := by
  rw [List.takeWhile_append, if_neg (Nat.ne_of_lt h)]

theorem drop_feed {k : Nat} (h : k ≤ cs.length) :
    (cs ++ '\n' :: more).drop k = cs.drop k ++ '\n' :: more :=
  List.drop_append_of_le_length h

theorem digits_feed : digits (cs ++ '\n' :: more) = digits cs :=
  congrArg List.length (takeWhile_feed (by decide))

theorem digits_le (cs : List Char) : digits cs ≤ cs.length := (List.takeWhile_prefix _).length_le

theorem exponentLength_feed : exponentLength (cs ++ '\n' :: more) = exponentLength cs := by
  cases cs with
  | nil => rfl
  | cons c rest =>
    cases rest with
    | nil => simp [exponentLength, digits, isDigit]
    | cons s rest =>
      have hd : ∀ k, k ≤ 1 → digits ((s :: rest ++ '\n' :: more).drop k) =
          digits ((s :: rest).drop k) := fun k hk => by
        rw [drop_feed (by simp; omega), digits_feed]
      have hsign : (if s = '+' || s = '-' then 1 else 0) ≤ 1 := by split <;> omega
      have hdigits := hd _ hsign
      rw [List.cons_append] at hdigits
      simp only [List.cons_append, exponentLength, hdigits]

theorem numberLength?_feed : numberLength? (cs ++ '\n' :: more) = numberLength? cs := by
  unfold numberLength?
  extract_lets sign' whole' fraction' mantissa' exponent' sign whole fraction mantissa exponent
  have hsign : sign' = sign ∧ sign ≤ cs.length := by
    cases cs with
    | nil => exact ⟨rfl, Nat.le_refl 0⟩
    | cons c rest =>
      refine ⟨rfl, ?_⟩
      simp only [sign]
      split <;> simp
  have hwhole : whole' = whole ∧ sign + whole ≤ cs.length := by
    have := digits_le (cs.drop sign)
    rw [List.length_drop] at this
    simp only [whole', whole, hsign.1, drop_feed hsign.2, digits_feed, true_and]
    omega
  have hfraction : fraction' = fraction ∧
      (fraction ≠ 0 → sign + whole + 1 + fraction ≤ cs.length) := by
    simp only [fraction', fraction, hsign.1, hwhole.1, drop_feed hwhole.2]
    cases hr : cs.drop (sign + whole) with
    | nil => exact ⟨rfl, fun h => absurd rfl h⟩
    | cons c rest =>
      by_cases hc : c = '.'
      · subst hc
        have := congrArg List.length hr
        rw [List.length_drop, List.length_cons] at this
        have := digits_le rest
        exact ⟨digits_feed, fun _ => by simp only; omega⟩
      · simp [hc]
  have hmantissa : mantissa' = mantissa ∧ sign + mantissa ≤ cs.length := by
    simp only [mantissa', mantissa, hfraction.1, hwhole.1, true_and]
    have := hwhole.2
    have := hfraction.2
    split <;> omega
  have hexponent : exponent' = exponent := by
    simp only [exponent', exponent, hsign.1, hmantissa.1, drop_feed hmantissa.2,
      exponentLength_feed]
  rw [hexponent, hmantissa.1, hsign.1, hfraction.1]

/-! ## Ranges, escapes and names -/

theorem startsEscape_feed (h : cs ≠ []) : startsEscape (cs ++ '\n' :: more) = startsEscape cs := by
  rw [startsEscape, startsEscape, List.head?_append, List.head?_eq_some_head h]
  rfl

theorem not_escape_feed {c : Char} (h : ¬ (c = '\\' && startsEscape cs) = true) :
    ¬ (c = '\\' && startsEscape (cs ++ '\n' :: more)) = true := by
  cases cs with
  | nil => simp [startsEscape] at h ⊢
  | cons d rest => rwa [startsEscape_feed (List.cons_ne_nil _ _)]

theorem length_takeWhile_take_le (p : Char → Bool) (k : Nat) (cs : List Char) :
    ((cs.take k).takeWhile p).length ≤ cs.length :=
  ((List.takeWhile_prefix p).trans (List.take_prefix k cs)).length_le

theorem unicodeRange_feed : unicodeRange (cs ++ '\n' :: more) = unicodeRange cs := by
  have hfirst := length_takeWhile_take_le isHex 6 cs
  have hmarks := length_takeWhile_take_le (· = '?')
    (6 - ((cs.take 6).takeWhile isHex).length) (cs.drop ((cs.take 6).takeWhile isHex).length)
  simp only [unicodeRange, takeWhile_take_feed (p := isHex) (by decide), drop_feed hfirst,
    takeWhile_take_feed (p := (· = '?')) (by decide)]
  split
  · rfl
  rw [List.length_drop] at hmarks
  rw [drop_feed (by omega)]
  cases cs.drop _ with
  | nil => rfl
  | cons c rest =>
    by_cases hc : c = '-'
    · subst hc
      simp only [List.cons_append, takeWhile_take_feed (p := isHex) (by decide)]
    · simp [hc]

theorem escape_feed (h : (escape cs).2 < cs.length) : escape (cs ++ '\n' :: more) = escape cs := by
  have hdigits := length_takeWhile_take_le isHex 6 cs
  revert h
  simp only [escape, takeWhile_take_feed (p := isHex) (by decide), drop_feed hdigits]
  split
  · cases cs with
    | nil => exact fun h => absurd h (Nat.lt_irrefl 0)
    | cons c rest => exact fun _ => rfl
  · cases hr : cs.drop _ with
    | nil =>
      intro h
      have := List.drop_eq_nil_iff.1 hr
      simp only at h
      omega
    | cons c rest => exact fun _ => rfl

theorem name_feed (h : (name cs).2 < cs.length) : name (cs ++ '\n' :: more) = name cs := by
  fun_induction name cs with
  | case1 => exact absurd h (Nat.lt_irrefl 0)
  | case2 c rest hc value n hn ih =>
    rw [hn] at ih
    rw [List.cons_append, name, if_pos hc, ih (Nat.lt_of_succ_lt_succ h)]
  | case3 c rest hc hescape p k hk value n hn ih =>
    rw [hn] at ih
    have hk' : k < rest.length := by simp only [List.length_cons] at h; omega
    have hne : rest ≠ [] := List.ne_nil_of_length_pos (Nat.zero_lt_of_lt hk')
    rw [List.cons_append, name, if_neg hc, startsEscape_feed hne, if_pos hescape,
      escape_feed (by rwa [hk]), hk]
    simp only
    rw [drop_feed (Nat.le_of_lt hk'), ih]
    rw [List.length_drop]
    simp only [List.length_cons] at h ⊢
    omega
  | case4 c rest hc hescape =>
    rw [List.cons_append, name, if_neg hc, if_neg (not_escape_feed hescape)]

/-- A backslash at the end of a text is a name by itself. -/
theorem ne_nil_of_name (h : (name ('\\' :: cs)).2 < cs.length + 1) : cs ≠ [] := by
  rintro rfl
  simp [name, isName, isNameStart, isDigit, startsEscape, escape] at h

/-- An identifier that starts in a text starts there whatever follows, if it ends there too: a lone
backslash at the end of the text starts one, and none before a line end. -/
theorem startsIdent_feed (h : startsIdent cs = true → (name cs).2 < cs.length) :
    startsIdent (cs ++ '\n' :: more) = startsIdent cs := by
  have hlast : ∀ rest : List Char, (startsEscape rest = true →
      (name ('\\' :: rest)).2 < rest.length + 1) → rest ≠ [] := by
    rintro _ hn rfl
    exact ne_nil_of_name (hn rfl) rfl
  revert h
  fun_cases startsIdent cs with
  | case1 => exact fun _ => rfl
  | case2 rest =>
    intro h
    refine startsEscape_feed (hlast rest fun hescape => ?_)
    have := h hescape
    rw [name, if_pos (by decide)] at this
    exact Nat.lt_of_succ_lt_succ this
  | case3 c rest hhyphen hescape =>
    intro h
    rw [List.cons_append, List.cons_append, startsIdent]
    · exact hhyphen
    · exact hescape
  | case4 rest => exact fun h => startsEscape_feed (hlast rest h)
  | case5 c rest hhyphens hescape hhyphen hbackslash =>
    intro h
    cases rest with
    | nil =>
      by_cases hc : c = '-'
      · subst hc
        rfl
      · rw [List.cons_append, startsIdent]
        all_goals simp_all
    | cons d rest =>
      rw [List.cons_append, List.cons_append, startsIdent]
      · exact fun _ hc _ => hhyphen d rest hc rfl
      · exact fun _ hc _ => hhyphen d rest hc rfl
      · exact fun _ _ hc _ => hhyphen d rest hc rfl
      · exact hbackslash
  | case6 => exact fun _ => rfl

/-! ## Strings, addresses and comments -/

theorem quoted_feed {q : Char} (h : (quoted q cs).2.2 < cs.length) :
    quoted q (cs ++ '\n' :: more) = quoted q cs := by
  fun_induction quoted q cs with
  | case1 => exact absurd h (Nat.lt_irrefl 0)
  | case2 rest =>
    rw [List.cons_append]
    unfold quoted
    rw [if_pos rfl]
  | case3 hq => exact absurd h (Nat.lt_irrefl 1)
  | case4 rest value stop n hn hq ih =>
    rw [hn] at ih
    simp only [List.length_cons] at h
    rw [List.cons_append, List.cons_append]
    unfold quoted
    rw [if_neg hq, if_pos rfl]
    simp only [ih (Nat.lt_of_succ_lt_succ (Nat.lt_of_succ_lt_succ h))]
  | case5 rest hempty hline p k hk value stop n hn hq ih =>
    rw [hn, List.length_drop] at ih
    simp only [List.length_cons] at h
    rw [List.cons_append]
    unfold quoted
    rw [if_neg hq, if_pos rfl]
    split
    · rename_i hnil
      cases rest <;> cases hnil
    · rename_i more' hcons
      cases rest with
      | nil => exact absurd rfl hempty
      | cons d rest => exact absurd (congrArg (· :: rest) (List.cons.inj hcons).1) (hline rest)
    · rw [escape_feed (by rw [hk]; simp only; omega), hk]
      simp only
      rw [drop_feed (by omega), ih (by simp only; omega)]
  | case6 rest hq hne =>
    rw [List.cons_append]
    unfold quoted
    rw [if_neg hq, if_neg hne, if_pos rfl]
  | case7 c rest hq hne hl value stop n hn ih =>
    rw [hn] at ih
    simp only [List.length_cons] at h
    rw [List.cons_append]
    unfold quoted
    rw [if_neg hq, if_neg hne, if_neg hl, ih (by simp only; omega)]

theorem urlTail_feed (h : (urlTail cs).2 < cs.length) :
    urlTail (cs ++ '\n' :: more) = urlTail cs := by
  have hblanks : (cs.takeWhile isSpace).length < cs.length := by
    refine Nat.lt_of_le_of_lt ?_ h
    unfold urlTail
    extract_lets blanks
    split
    · exact Nat.le_refl _
    · split
      · exact Nat.le_succ _
      · exact Nat.le_refl _
  rw [urlTail, urlTail, takeWhile_append_of_lt hblanks]
  simp only [drop_feed (Nat.le_of_lt hblanks)]
  cases hr : cs.drop (cs.takeWhile isSpace).length with
  | nil => exact absurd (List.drop_eq_nil_iff.1 hr) (Nat.not_le_of_lt hblanks)
  | cons c rest => rfl

theorem urlBody_feed (h : (urlBody cs).2.2 < cs.length) :
    urlBody (cs ++ '\n' :: more) = urlBody cs := by
  fun_induction urlBody cs with
  | case1 => exact absurd h (Nat.lt_irrefl 0)
  | case2 rest => rw [List.cons_append, urlBody, if_pos rfl]
  | case3 c rest hc hspace stop n hn =>
    have htail := @urlTail_feed rest more
    rw [hn] at htail
    rw [List.cons_append, urlBody, if_neg hc, if_pos hspace, htail (Nat.lt_of_succ_lt_succ h)]
  | case4 c rest hc hspace hescape p k hk value stop n hn ih =>
    rw [hn, List.length_drop] at ih
    simp only [List.length_cons] at h
    have hne : rest ≠ [] := List.ne_nil_of_length_pos (by omega)
    rw [List.cons_append, urlBody, if_neg hc, if_neg hspace, startsEscape_feed hne, if_pos hescape,
      escape_feed (by rw [hk]; simp only; omega), hk]
    simp only
    rw [drop_feed (by omega), ih (by simp only; omega)]
  | case5 c rest hc hspace hescape hbreaker =>
    rw [List.cons_append, urlBody, if_neg hc, if_neg hspace, if_neg (not_escape_feed hescape),
      if_pos hbreaker]
  | case6 c rest hc hspace hescape hbreaker value stop n hn ih =>
    rw [hn] at ih
    simp only [List.length_cons] at h
    rw [List.cons_append, urlBody, if_neg hc, if_neg hspace, if_neg (not_escape_feed hescape),
      if_neg hbreaker, ih (by simp only; omega)]

theorem badUrlRest_feed (h : badUrlRest cs < cs.length) :
    badUrlRest (cs ++ '\n' :: more) = badUrlRest cs := by
  fun_induction badUrlRest cs with
  | case1 => exact absurd h (Nat.lt_irrefl 0)
  | case2 rest ih =>
    rw [List.cons_append, List.cons_append, badUrlRest,
      ih (Nat.lt_of_succ_lt_succ (Nat.lt_of_succ_lt_succ h))]
  | case3 rest hescape =>
    rw [List.cons_append, badUrlRest]
    · rfl
    · exact fun _ h => absurd h (by decide)
  | case4 c rest hescape hc ih =>
    rw [List.cons_append, badUrlRest, if_neg hc, ih (Nat.lt_of_succ_lt_succ h)]
    rintro more' rfl hmore
    cases rest with
    | nil => exact absurd (List.cons.inj hmore).1 (by decide)
    | cons d rest => exact hescape rest rfl (congrArg (· :: rest) (List.cons.inj hmore).1)

/-- An address starts behind its blanks, and does not use them up. -/
theorem url_blank (h : cs.dropWhile isSpace = []) : (url cs).2 = cs.length := by
  have hall : cs.takeWhile isSpace = cs := by
    conv => rhs; rw [← List.takeWhile_append_dropWhile (p := isSpace) (l := cs), h, List.append_nil]
  simp [url, hall, urlBody]

theorem url_feed (h : (url cs).2 < cs.length) : url (cs ++ '\n' :: more) = url cs := by
  have hblanks : (cs.takeWhile isSpace).length < cs.length := by
    refine Nat.lt_of_le_of_ne (List.takeWhile_prefix _).length_le fun hall => ?_
    have hdrop : cs.dropWhile isSpace = [] := by
      have := congrArg List.length (List.takeWhile_append_dropWhile (p := isSpace) (l := cs))
      rw [List.length_append] at this
      exact List.length_eq_zero_iff.1 (by omega)
    exact absurd (url_blank hdrop) (Nat.ne_of_lt h)
  have hbody := @urlBody_feed (cs.drop (cs.takeWhile isSpace).length) more
  rw [List.length_drop] at hbody
  revert h hbody
  rw [url, url, takeWhile_append_of_lt hblanks]
  simp only [drop_feed (Nat.le_of_lt hblanks)]
  obtain ⟨value, stop, n⟩ := urlBody (cs.drop (cs.takeWhile isSpace).length)
  intro h hbody
  have hn : n < cs.length - (cs.takeWhile isSpace).length := by
    revert h
    cases stop <;> simp only <;> omega
  rw [hbody hn]
  cases stop with
  | paren | eof => rfl
  | bad =>
    simp only at h ⊢
    rw [drop_feed (by omega), badUrlRest_feed (by rw [List.length_drop]; omega)]

theorem comment_feed
    (h : (comment cs).2 < cs.length ∨ ['*', '/'].isSuffixOf (cs.take (comment cs).2) = true) :
    comment (cs ++ '\n' :: more) = comment cs := by
  fun_induction comment cs with
  | case1 => exact absurd h (by decide)
  | case2 rest => rfl
  | case3 c rest hc text n hn ih =>
    rw [hn] at ih
    have hrest : n < rest.length ∨ ['*', '/'].isSuffixOf (rest.take n) = true := by
      refine h.imp Nat.lt_of_succ_lt_succ fun hmark => ?_
      rwa [List.take_succ_cons, isSuffixOf_mark_cons fun hstar htake => ?_] at hmark
      exact hc (rest.drop n) hstar ((List.take_append_drop n rest).symm.trans (by rw [htake]; rfl))
    rw [List.cons_append, comment, ih hrest]
    rintro more' rfl hmore
    cases rest with
    | nil => exact absurd (List.cons.inj hmore).1 (by decide)
    | cons d rest => exact hc rest rfl (congrArg (· :: rest) (List.cons.inj hmore).1)

/-! ## Steps -/

theorem name_le_identLike (cs : List Char) : (name cs).2 ≤ (identLike cs).2 := by
  fun_cases identLike cs <;> simp only [*] <;> omega

theorem identLike_feed (h : (identLike cs).2 < cs.length) :
    identLike (cs ++ '\n' :: more) = identLike cs := by
  have hn := Nat.lt_of_le_of_lt (name_le_identLike cs) h
  revert h
  rw [identLike, identLike, name_feed hn]
  generalize name cs = named at hn
  obtain ⟨value, n⟩ := named
  simp only at hn ⊢
  rw [drop_feed (Nat.le_of_lt hn)]
  cases hr : cs.drop n with
  | nil => exact absurd (List.drop_eq_nil_iff.1 hr) (Nat.not_le_of_lt hn)
  | cons c rest =>
    by_cases hc : c = '('
    · subst hc
      have hlength := congrArg List.length hr
      rw [List.length_drop, List.length_cons] at hlength
      simp only [List.cons_append]
      split
      · cases hblank : rest.dropWhile isSpace with
        | nil =>
          intro h
          have := url_blank hblank
          simp only [this] at h
          omega
        | cons d behind =>
          have hcons : (rest ++ '\n' :: more).dropWhile isSpace =
              d :: (behind ++ '\n' :: more) := by
            rw [List.dropWhile_append, hblank]
            rfl
          simp only [hcons]
          split
          · exact fun _ => rfl
          · intro h
            simp only at h
            rw [url_feed (by omega)]
      · exact fun _ => rfl
    · intro _
      simp only [List.cons_append]
      split
      · rename_i hcons
        exact absurd (List.cons.inj hcons).1 hc
      · split
        · rename_i hcons
          exact absurd (List.cons.inj hcons).1 hc
        · rfl

theorem numeric_feed {out : List Lexeme} {n k : Nat} {isInteger : Bool}
    (h : numeric cs n isInteger = .ok (out, k)) (hk : k < cs.length) :
    numeric (cs ++ '\n' :: more) n isInteger = .ok (out, k) := by
  have hn : n ≤ k := by
    revert h
    fun_cases numeric cs n isInteger with
    | case1 => exact fun h => by cases h
    | _ =>
      intro h
      obtain ⟨-, rfl⟩ := Prod.mk.inj (Except.ok.inj h)
      omega
  have hlength : n < cs.length := Nat.lt_of_le_of_lt hn hk
  have htake : (cs ++ '\n' :: more).take n = cs.take n :=
    List.take_append_of_le_length (Nat.le_of_lt hlength)
  have hcons : cs.drop n ≠ [] := fun hnil =>
    Nat.not_le_of_lt hlength (List.drop_eq_nil_iff.1 hnil)
  rw [← h, numeric, numeric, htake]
  simp only [drop_feed (Nat.le_of_lt hlength)]
  split
  · rfl
  have hname : startsIdent (cs.drop n) = true → (name (cs.drop n)).2 < (cs.drop n).length := by
    intro hstart
    rename_i hdigits
    rw [numeric] at h
    simp only [if_neg hdigits, if_pos hstart] at h
    obtain ⟨-, rfl⟩ := Prod.mk.inj (Except.ok.inj h)
    rw [List.length_drop]
    omega
  rw [startsIdent_feed hname, List.head?_append, List.head?_eq_some_head hcons, Option.some_or]
  split
  · rename_i hstart
    rw [name_feed (hname hstart)]
  · rfl

theorem stringLike_feed {q : Char} (h : (stringLike q cs).2 < cs.length) :
    stringLike q (cs ++ '\n' :: more) = stringLike q cs := by
  have hlength : (stringLike q cs).2 = (quoted q cs).2.2 := by
    rw [stringLike]
    obtain ⟨value, stop, n⟩ := quoted q cs
    cases stop <;> rfl
  rw [stringLike, stringLike, quoted_feed (hlength ▸ h)]

/-- Lexemes that text on the next line leaves as they are when they end a text. -/
def isFirm (source : List Char) : List Lexeme → Bool
  | [.leaf (.comment _)] => ['*', '/'].isSuffixOf (source.drop 2)
  | [.leaf (.literal text)] => [[';'], ['<', '!', '-', '-'], ['-', '-', '>']].contains text
  | [.closing _] => true
  | _ => false

theorem startsRange_feed : step.startsRange (cs ++ '\n' :: more) = step.startsRange cs := by
  cases cs with
  | nil => rfl
  | cons c rest =>
    by_cases hc : c = '+'
    · subst hc
      cases rest <;> rfl
    · simp [step.startsRange, hc]

theorem isPrefixOf_feed {mark : List Char} (h : '\n' ∉ mark) :
    mark.isPrefixOf (cs ++ '\n' :: more) = mark.isPrefixOf cs := by
  induction mark generalizing cs with
  | nil => rfl
  | cons d mark ih =>
    obtain ⟨hd, hmark⟩ := not_or.1 (mt List.mem_cons.2 h)
    cases cs with
    | nil => simp [List.isPrefixOf, Ne.symm hd]
    | cons c cs => rw [List.cons_append, List.isPrefixOf, List.isPrefixOf, ih hmark]

/-- Lexemes that may stand last where nothing is left open. -/
def isLast : Lexeme → Bool
  | .closing _ | .leaf (.whitespace _) | .leaf (.comment _) => true
  | .leaf (.literal text) => [[';'], ['<', '!', '-', '-'], ['-', '-', '>']].contains text
  | _ => false

/-- What may not stand last is not firm. -/
theorem not_isFirm {out : List Lexeme} (h : ∃ x ∈ out.getLast?, isLast x = false)
    (source : List Char) : ¬ isFirm source out = true := by
  obtain ⟨x, hx, hlast⟩ := h
  intro hfirm
  have hlasts : isLast x = true := by
    revert hfirm hx
    fun_cases isFirm source out with
    | case1 => rintro ⟨⟩ -; rfl
    | case2 text => rintro ⟨⟩ h; exact h
    | case3 => rintro ⟨⟩ -; rfl
    | case4 => exact fun _ h => by cases h
  rw [hlast] at hlasts
  cases hlasts

theorem isLast_identLike (cs : List Char) : ∃ x ∈ (identLike cs).1.getLast?, isLast x = false := by
  fun_cases identLike cs with
  | case2 value n _ rest _ _ c tail _ _ leaves k hurl | case3 value n _ rest _ _ _ leaves k hurl =>
    have : ∃ x ∈ ((url rest).1.map Lexeme.leaf).getLast?, isLast x = false := by
      fun_cases url rest <;> exact ⟨_, rfl, rfl⟩
    rwa [hurl] at this
  | _ => exact ⟨_, rfl, rfl⟩

theorem isLast_numeric {n : Nat} {isInteger : Bool} {r : List Lexeme × Nat}
    (h : numeric cs n isInteger = .ok r) : ∃ x ∈ r.1.getLast?, isLast x = false := by
  revert h
  fun_cases numeric cs n isInteger with
  | case1 => exact fun h => by cases h
  | _ => exact fun h => by cases Except.ok.inj h; exact ⟨_, rfl, rfl⟩

theorem isLast_stringLike (q : Char) (cs : List Char) :
    ∃ x ∈ (stringLike q cs).1.getLast?, isLast x = false := by
  fun_cases stringLike q cs <;> exact ⟨_, rfl, rfl⟩

theorem one_inj {x : Lexeme} {k n : Nat} {out : List Lexeme} (h : one x k = .ok (out, n)) :
    out = [x] ∧ n = k := by
  obtain ⟨rfl, rfl⟩ := Prod.mk.inj (Except.ok.inj h)
  exact ⟨rfl, rfl⟩

/-- A text that starts with none of the things that are read before single characters. -/
structure Solo (c : Char) (cs : List Char) : Prop where
  space : ¬ isSpace c = true
  range : ¬ ((c = 'U' || c = 'u') && step.startsRange cs) = true
  mark : ¬ ['-', '-', '>'].isPrefixOf (c :: cs) = true
  ident : ¬ startsIdent (c :: cs) = true
  number : numberLength? (c :: cs) = none

namespace Solo

variable {c d : Char}

theorem feed (h : Solo c cs) : Solo c (cs ++ '\n' :: more) where
  space := h.space
  range := by rw [startsRange_feed]; exact h.range
  mark := by rw [← List.cons_append, isPrefixOf_feed (by decide)]; exact h.mark
  ident := by
    rw [← List.cons_append, startsIdent_feed fun hstart => absurd hstart h.ident]
    exact h.ident
  number := by rw [← List.cons_append, numberLength?_feed]; exact h.number

theorem step_at (h : Solo '@' cs) : step '@' cs =
    if startsIdent cs then one (.leaf (.atKeyword (name cs).1)) (name cs).2
    else oneLiteral ['@'] 0 := by
  unfold step
  rw [if_neg h.space, if_neg h.range, if_neg h.mark, if_neg h.ident, h.number]
  rfl

theorem step_hash (h : Solo '#' (d :: cs)) : step '#' (d :: cs) =
    if isName d || (d = '\\' && startsEscape cs) then
      one (.leaf (.hash (name (d :: cs)).1 (startsIdent (d :: cs)))) (name (d :: cs)).2
    else oneLiteral ['#'] 0 := by
  unfold step
  rw [if_neg h.space, if_neg h.range, if_neg h.mark, if_neg h.ident, h.number]
  rfl

theorem step_string (h : Solo c cs) (hq : (c = '"' || c = '\x27') = true) :
    step c cs = .ok (stringLike c cs) := by
  unfold step
  rw [if_neg h.space, if_neg h.range, if_neg h.mark, if_neg h.ident, h.number]
  rw [Bool.or_eq_true, decide_eq_true_iff, decide_eq_true_iff] at hq
  rcases hq with rfl | rfl <;> rfl

theorem step_comment (h : Solo '/' ('*' :: cs)) : step '/' ('*' :: cs) =
    one (.leaf (.comment (comment cs).1)) ((comment cs).2 + 1) := by
  unfold step
  rw [if_neg h.space, if_neg h.range, if_neg h.mark, if_neg h.ident, h.number]
  rfl

/-- Single characters, and what they start, are read the same. -/
theorem step_feed {out : List Lexeme} {n : Nat} (hsolo : Solo c cs)
    (h : step c cs = .ok (out, n)) (hn : n < cs.length ∨ isFirm (c :: cs.take n) out = true) :
    step c (cs ++ '\n' :: more) = .ok (out, n) := by
  have hfeed : Solo c (cs ++ '\n' :: more) := hsolo.feed
  have hhead : ∀ d, d ≠ '\n' → ((cs ++ '\n' :: more).head? = some d ↔ cs.head? = some d) := by
    intro d hd
    cases cs <;> simp [hd.symm]
  have hopen : ['<', '!', '-', '-'].isPrefixOf (c :: (cs ++ '\n' :: more)) =
      ['<', '!', '-', '-'].isPrefixOf (c :: cs) := @isPrefixOf_feed (c :: cs) more _ (by decide)
  revert h hn
  fun_cases step c cs with
  | case1 => exact absurd ‹_› hsolo.space
  | case2 => exact absurd ‹_› hsolo.range
  | case3 => exact absurd ‹_› hsolo.mark
  | case4 => exact absurd ‹_› hsolo.ident
  | case5 _ _ _ _ _ k isInteger hlength =>
    rw [hsolo.number] at hlength
    cases hlength
  | case6 cs _ _ _ _ _ hat hname value k hvalue =>
    intro h hn
    obtain ⟨rfl, rfl⟩ := one_inj h
    subst hat
    have hk : (name cs).2 < cs.length := by
      rw [hvalue]
      exact hn.resolve_right (by simp [isFirm])
    rw [hfeed.step_at, startsIdent_feed fun _ => hk, if_pos hname, name_feed hk, hvalue]
    rfl
  | case7 cs _ _ _ _ _ hat hname =>
    intro h _
    subst hat
    rw [hfeed.step_at, startsIdent_feed fun h => absurd h hname, if_neg hname, h]
  | case8 _ _ hhash d rest hname value k =>
    intro h hn
    subst hhash
    have hk : (name (d :: rest)).2 < (d :: rest).length := by
      obtain ⟨rfl, rfl⟩ := one_inj h
      exact hn.resolve_right (by simp [isFirm])
    have hd : (isName d || d = '\\' && startsEscape (rest ++ '\n' :: more)) = true := by
      rw [Bool.or_eq_true, Bool.and_eq_true] at hname ⊢
      refine hname.imp_right fun hescape => ⟨hescape.1, ?_⟩
      have hne : rest ≠ [] := ne_nil_of_name (of_decide_eq_true hescape.1 ▸ hk)
      rw [startsEscape_feed hne]
      exact hescape.2
    have hvalue := @name_feed (d :: rest) more hk
    have hident := @startsIdent_feed (d :: rest) more fun _ => hk
    rw [List.cons_append] at hfeed hvalue hident ⊢
    rw [hfeed.step_hash, if_pos hd, hvalue, hident]
    exact h
  | case9 _ _ hhash d rest hname =>
    intro h _
    subst hhash
    have hd : ¬ (isName d || d = '\\' && startsEscape (rest ++ '\n' :: more)) = true := by
      rw [Bool.or_eq_true, not_or] at hname ⊢
      exact ⟨hname.1, not_escape_feed hname.2⟩
    rw [List.cons_append] at hfeed ⊢
    rw [hfeed.step_hash, if_neg hd, h]
  | case10 _ _ hhash =>
    intro h hn
    obtain ⟨rfl, rfl⟩ := one_inj h
    exact absurd hn (by simp [isFirm, hhash])
  | case13 cs _ _ _ _ _ _ _ _ _ hq =>
    intro h hn
    have hlt : (stringLike c cs).2 < cs.length := by
      have hfirm := not_isFirm (isLast_stringLike c cs) (c :: cs.take n)
      rw [Except.ok.inj h] at hfirm ⊢
      exact hn.resolve_right hfirm
    rw [hfeed.step_string hq, stringLike_feed hlt, h]
  | case14 cs _ _ _ _ _ _ _ _ _ _ hmark text k hcomment =>
    intro h hn
    obtain ⟨rfl, rfl⟩ := one_inj h
    rw [Bool.and_eq_true, decide_eq_true_iff, decide_eq_true_iff] at hmark
    obtain ⟨rfl, hstar⟩ := hmark
    obtain ⟨rest, rfl⟩ := List.head?_eq_some_iff.1 hstar
    have hrest : comment (rest ++ '\n' :: more) = (text, k) := by
      rw [comment_feed, ← hcomment]
      · rfl
      · rw [show comment rest = (text, k) from hcomment]
        exact hn.imp Nat.lt_of_succ_lt_succ id
    rw [List.cons_append] at hfeed ⊢
    rw [hfeed.step_comment, hrest]
    rfl
  | _ =>
    intro h _
    have := hfeed.mark
    have := hfeed.ident
    simp only [step, startsRange_feed, hfeed.number, hhead '*' (by decide),
      hhead '|' (by decide), hhead '=' (by decide), Bool.false_eq_true, ↓reduceIte, *]

end Solo

/-- A step that leaves something of a text is the same if more follows on the next line, and so is
one that reads something firm. -/
theorem step_feed {c : Char} {out : List Lexeme} {n : Nat} (h : step c cs = .ok (out, n))
    (hn : n < cs.length ∨ isFirm (c :: cs.take n) out = true) :
    step c (cs ++ '\n' :: more) = .ok (out, n) := by
  have hmark : ['-', '-', '>'].isPrefixOf (c :: (cs ++ '\n' :: more)) =
      ['-', '-', '>'].isPrefixOf (c :: cs) := @isPrefixOf_feed (c :: cs) more _ (by decide)
  have hstep := h
  revert h
  fun_cases step c cs with
  | case1 cs hspace =>
    intro h
    obtain ⟨rfl, rfl⟩ := one_inj h
    unfold step
    rw [if_pos hspace, takeWhile_append_of_lt (hn.resolve_right (by simp [isFirm]))]
    rfl
  | case2 cs hspace hrange first last k hk =>
    intro h
    cases cs with
    | nil => simp [step.startsRange] at hrange
    | cons d rest =>
      unfold step
      rw [if_neg hspace, startsRange_feed, if_pos hrange, List.cons_append, List.drop_succ_cons,
        List.drop_zero, unicodeRange_feed]
      rw [List.drop_succ_cons, List.drop_zero] at hk
      rw [hk]
      exact h
  | case3 cs hspace hrange hprefix =>
    intro h
    unfold step
    rw [if_neg hspace, startsRange_feed, if_neg hrange, hmark, if_pos hprefix, h]
  | case4 cs hspace hrange hprefix hstart out n hout =>
    intro h
    obtain ⟨rfl, rfl⟩ := Prod.mk.inj (Except.ok.inj h)
    have hpos := identLike_pos hstart
    have hfirm := not_isFirm (isLast_identLike (c :: cs)) (c :: cs.take (n - 1))
    rw [hout] at hfirm
    have hlength : (identLike (c :: cs)).2 < (c :: cs).length := by
      have := hn.resolve_right hfirm
      rw [hout] at hpos ⊢
      simp only [List.length_cons] at hpos ⊢
      omega
    have hname := Nat.lt_of_le_of_lt (name_le_identLike (c :: cs)) hlength
    unfold step
    rw [if_neg hspace, startsRange_feed, if_neg hrange, hmark, if_neg hprefix, ← List.cons_append,
      startsIdent_feed fun _ => hname, if_pos hstart, identLike_feed hlength, hout]
  | case5 cs hspace hrange hprefix hstart k isInteger hlength =>
    intro h
    have hident : ¬ startsIdent (c :: (cs ++ '\n' :: more)) = true := by
      rwa [← List.cons_append, startsIdent_feed fun h => absurd h hstart]
    have hnumber : numberLength? (c :: (cs ++ '\n' :: more)) = numberLength? (c :: cs) :=
      @numberLength?_feed (c :: cs) more
    cases hnumeric : numeric (c :: cs) k isInteger with
    | error e => rw [hnumeric] at h; cases h
    | ok r =>
      rw [hnumeric] at h
      obtain ⟨rfl, rfl⟩ := Prod.mk.inj (Except.ok.inj h)
      have hpos : 0 < r.2 := numeric_pos hlength hnumeric
      have hlt := hn.resolve_right (not_isFirm (isLast_numeric hnumeric) _)
      have hfeed : numeric (c :: (cs ++ '\n' :: more)) k isInteger = .ok r :=
        numeric_feed hnumeric (by simp only [List.length_cons]; omega)
      unfold step
      rw [if_neg hspace, startsRange_feed, if_neg hrange, hmark, if_neg hprefix, if_neg hident,
        hnumber, hlength]
      simp only [hfeed]
      rfl
  | _ =>
    -- The guards stand in the context as spelled; comparing them up to unfolding is slow.
    exact fun _ => Solo.step_feed (by constructor <;> with_reducible assumption) hstep hn

/-- A comment with its own mark at its end. -/
def isEnded (source : List Char) : List Lexeme → Bool
  | .leaf (.comment _) :: _ => ['*', '/'].isSuffixOf (source.drop 2)
  | _ => true

theorem comment_le (cs : List Char) : (comment cs).2 ≤ cs.length := by
  fun_induction comment cs with
  | case1 => exact Nat.le_refl 0
  | case2 rest => exact Nat.le_add_left 2 rest.length
  | case3 c rest hc text n hn ih =>
    rw [hn] at ih
    exact Nat.succ_le_succ ih

/-- What may stand last is firm, unless it is white space. -/
theorem isFirm_of_isLast {c : Char} {out : List Lexeme} {n : Nat} (h : step c cs = .ok (out, n))
    (hspace : ¬ isSpace c = true) (hended : isEnded (c :: cs.take n) out = true)
    (hlast : ∀ x ∈ out.getLast?, isLast x = true) :
    isFirm (c :: cs.take n) out = true ∧ n ≤ cs.length := by
  have hnot : ¬ ∃ x ∈ out.getLast?, isLast x = false := by
    rintro ⟨x, hx, hfalse⟩
    exact absurd (hlast x hx) (by simp [hfalse])
  revert h
  fun_cases step c cs with
  | case1 _ h => exact absurd h hspace
  | case4 _ _ _ _ _ out' n' hident =>
    intro h
    obtain ⟨rfl, rfl⟩ := Prod.mk.inj (Except.ok.inj h)
    have := isLast_identLike (c :: cs)
    rw [hident] at this
    exact absurd this hnot
  | case5 _ _ _ _ _ k isInteger =>
    intro h
    cases hnumeric : numeric (c :: cs) k isInteger with
    | error e => rw [hnumeric] at h; cases h
    | ok r =>
      rw [hnumeric] at h
      obtain ⟨rfl, rfl⟩ := Prod.mk.inj (Except.ok.inj h)
      exact absurd (isLast_numeric hnumeric) hnot
  | case13 =>
    intro h
    have := isLast_stringLike c cs
    rw [Except.ok.inj h] at this
    exact absurd this hnot
  | case14 _ _ _ _ _ _ _ _ _ _ _ hmark text k hcomment =>
    intro h
    obtain ⟨rfl, rfl⟩ := one_inj h
    rw [Bool.and_eq_true, decide_eq_true_iff, decide_eq_true_iff] at hmark
    obtain ⟨rest, rfl⟩ := List.head?_eq_some_iff.1 hmark.2
    have := comment_le rest
    rw [show comment rest = (text, k) from hcomment] at this
    exact ⟨hended, Nat.succ_le_succ this⟩
  | case3 _ _ _ hprefix | case15 _ _ _ _ _ _ _ _ _ _ _ _ hprefix =>
    intro h
    obtain ⟨rfl, rfl⟩ := one_inj h
    exact ⟨rfl, Nat.le_of_succ_le_succ (List.isPrefixOf_iff_prefix.1 hprefix).length_le⟩
  | case16 | case17 =>
    intro h
    obtain ⟨rfl, rfl⟩ := one_inj h
    exact absurd ⟨_, rfl, by simp [isLast]⟩ hnot
  | case7 | case9 | case10 | case12 | case18 =>
    intro h
    obtain ⟨rfl, rfl⟩ := one_inj h
    exact ⟨hlast _ rfl, Nat.zero_le _⟩
  | _ =>
    intro h
    obtain ⟨rfl, rfl⟩ := one_inj h
    exact absurd ⟨_, rfl, rfl⟩ hnot

end StylePrune.Css.Lexer
