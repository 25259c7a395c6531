import StylePrune.Proofs.Css.Readback

/-!
# What the lexer grants

Every lexeme of a text in normal form is granted (`granted_step`), and the text behind it is one at
which the lexeme ends (`stops_step`).
-/

namespace StylePrune.Css.Lexer

variable {c d : Char} {cs rest : List Char} {x : Lexeme} {out : List Lexeme} {n : Nat}

/-- A text in normal form. -/
def Normal (cs : List Char) : Prop := ∀ c ∈ cs, normalChar c = c

theorem normal_cons : Normal (c :: cs) ↔ normalChar c = c ∧ Normal cs := List.forall_mem_cons

theorem Normal.drop (h : Normal cs) (k : Nat) : Normal (cs.drop k) :=
  fun c hc => h c (List.mem_of_mem_drop hc)

/-! ## Values hold no NUL -/

/-- A decoded text without NUL. -/
def NulFree (t : Text) : Prop := .char '\x00' ∉ t

theorem NulFree.nil : NulFree [] := List.not_mem_nil

theorem NulFree.cons {p : Point} {t : Text} (hp : p ≠ .char '\x00') (ht : NulFree t) :
    NulFree (p :: t) :=
  List.not_mem_cons_of_ne_of_not_mem hp.symm ht

theorem char_ne_nul (h : normalChar c = c) : Point.char c ≠ .char '\x00' := by
  intro hc
  obtain rfl := Point.char.inj hc
  exact absurd h (by decide)

theorem ofCode_ne_nul {code : Nat} (h : code ≠ 0) : Point.ofCode code ≠ .char '\x00' := by
  rw [Point.ofCode]
  split
  · exact fun h => by cases h
  split
  · intro heq
    have hvalid : code.isValidChar := by
      simp only [Nat.isValidChar]
      omega
    have hcode : (Char.ofNat code).toNat = code := by
      rw [Char.ofNat, dif_pos hvalid]
      rfl
    rw [Point.char.inj heq] at hcode
    exact h hcode.symm
  · decide

theorem escape_ne_nul (h : Normal rest) : (escape rest).1 ≠ .char '\x00' := by
  fun_cases escape rest with
  | case1 => exact char_ne_nul (normal_cons.1 h).1
  | case2 => decide
  | case3 =>
    dsimp only
    split
    · decide
    · exact ofCode_ne_nul ‹_›

theorem nulFree_name (h : Normal cs) : NulFree (name cs).1 := by
  fun_induction name cs with
  | case1 | case4 => exact .nil
  | case2 c rest hc value k hname ih =>
    obtain ⟨hc, hrest⟩ := normal_cons.1 h
    rw [hname] at ih
    exact .cons (char_ne_nul hc) (ih hrest)
  | case3 c rest hc hescape p k hp value j hname ih =>
    have hrest := (normal_cons.1 h).2
    have hpoint := escape_ne_nul hrest
    rw [hp] at hpoint
    rw [hname] at ih
    exact .cons hpoint (ih (hrest.drop k))

theorem nulFree_quoted {q : Char} (h : Normal cs) : NulFree (quoted q cs).1 := by
  fun_induction quoted q cs with
  | case1 | case2 | case3 | case6 => exact .nil
  | case4 more value stop k hquoted _ ih =>
    rw [hquoted] at ih
    exact ih (normal_cons.1 (normal_cons.1 h).2).2
  | case5 rest _ _ p k hp value stop j hquoted _ ih =>
    have hrest := (normal_cons.1 h).2
    have hpoint := escape_ne_nul hrest
    rw [hp] at hpoint
    rw [hquoted] at ih
    exact .cons hpoint (ih (hrest.drop k))
  | case7 c rest _ _ _ value stop k hquoted ih =>
    obtain ⟨hc, hrest⟩ := normal_cons.1 h
    rw [hquoted] at ih
    exact .cons (char_ne_nul hc) (ih hrest)

theorem nulFree_urlBody (h : Normal cs) : NulFree (urlBody cs).1 := by
  fun_induction urlBody cs with
  | case1 | case2 | case3 | case5 => exact .nil
  | case4 c rest _ _ _ p k hp value stop j hbody ih =>
    have hrest := (normal_cons.1 h).2
    have hpoint := escape_ne_nul hrest
    rw [hp] at hpoint
    rw [hbody] at ih
    exact .cons hpoint (ih (hrest.drop k))
  | case6 c rest _ _ _ _ value stop k hbody ih =>
    obtain ⟨hc, hrest⟩ := normal_cons.1 h
    rw [hbody] at ih
    exact .cons (char_ne_nul hc) (ih hrest)

/-! ## What each reader gives -/

theorem named_name (h : startsIdent cs = true) (hn : Normal cs) : Named (name cs).1 :=
  ⟨name_ne_nil h, nulFree_name hn⟩

/-- Behind a name no more of it stands. -/
theorem startsName_drop_name (cs : List Char) : startsName (cs.drop (name cs).2) = false := by
  fun_induction name cs with
  | case1 => rfl
  | case2 c rest _ value k hname ih =>
    rw [hname] at ih
    exact ih
  | case3 c rest _ _ p k _ value j hname ih =>
    rw [hname] at ih
    rw [show j + k + 1 = (k + j) + 1 by omega, List.drop_succ_cons, ← List.drop_drop]
    exact ih
  | case4 c rest hname hescape =>
    rw [List.drop_zero, startsName, Bool.eq_false_iff.2 hname, Bool.eq_false_iff.2 hescape]
    rfl

/-- Lexemes that the lexer gives of a text, with what is left of it: they are granted, and the last
one ends there. -/
structure Lexed (out : List Lexeme) (rest : List Char) : Prop where
  single : (∃ x, out = [x]) ∨ ∃ x ∈ out, x.isFirm = false
  granted : ∀ x ∈ out, x.Granted
  stops : ∀ x ∈ out.getLast?, Stops x rest
  quoted : ∀ name, out.getLast? = some (.functionHead name) → Clear (.functionHead name) rest

theorem Lexed.leaf {l : Leaf} (hl : l.Granted) (hs : Stops (.leaf l) rest) :
    Lexed [.leaf l] rest where
  single := .inl ⟨_, rfl⟩
  granted := List.forall_mem_singleton.2 hl
  stops := fun x hx => by
    obtain rfl := Option.some.inj hx
    exact hs
  quoted := fun _ h => by cases h

/-- A string or an address that the end of the text breaks off. -/
theorem Lexed.broken {l : Leaf} (hl : l.Granted) (hf : l.isFirm = false) (f : Fault)
    (rest : List Char) : Lexed [.leaf l, .leaf (.fault f)] rest where
  single := .inr ⟨_, List.mem_cons_self, hf⟩
  granted := List.forall_mem_cons.2 ⟨hl, List.forall_mem_singleton.2 trivial⟩
  stops := fun x hx => by
    obtain rfl := Option.some.inj hx
    trivial
  quoted := fun _ h => by cases h

theorem Lexed.function {name : Text} (hname : Named name)
    (hquote : Clear (.functionHead name) rest) : Lexed [.functionHead name] rest where
  single := .inl ⟨_, rfl⟩
  granted := List.forall_mem_singleton.2 hname
  stops := fun x hx => by
    obtain rfl := Option.some.inj hx
    trivial
  quoted := fun m h => by
    obtain rfl := Lexeme.functionHead.inj (Option.some.inj h)
    exact hquote

theorem lexed_url (h : Normal cs) (rest : List Char) : Lexed ((url cs).1.map .leaf) rest := by
  have hbody := nulFree_urlBody (h.drop (cs.takeWhile isSpace).length)
  fun_cases url cs with
  | case1 blanks value k used hurl =>
    rw [hurl] at hbody
    exact .leaf hbody trivial
  | case2 blanks value k used hurl =>
    rw [hurl] at hbody
    exact .broken (show (Leaf.url value false).Granted from hbody) rfl _ _
  | case3 => exact .leaf trivial trivial

theorem lexed_identLike (h : startsIdent cs = true) (hn : Normal cs) :
    Lexed (identLike cs).1 (cs.drop (identLike cs).2) := by
  have hname := named_name h hn
  have hstops := startsName_drop_name cs
  have behind {k : Nat} {rest : List Char} (hdrop : cs.drop k = '(' :: rest) :
      cs.drop (k + 1) = rest := by
    rw [← List.drop_drop, hdrop]
    rfl
  fun_cases identLike cs with
  | case2 value k _ rest hdrop _ c tail _ _ leaves j hurl
  | case3 value k _ rest hdrop _ _ leaves j hurl =>
    have hlexed := fun behind => lexed_url (normal_cons.1 (hdrop ▸ hn.drop k)).2 behind
    rw [hurl] at hlexed
    exact hlexed _
  | case1 value k hvalue rest hdrop _ c tail hblanks hquote =>
    rw [hvalue] at hname
    refine .function hname fun _ => ⟨c, ?_, by simpa using hquote⟩
    rw [behind hdrop, hblanks]
    rfl
  | case4 value k hvalue rest hdrop hurl =>
    rw [hvalue] at hname
    exact .function hname fun h => absurd h hurl
  | case5 value k hvalue hbracket =>
    rw [hvalue] at hname hstops
    refine .leaf hname ⟨hstops, fun h => ?_⟩
    obtain ⟨more, hmore⟩ := List.head?_eq_some_iff.1 h
    exact hbracket more hmore

theorem lexed_numeric {k : Nat} {isInteger : Bool} {r : List Lexeme × Nat} (hn : Normal cs)
    (hnumber : numberLength? cs = some (k, isInteger)) (h : numeric cs k isInteger = .ok r) :
    Lexed r.1 (cs.drop r.2) := by
  obtain ⟨m, rest, rfl, rfl, rfl, hends⟩ := exists_numeral hnumber
  have htext : (m.text ++ rest).take m.text.length = m.text := List.take_left
  have hdrop : (m.text ++ rest).drop m.text.length = rest := List.drop_left
  have hrest : Normal rest := hdrop ▸ hn.drop m.text.length
  have hshort : m.IsShort := fun hint => Nat.le_of_not_lt fun hlong => by
    rw [numeric] at h
    simp only [htext, hint, Bool.true_and] at h
    rw [if_pos (decide_eq_true hlong)] at h
    cases h
  have hgranted : IsNumber m.text := ⟨m, rfl, hshort⟩
  rw [numeric_numeral hshort] at h
  split at h
  · obtain rfl := Except.ok.inj h
    refine .leaf ⟨hgranted, named_name ‹_› hrest⟩ ?_
    rw [← List.drop_drop, hdrop]
    exact startsName_drop_name rest
  split at h
  · obtain rfl := Except.ok.inj h
    exact .leaf hgranted trivial
  · obtain rfl := Except.ok.inj h
    refine .leaf hgranted ?_
    rw [hdrop]
    exact ⟨Bool.eq_false_iff.2 ‹_›, ‹_›, by rwa [m.isIntegerText_text]⟩

theorem lexed_string (q : Char) (h : Normal cs) (rest : List Char) :
    Lexed (stringLike q cs).1 rest := by
  have hvalue := @nulFree_quoted cs q h
  fun_cases stringLike q cs with
  | case1 value k hquoted =>
    rw [hquoted] at hvalue
    exact .leaf hvalue trivial
  | case2 => exact .leaf trivial trivial
  | case3 value k hquoted =>
    rw [hquoted] at hvalue
    exact .broken (show (Leaf.string value false).Granted from hvalue) rfl _ _

theorem comment_mem (cs : List Char) : ∀ c ∈ (comment cs).1, c ∈ cs := by
  fun_induction comment cs with
  | case1 => exact fun c h => h
  | case2 => exact fun c h => by cases h
  | case3 c rest _ text k hcomment ih =>
    rw [hcomment] at ih
    exact List.cons_subset_cons c ih

theorem name_ne_nil_of_startsName (h : startsName cs = true) : (name cs).1 ≠ [] := by
  cases cs with
  | nil => cases h
  | cons c rest =>
    rw [name]
    split
    · exact List.cons_ne_nil _ _
    · have hescape : (c = '\\' && startsEscape rest) = true := by
        simpa [startsName, ‹¬isName c = true›] using h
      rw [if_pos hescape]
      exact List.cons_ne_nil _ _

/-- A name that starts no identifier starts as a number does. -/
theorem startsAsNumber_name (hname : startsName cs = true) (hident : startsIdent cs = false) :
    StartsAsNumber (name cs).1 := by
  have digit {c : Char} (hc : isName c = true) (hstart : isNameStart c = false)
      (hhyphen : c ≠ '-') : isDigit c = true := by
    simpa [isName, hstart, hhyphen] using hc
  cases cs with
  | nil => cases hname
  | cons c rest =>
    by_cases hescape : c = '\\'
    · subst hescape
      have hname : (isName '\\' || (true && startsEscape rest)) = true := hname
      have hident : startsEscape rest = false := hident
      rw [hident] at hname
      cases hname
    have hc : isName c = true := by simpa [startsName, hescape] using hname
    have hvalue : (name (c :: rest)).1 = .char c :: (name rest).1 := by rw [name, if_pos hc]
    rw [hvalue]
    by_cases hhyphen : c = '-'
    · subst hhyphen
      cases rest with
      | nil =>
        refine .inr (.inl ?_)
        rw [name]
      | cons d more =>
        by_cases hd : startsName (d :: more) = true
        · have hslash : d ≠ '\\' := by
            rintro rfl
            have hd : (isName '\\' || (true && startsEscape more)) = true := hd
            have hident : startsEscape more = false := hident
            rw [hident] at hd
            cases hd
          have hne : d ≠ '-' := by
            rintro rfl
            cases hident
          have hd : isName d = true := by simpa [startsName, hslash] using hd
          have hstart : isNameStart d = false := by
            rw [startsIdent] at hident
            · exact hident
            all_goals simp [hslash, hne]
          refine .inr (.inr ⟨d, (name more).1, ?_, digit hd hstart hne⟩)
          rw [name, if_pos hd]
        · rw [name_of_not_startsName (Bool.eq_false_iff.2 hd)]
          exact .inr (.inl rfl)
    · refine .inl ⟨c, _, rfl, digit hc ?_ hhyphen⟩
      exact isNameStart_of_not_startsIdent (by rw [hident]; decide)

theorem unicodeRange_lt (cs : List Char) :
    (unicodeRange cs).1 < Nat.pow 16 6 ∧ (unicodeRange cs).2.1 < Nat.pow 16 6 := by
  have hex (cs : List Char) : ofHex ((cs.take 6).takeWhile isHex) < Nat.pow 16 6 :=
    ofHex_lt List.all_takeWhile
      (Nat.le_trans (List.takeWhile_prefix _).length_le (List.length_take_le 6 cs))
  fun_cases unicodeRange cs with
  | case1 first marks =>
    have padded {d : Char} (hd : isHex d = true) :
        ofHex (first ++ marks.map fun _ => d) < Nat.pow 16 6 := by
      refine ofHex_lt ?_ ?_
      · rw [List.all_append, List.all_map]
        refine Bool.and_eq_true_iff.2 ⟨List.all_takeWhile, List.all_eq_true.2 fun _ _ => hd⟩
      · have hfirst : first.length ≤ 6 :=
          Nat.le_trans (List.takeWhile_prefix _).length_le (List.length_take_le 6 cs)
        have hmarks : marks.length ≤ 6 - first.length :=
          Nat.le_trans (List.takeWhile_prefix _).length_le (List.length_take_le _ _)
        rw [List.length_append, List.length_map]
        omega
    exact ⟨padded (by decide), padded (by decide)⟩
  | case2 | case4 => exact ⟨hex cs, hex cs⟩
  | case3 => exact ⟨hex cs, hex _⟩

theorem isDigit_of_numberLength? (h : numberLength? (c :: cs) = none) : isDigit c = false := by
  refine Bool.eq_false_iff.2 fun hdigit => ?_
  have hsign : signLength (c :: cs) = 0 := if_neg (by simp [ne_sign_of_isDigit hdigit])
  have hsome := isSome_numberLength? (c :: cs)
  rw [h, hsign, List.drop_zero, startsDigit, List.head?_cons, Option.any_some, hdigit] at hsome
  cases hsome

theorem isDelimiter_of (hspace : ¬isSpace c = true) (hident : ¬startsIdent (c :: cs) = true)
    (hnumber : numberLength? (c :: cs) = none) (ho : Bracket.ofOpener? c = none)
    (hcl : Bracket.ofCloser? c = none) (hquote : ¬(c = '"' || c = '\x27') = true) :
    isDelimiter c = true := by
  have hquote : c ≠ '"' ∧ c ≠ '\x27' := by simpa using hquote
  simp [isDelimiter, hspace, isNameStart_of_not_startsIdent hident,
    isDigit_of_numberLength? hnumber, ho, hcl, hquote]

/-- What a step of the lexer gives ends where the text goes on. -/
theorem lexed_step {r : List Lexeme × Nat} (hn : Normal (c :: rest)) (h : step c rest = .ok r) :
    Lexed r.1 (rest.drop r.2) := by
  obtain ⟨hc, hrest⟩ := normal_cons.1 hn
  have leaf {l : Leaf} {k : Nat} {rest : List Char} (hl : l.Granted)
      (hs : Stops (.leaf l) (rest.drop k)) (h : one (.leaf l) k = .ok r) :
      Lexed r.1 (rest.drop r.2) := by
    obtain rfl := Except.ok.inj h
    exact .leaf hl hs
  have delimiter {rest : List Char} (hc' : isDelimiter c = true) (halone : Alone c rest)
      (h : oneLiteral [c] 0 = .ok r) : Lexed r.1 (rest.drop r.2) :=
    have hgranted : (Leaf.literal [c]).Granted := .inr (.inr (.inr (.inr ⟨c, rfl, hc', hc⟩)))
    leaf (k := 0) hgranted halone h
  have hash {rest : List Char} (hhash : c = '#') (hident : ¬startsIdent (c :: rest) = true)
      (hnumber : numberLength? (c :: rest) = none) (hname : startsName rest = false) :
      Alone c rest :=
    ⟨Bool.eq_false_iff.2 hident, hnumber, fun h => absurd (hhash.symm.trans h) (by decide),
      fun _ => hname, fun h => absurd (hhash.symm.trans h) (by decide),
      fun h => absurd (hhash.symm.trans h) (by decide), fun h => absurd h (by rw [hhash]; decide)⟩
  revert h
  fun_cases step c rest with
  | case1 rest hspace more =>
    refine leaf ⟨List.cons_ne_nil _ _, List.all_eq_true.2 ?_⟩ ?_
    · exact List.forall_mem_cons.2 ⟨hspace, List.all_eq_true.1 List.all_takeWhile⟩
    · show startsSpace (rest.drop more.length) = false
      rw [drop_takeWhile_length]
      exact any_head?_dropWhile rest
  | case2 rest _ _ first last k hrange =>
    have hlt := unicodeRange_lt (rest.drop 1)
    rw [hrange] at hlt
    exact leaf hlt trivial
  | case3 => exact leaf (.inl rfl) trivial
  | case4 rest _ _ _ hident out n hlike =>
    intro h
    obtain rfl := Except.ok.inj h
    have hlexed := lexed_identLike hident hn
    have hpos := identLike_pos hident
    rw [hlike] at hlexed hpos
    obtain ⟨k, rfl⟩ := Nat.exists_eq_succ_of_ne_zero (Nat.ne_of_gt hpos)
    exact hlexed
  | case5 rest _ _ _ hident k isInteger hnumber =>
    intro h
    cases hr : numeric (c :: rest) k isInteger with
    | error e => rw [hr] at h; cases h
    | ok r' =>
      rw [hr] at h
      obtain rfl := Except.ok.inj h
      have hlexed := lexed_numeric hn hnumber hr
      obtain ⟨out, n⟩ := r'
      have hpos := numeric_pos hnumber hr
      obtain ⟨k, rfl⟩ := Nat.exists_eq_succ_of_ne_zero (Nat.ne_of_gt hpos)
      exact hlexed
  | case6 rest _ _ _ _ _ hat hident value k hname =>
    have hnamed := named_name hident hrest
    have hstops := startsName_drop_name rest
    rw [hname] at hnamed hstops
    exact leaf hnamed hstops
  | case7 rest _ _ _ hident hnumber hat hkeyword =>
    subst hat
    exact delimiter rfl ⟨Bool.eq_false_iff.2 hident, hnumber, fun _ => Bool.eq_false_iff.2 hkeyword,
      fun h => absurd h (by decide), fun h => absurd h (by decide), fun h => absurd h (by decide),
      fun h => absurd h (by decide)⟩
  | case8 _ _ _ d more hname =>
    have hname : startsName (d :: more) = true := hname
    exact leaf ⟨⟨name_ne_nil_of_startsName hname, nulFree_name hrest⟩, startsAsNumber_name hname⟩
      (startsName_drop_name _)
  | case9 _ _ hhash d more hname =>
    exact delimiter (by rw [hhash]; rfl) (hash hhash ‹_› ‹_› (Bool.eq_false_iff.2 hname))
  | case10 _ _ hhash =>
    exact delimiter (by rw [hhash]; rfl) (hash hhash ‹_› ‹_› rfl)
  | case11 | case12 =>
    intro h
    obtain rfl := Except.ok.inj h
    refine ⟨.inl ⟨_, rfl⟩, List.forall_mem_singleton.2 trivial, fun x hx => ?_,
      fun _ h => by cases h⟩
    obtain rfl := Option.some.inj hx
    trivial
  | case13 =>
    intro h
    obtain rfl := Except.ok.inj h
    exact lexed_string c hrest _
  | case14 rest _ _ _ _ _ _ _ text k =>
    rename_i hcomment
    have hinfix := not_infix_comment (rest.drop 1)
    have hmem := comment_mem (rest.drop 1)
    rw [hcomment] at hinfix hmem
    exact leaf ⟨fun d hd => hrest.drop 1 d (hmem d hd), hinfix⟩ trivial
  | case15 => exact leaf (.inr (.inl rfl)) trivial
  | case16 =>
    rename_i hbar
    simp only [Bool.and_eq_true, decide_eq_true_eq] at hbar
    obtain ⟨rfl, -⟩ := hbar
    exact leaf (.inr (.inr (.inl rfl))) trivial
  | case17 =>
    rename_i hequal
    simp only [Bool.and_eq_true, decide_eq_true_eq] at hequal
    exact leaf (.inr (.inr (.inr (.inl ⟨c, List.contains_iff_mem.1 hequal.1, rfl⟩)))) trivial
  | case18 =>
    rename_i hcomment _ hcolumn hequal
    refine delimiter (isDelimiter_of ‹_› ‹_› ‹_› ‹_› ‹_› ‹_›) ?_
    simp only [Bool.and_eq_true, decide_eq_true_eq, not_and] at hcomment hcolumn hequal
    exact ⟨Bool.eq_false_iff.2 ‹_›, ‹_›, fun h => absurd h ‹_›, fun h => absurd h ‹_›, hcomment,
      hcolumn, hequal⟩

end StylePrune.Css.Lexer
