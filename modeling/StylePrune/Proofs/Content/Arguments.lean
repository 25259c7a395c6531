import StylePrune.Proofs.Content.Braced
import StylePrune.Proofs.Text.Words

/-!
# Expressions as arguments

An expression is an argument if the brackets outside its literals are nested and commas stand only
within them. Splitting passes its literals over (`Outside.pass?_eq`), so it is cut off whole
(`Expr.IsArgument.passes`). What a call reads is the list of its arguments up to the first closing
round bracket, wherever that stands; the argument that is cut there is the last one, and the
literals before the cut are those of the argument (`mem_splitArguments_toBracket`,
`Literal.Clear.trimmed`).
-/

namespace StylePrune.Content

open Arguments

/-! ## Passing an expression -/

/-- A quoted text is passed over to its closing quote. -/
theorem pass?_raw {q : Char} (hq : q ≠ '\\') (depth : Depth) (rest raw : List Char)
    (h : IsRaw q raw) :
    pass? (.inside q false) depth (raw ++ q :: rest) = pass? .plain depth rest := by
  fun_induction IsRaw q raw with
  | case1 =>
    rw [List.nil_append, pass?_inside, QuoteState.next, if_neg hq, if_pos rfl]
  | case2 => exact h.elim
  | case3 c raw ih =>
    rw [List.cons_append, List.cons_append, pass?_inside, QuoteState.next, if_pos rfl, pass?_inside,
      QuoteState.next, ih h]
  | case4 c raw h1 h2 ih =>
    have hc : c ≠ '\\' := ne_backslash h1 h2
    rw [List.cons_append, pass?_inside, QuoteState.next, if_neg hc, if_neg h.1, ih h.2]

theorem pass?_quote {q : Char} (hq : q = '\x27' ∨ q = '"' ∨ q = '\x60') (depth : Depth)
    (rest raw : List Char) (h : IsRaw q raw) :
    pass? .plain depth (q :: (raw ++ q :: rest)) = pass? .plain depth rest := by
  have hopen : q ≠ ',' ∧ QuoteState.next .plain q = .inside q false ∧ q ≠ '\\' := by
    rcases hq with rfl | rfl | rfl <;> decide
  have hdepth : depth.next q = depth := by rcases hq with rfl | rfl | rfl <;> rfl
  rw [pass?_plain fun h => absurd h hopen.1, hopen.2.1, hdepth,
    pass?_raw hopen.2.2 depth rest raw h]

/-- Literals do not count: a text is passed as what stands outside them. -/
theorem Outside.pass?_eq {text outer : List Char} (h : Outside text outer) (depth : Depth) :
    pass? .plain depth text = pass? .plain depth outer := by
  induction h generalizing depth with
  | nil => rfl
  | @char c text outer hc htext ih =>
    have hnext : QuoteState.next .plain c = .plain := by rw [QuoteState.next, hc]; rfl
    rw [pass?, pass?, hnext, ih]
  | literal hq hraw htext ih => rw [pass?_quote (isQuote_iff.1 hq) depth _ _ hraw, ih]

/-- No argument ends within an expression, and it leaves no quote and no bracket open. -/
def Expr.Passes (e : Expr) : Prop := pass? .plain {} e.text = some (.plain, {})

/-- Expressions that can be arguments: brackets are nested, and commas stand only within brackets.
-/
structure Expr.IsArgument (e : Expr) : Prop where
  wellFormed : e.WellFormed
  flat : ∀ x ∈ e.places [], x.2.Flat
  balanced : Balanced false e.outer

theorem Expr.IsArgument.passes {e : Expr} (h : e.IsArgument) : e.Passes := by
  rw [Expr.Passes, (e.outside_text [] h.wellFormed h.flat).pass?_eq]
  exact h.balanced.pass?_eq {} nofun

/-! ## Lists of arguments -/

/-- Arguments with commas between them. -/
def argumentsText (args : List Expr) : List Char := List.intercalate [','] (args.map Expr.text)

/-- The part of a text before its first closing round bracket. -/
def toBracket (text : List Char) : List Char := text.takeWhile (· ≠ ')')

theorem toBracket_append {text : List Char} (h : ')' ∉ text) (rest : List Char) :
    toBracket (text ++ rest) = text ++ toBracket rest := by
  refine List.takeWhile_append_of_pos fun c hc => ?_
  rw [decide_eq_true_eq]
  rintro rfl
  exact h hc

theorem toBracket_eq_self {text : List Char} (h : ')' ∉ text) : toBracket text = text := by
  have : toBracket (text ++ []) = text ++ [] := toBracket_append h []
  rwa [List.append_nil] at this

theorem toBracket_append_of_mem {text : List Char} (h : ')' ∈ text) (rest : List Char) :
    toBracket (text ++ rest) = toBracket text := by
  obtain ⟨before, after, rfl, hbefore⟩ := List.eq_append_cons_of_mem h
  rw [List.append_assoc, toBracket_append hbefore, toBracket_append hbefore]
  simp [toBracket]

theorem toBracket_append_close (text rest : List Char) :
    toBracket (text ++ ')' :: rest) = toBracket text := by
  by_cases h : ')' ∈ text
  · exact toBracket_append_of_mem h _
  · rw [toBracket_append h, toBracket_eq_self h, toBracket, List.takeWhile_cons_of_neg (by decide),
      List.append_nil]

theorem argumentsText_append (arg : Expr) (later : List Expr) : ∀ earlier : List Expr,
    ∃ tail, argumentsText (earlier ++ arg :: later) =
      (earlier.map Expr.text).flatMap (· ++ [',']) ++ (arg.text ++ tail) ∧
        (tail = [] ∨ ∃ more, tail = ',' :: more)
  | [] => by
    cases later with
    | nil => exact ⟨[], by simp [argumentsText], .inl rfl⟩
    | cons next later =>
      refine ⟨',' :: argumentsText (next :: later), ?_, .inr ⟨_, rfl⟩⟩
      simp [argumentsText, List.intercalate_cons_cons]
  | first :: earlier => by
    obtain ⟨tail, htext, htail⟩ := argumentsText_append arg later earlier
    obtain ⟨second, others, hothers⟩ := List.exists_cons_of_ne_nil
      (show earlier ++ arg :: later ≠ [] by simp)
    refine ⟨tail, ?_, htail⟩
    rw [hothers] at htext
    rw [List.cons_append, hothers, argumentsText, List.map_cons, List.map_cons,
      List.intercalate_cons_cons, ← List.map_cons, ← argumentsText, htext]
    simp

theorem exists_pass?_toBracket {e : Expr} (h : e.Passes) :
    ∃ s, pass? .plain {} (toBracket e.text) = some s := by
  have hwhole : pass? .plain {} e.text = some (.plain, {}) := h
  rw [← List.takeWhile_append_dropWhile (p := (· ≠ ')')) (l := e.text), pass?_append] at hwhole
  obtain ⟨s, hs, -⟩ := Option.bind_eq_some_iff.1 hwhole
  exact ⟨s, hs⟩

/-- Behind arguments without a closing round bracket the next one is read up to its first. -/
theorem mem_splitArguments_toBracket {earlier later : List Expr} {arg : Expr}
    (hearlier : ∀ e ∈ earlier, e.Passes ∧ ')' ∉ e.text) (harg : arg.Passes)
    (hne : ∃ c ∈ toBracket arg.text, isBlank c = false) :
    trimChars (toBracket arg.text) ∈
      splitArguments (toBracket (argumentsText (earlier ++ arg :: later))) := by
  obtain ⟨tail, htext, htail⟩ := argumentsText_append arg later earlier
  have hfront : ')' ∉ (earlier.map Expr.text).flatMap (· ++ [',']) := fun hm => by
    obtain ⟨text, htext, hm⟩ := List.mem_flatMap.1 hm
    obtain ⟨e, he, rfl⟩ := List.mem_map.1 htext
    rcases List.mem_append.1 hm with hm | hm
    · exact (hearlier e he).2 hm
    · exact absurd (List.mem_singleton.1 hm) (by decide)
  have hpassed : ∀ text ∈ earlier.map Expr.text, pass? .plain {} text = some (.plain, {}) := by
    intro text htext
    obtain ⟨e, he, rfl⟩ := List.mem_map.1 htext
    exact (hearlier e he).1
  rw [htext, toBracket_append hfront, splitArguments_behind hpassed]
  refine List.mem_append_right _ ?_
  by_cases hbracket : ')' ∈ arg.text
  · obtain ⟨s, hs⟩ := exists_pass?_toBracket harg
    rw [toBracket_append_of_mem hbracket, splitArguments_last hs, finish_reverse hne]
    exact .head _
  · rw [toBracket_eq_self hbracket] at hne ⊢
    rw [toBracket_append hbracket]
    rcases htail with rfl | ⟨more, rfl⟩
    · rw [toBracket, List.takeWhile_nil, List.append_nil, splitArguments_last harg,
        finish_reverse hne]
      exact .head _
    · rw [toBracket, List.takeWhile_cons_of_pos (by decide), splitArguments_comma harg,
        finish_reverse hne]
      exact .head _

/-! ## Trimmed arguments -/

/-- A literal starts and ends with its quote. -/
theorem Literal.exists_quote {l : Literal} (hw : l.WellFormed) :
    ∃ q inner, l.text = q :: (inner ++ [q]) ∧ isBlank q = false := by
  cases l with
  | string q raw =>
    refine ⟨q, raw, rfl, ?_⟩
    rcases hw.1 with rfl | rfl <;> decide
  | template body => exact ⟨'\x60', body.text, rfl, by decide⟩

/-- Trimming takes no part of a literal away. -/
theorem Splits.trimmed {text before : List Char} {l : Literal} (hs : Splits text (before, l))
    (hw : l.WellFormed) :
    ∃ front back inner, (∀ c ∈ front, isBlank c = true) ∧
      text = front ++ (trimChars text ++ back) ∧ before = front ++ inner ∧
        Splits (trimChars text) (inner, l) := by
  obtain ⟨front, back, hfront, hback, htext⟩ := exists_trimChars text
  obtain ⟨after, hsplit⟩ := hs
  obtain ⟨q, raw, hl, hq⟩ := Literal.exists_quote hw
  have hstart : ∃ inner, before = front ++ inner ∧
      trimChars text ++ back = inner ++ (l.text ++ after) := by
    have hboth : front ++ (trimChars text ++ back) = before ++ (l.text ++ after) := by
      rw [← htext, hsplit, List.append_assoc]
    rcases List.append_eq_append_iff.1 hboth with ⟨inner, hbefore, hrest⟩ | ⟨extra, hextra, hrest⟩
    · exact ⟨inner, hbefore, hrest⟩
    · cases extra with
      | nil => exact ⟨[], by simpa using hextra.symm, by simpa using hrest.symm⟩
      | cons d extra =>
        rw [hl, List.cons_append, List.cons_append] at hrest
        obtain rfl := (List.cons.inj hrest).1
        rw [hfront q (by rw [hextra]; simp)] at hq
        cases hq
  obtain ⟨inner, hbefore, hrest⟩ := hstart
  refine ⟨front, back, inner, hfront, htext, hbefore, ?_⟩
  rw [← List.append_assoc] at hrest
  rcases List.append_eq_append_iff.1 hrest with ⟨extra, hextra, hback'⟩ | ⟨after', hafter, -⟩
  · rcases List.eq_nil_or_concat' extra with rfl | ⟨extra, d, rfl⟩
    · exact ⟨[], by simpa using hextra.symm⟩
    · have hends : (inner ++ q :: raw) ++ [q] = (trimChars text ++ extra) ++ [d] := by
        simpa [hl] using hextra
      obtain rfl : q = d := List.singleton_inj.1 (List.append_inj_right' hends rfl)
      rw [hback q (by rw [hback']; simp)] at hq
      cases hq
  · exact ⟨after', hafter⟩

/-- A literal that stands in clear does so in the trimmed text. -/
theorem Literal.Clear.trimmed {text before : List Char} {l : Literal} (h : l.Clear text before)
    (hw : l.WellFormed) (hs : Splits text (before, l)) :
    ∃ inner, Splits (trimChars text) (inner, l) ∧ l.Clear (trimChars text) inner := by
  obtain ⟨front, back, inner, hfront, htext, rfl, hsplit⟩ := hs.trimmed hw
  have hwhole : l.Clear (front ++ (trimChars text ++ back)) (front ++ inner) := by rwa [← htext]
  refine ⟨inner, hsplit, hwhole.within hw hsplit fun c hc => ?_⟩
  have hblank := hfront c hc
  cases hquote : ClassList.isQuote c with
  | false => rfl
  | true =>
    simp only [ClassList.isQuote, Bool.or_eq_true, decide_eq_true_eq] at hquote
    rcases hquote with (rfl | rfl) | rfl <;> exact absurd hblank (by decide)

/-! ## Joined arguments -/

/-- The brackets of each kind match in a text before which some are open, and commas stand within
brackets. -/
structure MatchedAll (depth : Depth) (outer : List Char) : Prop where
  paren : Matched '(' ')' depth.paren outer
  square : Matched '[' ']' depth.square outer
  curly : Matched '\x7b' '\x7d' depth.curly outer
  comma : ∀ front, front ++ [','] <+: outer →
    front.count ')' < depth.paren + front.count '(' ∨
      front.count ']' < depth.square + front.count '[' ∨
      front.count '\x7d' < depth.curly + front.count '\x7b'

/-- A text that can be an argument: it is trimmed and not empty, leaves no literal open, has the
brackets of each kind matched outside its literals, and has no comma outside literals and brackets.
-/
structure IsArgumentText (text : List Char) : Prop where
  ne_nil : text ≠ []
  trimmed : trimChars text = text
  matched : ∃ outer, Outside text outer ∧ MatchedAll {} outer

theorem next_eq (depth : Depth) (c : Char) :
    depth.next c = ⟨depthBehind '(' ')' depth.paren c, depthBehind '[' ']' depth.square c,
      depthBehind '\x7b' '\x7d' depth.curly c⟩ := by
  obtain ⟨paren, square, curly⟩ := depth
  simp only [Depth.next, depthBehind]
  grind

theorem matchedAll_nil {depth : Depth} : MatchedAll depth [] ↔ depth = {} := by
  constructor
  · intro h
    obtain ⟨paren, square, curly⟩ := depth
    obtain rfl : paren = 0 := matched_nil.1 h.paren
    obtain rfl : square = 0 := matched_nil.1 h.square
    obtain rfl : curly = 0 := matched_nil.1 h.curly
    rfl
  · rintro rfl
    refine ⟨matched_nil.2 rfl, matched_nil.2 rfl, matched_nil.2 rfl, fun front hfront => ?_⟩
    exact absurd (List.prefix_nil.1 hfront) (List.append_ne_nil_of_right_ne_nil front (by decide))

/-- Whether brackets are open behind some text can be seen from behind its first character. -/
theorem count_cons_lt_iff {opening closing c : Char} (hne : opening ≠ closing) {depth : Nat}
    (hc : c = closing → 0 < depth) (front : List Char) :
    (c :: front).count closing < depth + (c :: front).count opening ↔
      front.count closing < depthBehind opening closing depth c + front.count opening := by
  obtain ⟨shift, hclosing, hopening⟩ := count_cons_depthBehind hne hc front
  omega

theorem isZero_eq_false {depth : Depth} :
    depth.isZero = false ↔ 0 < depth.paren ∨ 0 < depth.square ∨ 0 < depth.curly := by
  simp only [Depth.isZero, Bool.and_eq_false_iff, decide_eq_false_iff_not, Nat.pos_iff_ne_zero,
    or_assoc]

/-- A text goes on from its first character, which closes no bracket that is not open and is no
comma outside brackets. -/
theorem matchedAll_cons {depth : Depth} {c : Char} {outer : List Char} :
    MatchedAll depth (c :: outer) ↔
      ((c = ')' → 0 < depth.paren) ∧ (c = ']' → 0 < depth.square) ∧
        (c = '\x7d' → 0 < depth.curly) ∧ (c = ',' → depth.isZero = false)) ∧
      MatchedAll (depth.next c) outer := by
  rw [next_eq, isZero_eq_false]
  constructor
  · rintro ⟨hparen, hsquare, hcurly, hcomma⟩
    obtain ⟨hp, hparen⟩ := (matched_cons (by decide)).1 hparen
    obtain ⟨hs, hsquare⟩ := (matched_cons (by decide)).1 hsquare
    obtain ⟨hc, hcurly⟩ := (matched_cons (by decide)).1 hcurly
    refine ⟨⟨hp, hs, hc, ?_⟩, hparen, hsquare, hcurly, fun front hfront => ?_⟩
    · rintro rfl
      exact hcomma [] (List.cons_prefix_cons.2 ⟨rfl, List.nil_prefix⟩)
    · have := hcomma (c :: front) (List.cons_prefix_cons.2 ⟨rfl, hfront⟩)
      rwa [count_cons_lt_iff (by decide) hp, count_cons_lt_iff (by decide) hs,
        count_cons_lt_iff (by decide) hc] at this
  · rintro ⟨⟨hp, hs, hc, hfirst⟩, hparen, hsquare, hcurly, hcomma⟩
    refine ⟨(matched_cons (by decide)).2 ⟨hp, hparen⟩, (matched_cons (by decide)).2 ⟨hs, hsquare⟩,
      (matched_cons (by decide)).2 ⟨hc, hcurly⟩, fun front hfront => ?_⟩
    cases front with
    | nil => exact hfirst (List.cons_prefix_cons.1 hfront).1.symm
    | cons d front =>
      obtain ⟨rfl, hrest⟩ := List.cons_prefix_cons.1 hfront
      rw [count_cons_lt_iff (by decide) hp, count_cons_lt_iff (by decide) hs,
        count_cons_lt_iff (by decide) hc]
      exact hcomma front hrest

/-- No argument ends within such a text, and it leaves nothing open. -/
theorem pass?_outside {text outer : List Char} (houter : Outside text outer) {depth : Depth}
    (h : MatchedAll depth outer) : pass? .plain depth text = some (.plain, {}) := by
  induction houter generalizing depth with
  | nil =>
    obtain rfl := matchedAll_nil.1 h
    rfl
  | @char c text outer hc htext ih =>
    obtain ⟨⟨-, -, -, hcomma⟩, hrest⟩ := matchedAll_cons.1 h
    have hwithin : c = ',' → (depth.next c).isZero = false := by
      rintro rfl
      exact hcomma rfl
    rw [pass?_plain hwithin, QuoteState.next, hc, if_neg Bool.false_ne_true]
    exact ih hrest
  | literal hq hraw htext ih =>
    rw [pass?_quote (isQuote_iff.1 hq) depth _ _ hraw]
    exact ih h

theorem IsArgumentText.pass?_eq {text : List Char} (h : IsArgumentText text) :
    pass? .plain {} text = some (.plain, {}) := by
  obtain ⟨outer, houter, hmatched⟩ := h.matched
  exact pass?_outside houter hmatched

/-- Behind a comma an argument may have blanks before it. -/
theorem IsArgumentText.finish_eq {text : List Char} (h : IsArgumentText text) {front : List Char}
    (hfront : ∀ c ∈ front, isBlank c = true) : finish (front ++ text).reverse = [text] := by
  rw [finish_blanks hfront, finish_trimmed h.ne_nil h.trimmed]

theorem splitArguments_joined {args : List (List Char)} (h : ∀ arg ∈ args, IsArgumentText arg)
    (hne : args ≠ []) {front : List Char} (hfront : ∀ c ∈ front, isBlank c = true) :
    splitArguments (front ++ List.intercalate [',', ' '] args) = args := by
  induction args generalizing front with
  | nil => exact absurd rfl hne
  | cons arg args ih =>
    obtain ⟨harg, hargs⟩ := List.forall_mem_cons.1 h
    have hpassed : pass? .plain {} (front ++ arg) = some (.plain, {}) := by
      rw [pass?_blanks hfront, harg.pass?_eq]
    cases args with
    | nil =>
      rw [List.intercalate_singleton, splitArguments_last hpassed, harg.finish_eq hfront]
    | cons next args =>
      -- The blank behind the comma goes with the next argument, which is trimmed.
      have hrest : splitArguments ([' '] ++ List.intercalate [',', ' '] (next :: args)) =
          next :: args := ih hargs (List.cons_ne_nil next args) (by simp [isBlank, isBlankCode])
      have hsplit := splitArguments_comma hpassed
        ([' '] ++ List.intercalate [',', ' '] (next :: args))
      rw [harg.finish_eq hfront, hrest] at hsplit
      rw [List.intercalate_cons_cons]
      simpa using hsplit

/-- Arguments that are joined with a comma and a blank are split again, and the parts of any text
are trimmed, not empty, and split into themselves. -/
theorem splitArguments_exact :
    (∀ args : List (List Char), (∀ arg ∈ args, IsArgumentText arg) →
      splitArguments (List.intercalate [',', ' '] args) = args) ∧
    ∀ text : List Char, ∀ part ∈ splitArguments text,
      part ≠ [] ∧ trimChars part = part ∧ splitArguments part = [part] := by
  refine ⟨fun args h => ?_, fun text part hpart => ?_⟩
  · cases args with
    | nil => rfl
    | cons arg args =>
      exact splitArguments_joined h (List.cons_ne_nil arg args) (List.forall_mem_nil _)
  · have := isPart_of_mem hpart
    exact ⟨this.ne_nil, this.trimmed, this.alone⟩

/-- Commas in a string and in brackets, brackets that are matched but not nested, and a text with a
bracket that closes nothing and a quote that nothing closes. -/
theorem splitArguments_exact_mixed :
    (∀ arg ∈ ["'it\\'s, fine'".toList, "a[1, 2]".toList, "f([)]".toList], IsArgumentText arg) ∧
      splitArguments "'it\\'s, fine', a[1, 2], f([)]".toList =
        ["'it\\'s, fine'".toList, "a[1, 2]".toList, "f([)]".toList] ∧
      "'b, c".toList ∈ splitArguments ")a, 'b, c ".toList ∧
      splitArguments "'b, c".toList = ["'b, c".toList] := by
  have htext : "'it\\'s, fine'".toList =
      '\x27' :: ("it\\'s, fine".toList ++ '\x27' :: []) := rfl
  have hraw : IsRaw '\x27' "it\\'s, fine".toList := by simp [IsRaw]
  have hstring : IsArgumentText "'it\\'s, fine'".toList := by
    refine ⟨by decide, by decide, [], ?_, matchedAll_nil.2 rfl⟩
    rw [htext]
    exact .literal rfl hraw .nil
  have plain {text : List Char} (hquotes : text.all (fun c => !ClassList.isQuote c) = true) :
      Outside text text := by
    have := Outside.plain_append hquotes .nil
    rwa [List.append_nil] at this
  have hindex : IsArgumentText "a[1, 2]".toList := by
    refine ⟨by decide, by decide, _, plain rfl, ?_⟩
    simp [matchedAll_cons, matchedAll_nil, Depth.next, Depth.isZero]
  have hcall : IsArgumentText "f([)]".toList := by
    refine ⟨by decide, by decide, _, plain rfl, ?_⟩
    simp [matchedAll_cons, matchedAll_nil, Depth.next]
  have hargs : ∀ arg ∈ ["'it\\'s, fine'".toList, "a[1, 2]".toList, "f([)]".toList],
      IsArgumentText arg := by
    simp only [List.forall_mem_cons, List.not_mem_nil, false_implies, implies_true, and_true]
    exact ⟨hstring, hindex, hcall⟩
  have hpart : "'b, c".toList ∈ splitArguments ")a, 'b, c ".toList := by decide
  exact ⟨hargs, splitArguments_exact.1 _ hargs, hpart, (splitArguments_exact.2 _ _ hpart).2.2⟩

end StylePrune.Content
