import StylePrune.Proofs.Content.Grammar

/-!
# Reading a braced expression

Braces are counted outside literals, and a backtick counts as a quote. Reading comes to the end just
of the texts whose braces outside literals match (`readBraced_eq_some_iff`), so the brace that it
finds is the one that matches the opening brace (`readBraced_matching`). In an expression the braces
in the code pair up, so it is read to its end if no template literal in it holds a backtick
(`Expr.readBraced_text`).
-/

namespace StylePrune.Content

/-! ## Texts outside their literals -/

theorem isQuote_iff {c : Char} :
    ClassList.isQuote c = true ↔ c = '\x27' ∨ c = '"' ∨ c = '\x60' := by
  simp only [ClassList.isQuote, Bool.or_eq_true, decide_eq_true_eq, or_assoc]

/-- What stands of a text outside its literals. A literal runs from a quote to the next one of its
kind that is not escaped, and none is left open. -/
inductive Outside : (text outer : List Char) → Prop
  | nil : Outside [] []
  | char {c : Char} {text outer : List Char} (hc : ClassList.isQuote c = false)
      (htext : Outside text outer) : Outside (c :: text) (c :: outer)
  | literal {q : Char} {raw text outer : List Char} (hq : ClassList.isQuote q = true)
      (hraw : IsRaw q raw) (htext : Outside text outer) : Outside (q :: (raw ++ q :: text)) outer

theorem Outside.plain_append {front text outer : List Char}
    (hfront : front.all (fun c => !ClassList.isQuote c) = true) (h : Outside text outer) :
    Outside (front ++ text) (front ++ outer) := by
  induction front with
  | nil => exact h
  | cons c front ih =>
    rw [List.all_cons, Bool.and_eq_true, Bool.not_eq_true'] at hfront
    exact .char hfront.1 (ih hfront.2)

theorem Outside.append {front text inner outer : List Char} (hfront : Outside front inner)
    (htext : Outside text outer) : Outside (front ++ text) (inner ++ outer) := by
  induction hfront with
  | nil => exact htext
  | char hc _ ih => exact .char hc ih
  | literal hq hraw _ ih =>
    rw [List.cons_append, List.append_assoc, List.cons_append]
    exact .literal hq hraw ih

/-! ## Templates as quoted texts -/

/-- Whether the character behind a text is escaped. -/
def escapes (escaped : Bool) (text : List Char) : Bool :=
  text.foldl (fun escaped c => !escaped && c = '\\') escaped

theorem escapes_append (escaped : Bool) (xs ys : List Char) :
    escapes escaped (xs ++ ys) = escapes (escapes escaped xs) ys :=
  List.foldl_append ..

theorem escapes_cons {c : Char} (h : c ≠ '\\') (escaped : Bool) (text : List Char) :
    escapes escaped (c :: text) = escapes false text := by
  rw [escapes, List.foldl_cons, decide_eq_false h, Bool.and_false]
  rfl

theorem escapes_chunk (chunk : List Char) (h : IsChunk chunk) : escapes false chunk = false := by
  fun_induction IsChunk chunk with
  | case1 => rfl
  | case2 => exact h.elim
  | case3 c chunk ih => exact ih h
  | case4 => exact h.elim
  | case5 c chunk h1 h2 h3 ih =>
    have hc : c ≠ '\\' := ne_backslash h1 h2
    rw [escapes_cons hc, ih h.2]

/-- Neither a chunk nor the brace behind a placeholder escapes what follows. -/
theorem Template.escapes_text : ∀ t : Template, t.WellFormed → escapes false t.text = false
  | .last chunk, h => escapes_chunk chunk h
  | .hole chunk inside more, h => by
    rw [Template.text, escapes_append, escapes_cons (by decide), more.escapes_text h.2.2]

/-- A text without the quote that does not escape what follows is the text of a literal. -/
theorem isRaw_of_escapes (q : Char) (text : List Char) (hq : q ∉ text)
    (h : escapes false text = false) : IsRaw q text := by
  fun_induction IsRaw q text with
  | case1 => trivial
  | case2 => cases h
  | case3 c text ih =>
    simp only [List.mem_cons, not_or] at hq
    exact ih hq.2.2 h
  | case4 c text h1 h2 ih =>
    have hc : c ≠ '\\' := ne_backslash h1 h2
    rw [List.mem_cons, not_or] at hq
    rw [escapes_cons hc] at h
    exact ⟨Ne.symm hq.1, ih hq.2 h⟩

/-! ## Expressions -/

/-- The text of an expression outside its literals. -/
def Expr.outer : Expr → List Char
  | .nil => []
  | .code text rest => text ++ rest.outer
  | .braces inside rest => '\x7b' :: inside.outer ++ '\x7d' :: rest.outer
  | .string _ _ rest => rest.outer
  | .template _ rest => rest.outer

/-- A template literal with no backtick in it. -/
def Literal.Flat : Literal → Prop
  | .string .. => True
  | .template body => '\x60' ∉ body.text

/-- The literals of an expression whose templates hold no backtick are those of its text. -/
theorem Expr.outside_text : ∀ (e : Expr) (before : List Char), e.WellFormed →
    (∀ x ∈ e.places before, x.2.Flat) → Outside e.text e.outer
  | .nil, _, _, _ => .nil
  | .code text more, _, hw, hf => by
    have hcode : text.all (fun c => !ClassList.isQuote c) = true := by
      refine List.all_eq_true.2 fun c hc => ?_
      have := hw.1 c hc
      simp only [isCode, Bool.and_eq_true] at this
      exact this.1.1
    exact .plain_append hcode (more.outside_text _ hw.2 hf)
  | .braces inside more, _, hw, hf => by
    have hinside := inside.outside_text _ hw.1 fun x hx => hf x (List.mem_append_left _ hx)
    have hmore := more.outside_text _ hw.2 fun x hx => hf x (List.mem_append_right _ hx)
    exact .append (.char rfl hinside) (.char rfl hmore)
  | .string q raw more, _, hw, hf => by
    have hmore := more.outside_text _ hw.2.2 fun x hx => hf x (.tail _ hx)
    rw [Expr.text, Expr.outer, List.cons_append]
    exact .literal (isQuote_iff.2 (hw.1.imp_right .inl)) hw.2.1 hmore
  | .template body more, _, hw, hf => by
    have hmore := more.outside_text _ hw.2 fun x hx => hf x (.tail _ (List.mem_append_right _ hx))
    have hraw : IsRaw '\x60' body.text :=
      isRaw_of_escapes _ _ (hf _ (.head _)) (body.escapes_text hw.1)
    rw [Expr.text, Expr.outer, List.cons_append]
    exact .literal rfl hraw hmore

/-! ## Matched brackets -/

/-- The brackets of a kind match in a text before which `depth` of them are open: none is closed
that is not open, and none is left open. -/
structure Matched (opening closing : Char) (depth : Nat) (text : List Char) : Prop where
  count_le : ∀ front, front <+: text → front.count closing ≤ depth + front.count opening
  count_eq : text.count closing = depth + text.count opening

/-- How many brackets of a kind are open behind a character. -/
def depthBehind (opening closing : Char) (depth : Nat) (c : Char) : Nat :=
  if c = opening then depth + 1 else if c = closing then depth - 1 else depth

theorem matched_nil {opening closing : Char} {depth : Nat} :
    Matched opening closing depth [] ↔ depth = 0 := by
  refine ⟨fun h => h.count_eq.symm, ?_⟩
  rintro rfl
  refine ⟨fun front hfront => ?_, rfl⟩
  rw [List.prefix_nil.1 hfront]
  exact Nat.le_refl 0

/-- Counting on behind the first character takes the same off both sides. -/
theorem count_cons_depthBehind {opening closing c : Char} (hne : opening ≠ closing) {depth : Nat}
    (hc : c = closing → 0 < depth) (front : List Char) : ∃ shift,
      (c :: front).count closing = front.count closing + shift ∧
      depth + (c :: front).count opening =
        depthBehind opening closing depth c + front.count opening + shift := by
  simp only [List.count_cons, depthBehind, beq_iff_eq]
  refine ⟨if c = closing then 1 else 0, rfl, ?_⟩
  split
  · rename_i hopening
    rw [if_neg fun hclosing => hne (hopening.symm.trans hclosing)]
    omega
  split
  · rename_i hclosing
    have := hc hclosing
    omega
  · omega

/-- The brackets of a text match if those behind its first character do. -/
theorem matched_cons {opening closing c : Char} (hne : opening ≠ closing) {depth : Nat}
    {text : List Char} : Matched opening closing depth (c :: text) ↔
      (c = closing → 0 < depth) ∧
        Matched opening closing (depthBehind opening closing depth c) text := by
  constructor
  · intro h
    have hc : c = closing → 0 < depth := by
      rintro rfl
      have := h.count_le [c] (List.cons_prefix_cons.2 ⟨rfl, List.nil_prefix⟩)
      rwa [List.count_singleton_self, List.count_eq_zero_of_not_mem (by simpa using hne)] at this
    refine ⟨hc, fun front hfront => ?_, ?_⟩
    · obtain ⟨shift, hclosing, hopening⟩ := count_cons_depthBehind hne hc front
      have := h.count_le _ (List.cons_prefix_cons.2 ⟨rfl, hfront⟩)
      omega
    · obtain ⟨shift, hclosing, hopening⟩ := count_cons_depthBehind hne hc text
      have := h.count_eq
      omega
  · rintro ⟨hc, h⟩
    refine ⟨fun front hfront => ?_, ?_⟩
    · cases front with
      | nil => exact Nat.zero_le _
      | cons d front =>
        obtain ⟨rfl, hrest⟩ := List.cons_prefix_cons.1 hfront
        obtain ⟨shift, hclosing, hopening⟩ := count_cons_depthBehind hne hc front
        have := h.count_le front hrest
        omega
    · obtain ⟨shift, hclosing, hopening⟩ := count_cons_depthBehind hne hc text
      have := h.count_eq
      omega

theorem Matched.append {opening closing : Char} (hne : opening ≠ closing) {first depth : Nat}
    {front text : List Char} (hfront : Matched opening closing first front)
    (htext : Matched opening closing depth text) :
    Matched opening closing (first + depth) (front ++ text) := by
  induction front generalizing first with
  | nil =>
    obtain rfl := matched_nil.1 hfront
    rwa [Nat.zero_add]
  | cons c front ih =>
    obtain ⟨hc, hfront⟩ := (matched_cons hne).1 hfront
    have hbehind : depthBehind opening closing (first + depth) c =
        depthBehind opening closing first c + depth := by
      simp only [depthBehind]
      split
      · omega
      split
      · rename_i hclosing
        have := hc hclosing
        omega
      · rfl
    refine (matched_cons hne).2 ⟨fun hclosing => Nat.add_pos_left (hc hclosing) depth, ?_⟩
    rw [hbehind]
    exact ih hfront

theorem matched_of_notMem {opening closing : Char} {text : List Char} (hopening : opening ∉ text)
    (hclosing : closing ∉ text) : Matched opening closing 0 text where
  count_le front hfront := by
    rw [List.count_eq_zero_of_not_mem fun hm => hclosing (hfront.subset hm)]
    exact Nat.zero_le _
  count_eq := by
    rw [List.count_eq_zero_of_not_mem hopening, List.count_eq_zero_of_not_mem hclosing]

/-- The braces in the code of an expression pair up. -/
theorem Expr.matched_outer : ∀ e : Expr, e.WellFormed → Matched '\x7b' '\x7d' 0 e.outer
  | .nil, _ => matched_nil.2 rfl
  | .code text more, hw => by
    have notMem {c : Char} (hc : isCode c = false) : c ∉ text := fun hm => by
      rw [hw.1 c hm] at hc
      cases hc
    exact (matched_of_notMem (notMem rfl) (notMem rfl)).append (by decide) (more.matched_outer hw.2)
  | .braces inside more, hw => by
    have hmore : Matched '\x7b' '\x7d' 1 ('\x7d' :: more.outer) :=
      (matched_cons (by decide)).2 ⟨fun _ => Nat.one_pos, more.matched_outer hw.2⟩
    refine (matched_cons (by decide)).2 ⟨fun h => absurd h (by decide), ?_⟩
    have := (inside.matched_outer hw.1).append (by decide) hmore
    rwa [Nat.zero_add] at this
  | .string _ _ more, hw => more.matched_outer hw.2.2
  | .template _ more, hw => more.matched_outer hw.2

/-! ## Reading -/

/-- A text that leaves no literal and no brace open, and closes no brace that it does not open. -/
def BracesMatched (text : List Char) : Prop :=
  ∃ outer, Outside text outer ∧ Matched '\x7b' '\x7d' 0 outer

/-- A character that is not the brace which ends the text is passed. -/
theorem readBracedFrom_cons {c : Char} {depth : Nat} (hc : c = '\x7d' → 0 < depth)
    (rest : List Char) : readBracedFrom .plain depth (c :: rest) =
      (readBracedFrom (QuoteState.next .plain c) (depthBehind '\x7b' '\x7d' depth c) rest).map
        (c :: ·) := by
  rw [readBracedFrom, depthBehind]
  split
  · rename_i hopen
    rw [hopen]
    rfl
  split
  · rename_i hclose
    rw [if_neg (Nat.ne_of_gt (hc hclose)), hclose]
    rfl
  · rfl

/-- A quoted text is passed over to its closing quote. -/
theorem readBracedFrom_raw {q : Char} (hq : q ≠ '\\') (depth : Nat) (rest raw : List Char)
    (h : IsRaw q raw) : readBracedFrom (.inside q false) depth (raw ++ q :: rest) =
      (readBracedFrom .plain depth rest).map (raw ++ q :: ·) := by
  fun_induction IsRaw q raw with
  | case1 =>
    rw [List.nil_append, readBracedFrom, QuoteState.next, if_neg hq, if_pos rfl]
    rfl
  | case2 => exact h.elim
  | case3 c raw ih =>
    rw [List.cons_append, List.cons_append, readBracedFrom, QuoteState.next, if_pos rfl,
      readBracedFrom, QuoteState.next, ih h, Option.map_map, Option.map_map]
    rfl
  | case4 c raw h1 h2 ih =>
    have hc : c ≠ '\\' := ne_backslash h1 h2
    rw [List.cons_append, readBracedFrom, QuoteState.next, if_neg hc, if_neg h.1, ih h.2,
      Option.map_map]
    rfl

theorem readBracedFrom_quote {q : Char} (hq : q = '\x27' ∨ q = '"' ∨ q = '\x60') (depth : Nat)
    (rest raw : List Char) (h : IsRaw q raw) :
    readBracedFrom .plain depth (q :: (raw ++ q :: rest)) =
      (readBracedFrom .plain depth rest).map fun text => q :: (raw ++ q :: text) := by
  have hopen : q ≠ '\x7b' ∧ q ≠ '\x7d' ∧ QuoteState.next .plain q = .inside q false ∧ q ≠ '\\' := by
    rcases hq with rfl | rfl | rfl <;> decide
  rw [readBracedFrom, if_neg hopen.1, if_neg hopen.2.1, hopen.2.2.1,
    readBracedFrom_raw hopen.2.2.2 depth rest raw h, Option.map_map]
  rfl

/-- Within a literal, reading comes to the end of it first. -/
theorem exists_of_readBracedFrom_inside {q : Char} (hq : q ≠ '\\') {depth : Nat}
    {text body : List Char} (h : readBracedFrom (.inside q false) depth text = some body) :
    ∃ raw rest behind, IsRaw q raw ∧ text = raw ++ q :: rest ∧ body = raw ++ q :: behind ∧
      readBracedFrom .plain depth rest = some behind := by
  fun_induction IsRaw q text generalizing body with
  | case1 => cases h
  | case2 => cases h
  | case3 c text ih =>
    rw [readBracedFrom, QuoteState.next, if_pos rfl, readBracedFrom, QuoteState.next] at h
    obtain ⟨escaped, hescaped, rfl⟩ := Option.map_eq_some_iff.1 h
    obtain ⟨passed, hpassed, rfl⟩ := Option.map_eq_some_iff.1 hescaped
    obtain ⟨raw, rest, behind, hraw, rfl, rfl, hbehind⟩ := ih hpassed
    exact ⟨'\\' :: c :: raw, rest, behind, hraw, rfl, rfl, hbehind⟩
  | case4 c text h1 h2 ih =>
    have hc : c ≠ '\\' := ne_backslash h1 h2
    rw [readBracedFrom, QuoteState.next, if_neg hc] at h
    obtain ⟨passed, hpassed, rfl⟩ := Option.map_eq_some_iff.1 h
    by_cases hend : c = q
    · obtain rfl := hend
      rw [if_pos rfl] at hpassed
      exact ⟨[], text, passed, trivial, rfl, rfl, hpassed⟩
    · rw [if_neg hend] at hpassed
      obtain ⟨raw, rest, behind, hraw, rfl, rfl, hbehind⟩ := ih hpassed
      exact ⟨c :: raw, rest, behind, (isRaw_cons hc raw).2 ⟨hend, hraw⟩, rfl, rfl, hbehind⟩

/-- Quotes are no braces. -/
theorem depthBehind_quote {q : Char} (hq : ClassList.isQuote q = true) (depth : Nat) :
    depthBehind '\x7b' '\x7d' depth q = depth := by
  rcases isQuote_iff.1 hq with rfl | rfl | rfl <;> rfl

/-- What is read has its braces matched, and the brace behind it closes one more. -/
theorem exists_of_readBracedFrom {depth : Nat} {text body : List Char}
    (h : readBracedFrom .plain depth text = some body) :
    (∃ outer, Outside body outer ∧ Matched '\x7b' '\x7d' depth outer) ∧
      ∃ rest, text = body ++ '\x7d' :: rest := by
  cases text with
  | nil => cases h
  | cons c text =>
    by_cases hend : c = '\x7d' ∧ depth = 0
    · obtain ⟨rfl, rfl⟩ := hend
      cases h
      exact ⟨⟨[], .nil, matched_nil.2 rfl⟩, text, rfl⟩
    have hc : c = '\x7d' → 0 < depth := fun hc => Nat.pos_of_ne_zero fun hd => hend ⟨hc, hd⟩
    rw [readBracedFrom_cons hc, QuoteState.next] at h
    obtain ⟨passed, hpassed, rfl⟩ := Option.map_eq_some_iff.1 h
    cases hquote : ClassList.isQuote c with
    | false =>
      rw [hquote, if_neg Bool.false_ne_true] at hpassed
      obtain ⟨⟨outer, houter, hmatched⟩, rest, rfl⟩ := exists_of_readBracedFrom hpassed
      exact ⟨⟨c :: outer, .char hquote houter, (matched_cons (by decide)).2 ⟨hc, hmatched⟩⟩,
        rest, rfl⟩
    | true =>
      rw [hquote, if_pos rfl, depthBehind_quote hquote] at hpassed
      have hne : c ≠ '\\' := by rcases isQuote_iff.1 hquote with rfl | rfl | rfl <;> decide
      obtain ⟨raw, rest, behind, hraw, rfl, rfl, hbehind⟩ :=
        exists_of_readBracedFrom_inside hne hpassed
      obtain ⟨⟨outer, houter, hmatched⟩, rest, rfl⟩ := exists_of_readBracedFrom hbehind
      exact ⟨⟨outer, .literal hquote hraw houter, hmatched⟩, rest, by simp⟩
-- A literal is passed in one step, so what is left is shorter but no tail of the list.
termination_by text.length

/-- What is read is the text up to the first brace that closes one more than there are open. -/
theorem readBracedFrom_eq_some_iff {depth : Nat} {text body : List Char} :
    readBracedFrom .plain depth text = some body ↔
      (∃ outer, Outside body outer ∧ Matched '\x7b' '\x7d' depth outer) ∧
        ∃ rest, text = body ++ '\x7d' :: rest := by
  refine ⟨exists_of_readBracedFrom, ?_⟩
  rintro ⟨⟨outer, houter, hmatched⟩, rest, rfl⟩
  induction houter generalizing depth with
  | nil =>
    obtain rfl := matched_nil.1 hmatched
    rfl
  | char hc htext ih =>
    obtain ⟨hclosing, hrest⟩ := (matched_cons (by decide)).1 hmatched
    rw [List.cons_append, readBracedFrom_cons hclosing, QuoteState.next, hc,
      if_neg Bool.false_ne_true, ih hrest]
    rfl
  | literal hq hraw htext ih =>
    rw [List.cons_append, List.append_assoc, List.cons_append,
      readBracedFrom_quote (isQuote_iff.1 hq) _ _ _ hraw, ih hmatched]
    rfl

theorem readBraced_eq_some_iff {text body : List Char} :
    readBraced text = some body ↔ BracesMatched body ∧ body ++ ['\x7d'] <+: text := by
  rw [readBraced, readBracedFrom_eq_some_iff]
  refine and_congr_right fun _ => exists_congr fun rest => ?_
  rw [eq_comm, List.append_assoc, List.singleton_append]

/-- The text behind an opening brace is read up to the brace that matches it, and no text is read
just if no text with matched braces has a closing brace behind it. -/
theorem readBraced_matching :
    (∀ pre body rest : List Char, BracesMatched body →
      readBraced ((pre ++ body ++ '\x7d' :: rest).drop pre.length) = some body) ∧
    ∀ (text : List Char) (start : Nat), readBraced (text.drop start) = none ↔
      ¬ ∃ body, BracesMatched body ∧ body ++ ['\x7d'] <+: text.drop start := by
  refine ⟨fun pre body rest h => ?_, fun text start => ?_⟩
  · rw [List.append_assoc, List.drop_left, readBraced_eq_some_iff]
    exact ⟨h, rest, by rw [List.append_assoc, List.singleton_append]⟩
  · rw [Option.eq_none_iff_forall_ne_some, not_exists]
    exact forall_congr' fun body => not_congr readBraced_eq_some_iff

/-- Braces in a string and in a template, which holds an escaped backtick, and a brace that no text
closes. -/
theorem readBraced_matching_literals :
    BracesMatched "f(\x7ba: '\x7d'\x7d, `\\`\x7b`)".toList ∧
      readBraced ("x=\x7bf(\x7ba: '\x7d'\x7d, `\\`\x7b`)\x7d>".toList.drop 3) =
        some "f(\x7ba: '\x7d'\x7d, `\\`\x7b`)".toList ∧
      ¬ ∃ body, BracesMatched body ∧ body ++ ['\x7d'] <+: "x=\x7b'\x7d".toList.drop 3 := by
  have htext : "f(\x7ba: '\x7d'\x7d, `\\`\x7b`)".toList =
      "f(\x7ba: ".toList ++ '\x27' :: (['\x7d'] ++ '\x27' :: ("\x7d, ".toList ++
        '\x60' :: (['\\', '\x60', '\x7b'] ++ '\x60' :: ([')'] ++ [])))) := rfl
  have houter : Matched '\x7b' '\x7d' 0
      ("f(\x7ba: ".toList ++ ("\x7d, ".toList ++ ([')'] ++ []))) := by
    simp [matched_cons, matched_nil, depthBehind]
  have hmatched : BracesMatched "f(\x7ba: '\x7d'\x7d, `\\`\x7b`)".toList := by
    rw [htext]
    refine ⟨_, .plain_append rfl (.literal rfl ?_ (.plain_append rfl (.literal rfl ?_
      (.plain_append rfl .nil)))), houter⟩ <;> simp [IsRaw]
  exact ⟨hmatched, readBraced_matching.1 "x=\x7b".toList _ ">".toList hmatched,
    (readBraced_matching.2 _ 3).1 rfl⟩

/-- A braced expression is read to the brace that ends it. -/
theorem Expr.readBraced_text {e : Expr} (hw : e.WellFormed) (hf : ∀ x ∈ e.places [], x.2.Flat)
    (rest : List Char) : readBraced (e.text ++ '\x7d' :: rest) = some e.text :=
  readBraced_eq_some_iff.2 ⟨⟨e.outer, e.outside_text [] hw hf, e.matched_outer hw⟩, rest,
    by rw [List.append_assoc, List.singleton_append]⟩

end StylePrune.Content
