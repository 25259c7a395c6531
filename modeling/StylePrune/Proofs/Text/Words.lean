import StylePrune.Text.Words

/-!
# Class tokens and arguments

The tokens of a class list are texts that may be class names (`isToken_of_mem`), and such a text is
its own only token (`tokenizeClassList_token`). So a text is among its own tokens exactly if it may
be a class name (`mem_own_tokens`). Lists with a separator between them have the tokens of each
(`tokenizeClassList_append`).

Arguments are split at the commas outside quotes and brackets. What the splitting does with a text
depends on the state it leaves behind: `pass?` gives that state, and none if an argument ends within
the text. A text that leaves no quote and no bracket open is cut off whole by a comma behind it
(`splitArguments_comma`), and a text at the end may leave any state behind (`splitArguments_last`).
Texts whose brackets are nested leave the depth as it was (`Balanced.pass?_eq`). Whatever is split,
its parts are trimmed, not empty, and split into themselves (`isPart_of_mem`).
-/

namespace StylePrune

/-! ## Class tokens -/

/-- A property of ASCII characters is checked on each of them. -/
theorem of_ascii {p : Char → Bool} (h : (List.range 128).all (fun n => p (Char.ofNat n)) = true)
    {c : Char} (hc : c.toNat < 128) : p c = true := by
  have := List.all_eq_true.1 h c.toNat (List.mem_range.2 hc)
  rwa [Char.ofNat_toNat] at this

namespace ClassList

theorem split_plain : ∀ {part : List Char}, (∀ c ∈ part, isSeparator c = false) →
    split part = [part]
  | [], _ => rfl
  | c :: rest, h => by
    obtain ⟨hc, hrest⟩ := List.forall_mem_cons.1 h
    rw [split, hc, split_plain hrest]
    rfl

theorem split_ne_nil : ∀ cs : List Char, split cs ≠ []
  | [] => List.cons_ne_nil _ _
  | c :: rest => by
    rw [split]
    split
    · exact List.cons_ne_nil _ _
    · split <;> exact List.cons_ne_nil _ _

/-- A separator ends one part and starts another. -/
theorem split_append {sep : Char} (h : isSeparator sep = true) (v : List Char) :
    ∀ u : List Char, split (u ++ sep :: v) = split u ++ split v
  | [] => by
    rw [List.nil_append, split.eq_2, if_pos h]
    rfl
  | c :: u => by
    rw [List.cons_append, split, split, split_append h v u]
    split
    · rfl
    · cases hu : split u with
      | nil => exact absurd hu (split_ne_nil u)
      | cons part more => rfl

theorem unquote_plain {part : List Char} (h : ∀ c ∈ part, isQuote c = false) :
    unquote part = part := by
  have kept : ∀ {cs : List Char}, (∀ c ∈ cs, isQuote c = false) → cs.dropWhile isQuote = cs := by
    intro cs hcs
    cases cs with
    | nil => rfl
    | cons c rest => rw [List.dropWhile_cons, hcs c (.head _)]; rfl
  rw [unquote, kept h, dropWhileEnd, kept fun c hc => h c (List.mem_reverse.1 hc),
    List.reverse_reverse]

theorem code_lt_of_isLater {c : Char} (h : isLater c = true) : c.toNat < 128 := by
  have le_of {a b : Char} (hab : a ≤ b) : a.toNat ≤ b.toNat := hab
  simp only [isLater, isFirst, isAlphanumeric, Bool.or_eq_true, Bool.and_eq_true,
    decide_eq_true_eq] at h
  rcases h with ((((((⟨-, h⟩ | ⟨-, h⟩) | ⟨-, h⟩) | rfl) | rfl) | rfl) | rfl) | rfl
  · exact Nat.lt_of_le_of_lt (le_of h) (by decide)
  · exact Nat.lt_of_le_of_lt (le_of h) (by decide)
  · exact Nat.lt_of_le_of_lt (le_of h) (by decide)
  all_goals decide

/-- The characters of a token neither part it nor are taken off its ends. -/
theorem plain_of_isLater {c : Char} (h : isLater c = true) :
    isSeparator c = false ∧ isQuote c = false := by
  have := of_ascii (p := fun c => !isLater c || (!isSeparator c && !isQuote c)) (by decide +kernel)
    (code_lt_of_isLater h)
  simpa [h] using this

theorem isLater_of_isToken {part : List Char} (h : isToken part = true) :
    ∀ c ∈ part, isLater c = true := by
  cases part with
  | nil => cases h
  | cons c rest =>
    simp only [isToken, Bool.and_eq_true, List.all_eq_true] at h
    refine List.forall_mem_cons.2 ⟨?_, h.1.2⟩
    rw [isLater, h.1.1]
    rfl

end ClassList

open ClassList

/-- The tokens of a class list may be class names. -/
theorem isToken_of_mem {value : List Char} {token : String} (h : token ∈ tokenizeClassList value) :
    isToken token.toList = true := by
  obtain ⟨part, hpart, rfl⟩ := List.mem_map.1 h
  rw [String.toList_ofList]
  exact (List.mem_filter.1 hpart).2

/-- A token is its own only token. -/
theorem tokenizeClassList_token {token : String} (h : isToken token.toList = true) :
    tokenizeClassList token.toList = [token] := by
  have hplain := fun c hc => plain_of_isLater (isLater_of_isToken h c hc)
  rw [tokenizeClassList, split_plain fun c hc => (hplain c hc).1, List.map_singleton,
    unquote_plain fun c hc => (hplain c hc).2, List.filter_cons, h]
  simp

/-- The tokens of class lists with a separator between them are those of the lists, in order. -/
theorem tokenizeClassList_append {sep : Char} (h : isSeparator sep = true) (u v : List Char) :
    tokenizeClassList (u ++ sep :: v) = tokenizeClassList u ++ tokenizeClassList v := by
  simp only [tokenizeClassList, split_append h, List.map_append, List.filter_append]

theorem mem_own_tokens {name : String} :
    name ∈ tokenizeClassList name.toList ↔ isToken name.toList = true :=
  ⟨isToken_of_mem, fun h => by rw [tokenizeClassList_token h]; exact List.mem_singleton_self _⟩

/-! ## Arguments of a call -/

/-- A text is its trimmed form with blanks on both sides. -/
theorem exists_trimChars (cs : List Char) : ∃ front back, (∀ c ∈ front, isBlank c = true) ∧
    (∀ c ∈ back, isBlank c = true) ∧ cs = front ++ (trimChars cs ++ back) := by
  have blanks : ∀ {cs : List Char}, ∀ c ∈ cs.takeWhile isBlank, isBlank c = true := fun {cs} c hc =>
    List.all_eq_true.1 (List.all_takeWhile (p := isBlank) (l := cs)) c hc
  let inner := cs.dropWhile isBlank
  refine ⟨cs.takeWhile isBlank, (inner.reverse.takeWhile isBlank).reverse, blanks,
    fun c hc => blanks c (List.mem_reverse.1 hc), ?_⟩
  have hback : trimChars cs ++ (inner.reverse.takeWhile isBlank).reverse = inner := by
    rw [trimChars, dropWhileEnd, ← List.reverse_append, List.takeWhile_append_dropWhile,
      List.reverse_reverse]
  rw [hback, List.takeWhile_append_dropWhile]

/-- Blanks around a text do not count for its trimmed form. -/
theorem trimChars_append {front back : List Char} (hfront : ∀ c ∈ front, isBlank c = true)
    (hback : ∀ c ∈ back, isBlank c = true) (text : List Char) :
    trimChars (front ++ (text ++ back)) = trimChars text := by
  rw [trimChars, List.dropWhile_append_of_pos hfront, List.dropWhile_append]
  split
  · rename_i hempty
    have hdropped : back.dropWhile isBlank = [] := by
      rw [← List.append_nil back, List.dropWhile_append_of_pos hback, List.dropWhile_nil]
    rw [trimChars, List.isEmpty_iff.1 hempty, hdropped]
  · rw [dropWhileEnd, List.reverse_append,
      List.dropWhile_append_of_pos fun c hc => hback c (List.mem_reverse.1 hc)]
    rfl

theorem trimChars_trimChars (text : List Char) : trimChars (trimChars text) = trimChars text := by
  obtain ⟨front, back, hfront, hback, htext⟩ := exists_trimChars text
  conv => rhs; rw [htext, trimChars_append hfront hback]

namespace Arguments

/-! ## Brackets -/

/-- The brackets that are counted, each opening one with the closing one. -/
def brackets : List (Char × Char) := [('(', ')'), ('[', ']'), ('\x7b', '\x7d')]

/-- Whether a character is neither a quote nor a bracket. -/
def isPlain (c : Char) : Bool :=
  !ClassList.isQuote c && brackets.all fun pair => c != pair.1 && c != pair.2

/-- Texts without quotes whose brackets are properly nested. Commas stand only in brackets, or
anywhere if the text is itself within brackets. -/
inductive Balanced : (within : Bool) → List Char → Prop
  | nil {within : Bool} : Balanced within []
  | char {within : Bool} {c : Char} {rest : List Char} (hc : isPlain c = true)
      (hcomma : c = ',' → within = true) (hrest : Balanced within rest) :
      Balanced within (c :: rest)
  | group {within : Bool} {pair : Char × Char} {inside rest : List Char} (hpair : pair ∈ brackets)
      (hinside : Balanced true inside) (hrest : Balanced within rest) :
      Balanced within (pair.1 :: (inside ++ pair.2 :: rest))

theorem Balanced.plain_append {within : Bool} {text rest : List Char}
    (htext : text.all (fun c => isPlain c && c != ',') = true) (hrest : Balanced within rest) :
    Balanced within (text ++ rest) := by
  induction text with
  | nil => exact hrest
  | cons c text ih =>
    rw [List.all_cons, Bool.and_eq_true, Bool.and_eq_true, bne_iff_ne] at htext
    obtain ⟨⟨hc, hcomma⟩, htext⟩ := htext
    exact .char hc (fun h => absurd h hcomma) (ih htext)

theorem next_plain {c : Char} (h : isPlain c = true) (d : Depth) : d.next c = d := by
  simp only [isPlain, brackets, List.all_cons, List.all_nil, Bool.and_true, Bool.and_eq_true,
    bne_iff_ne] at h
  obtain ⟨-, ⟨h1, h2⟩, ⟨h3, h4⟩, h5, h6⟩ := h
  rw [Depth.next, if_neg h1, if_neg h2, if_neg h3, if_neg h4, if_neg h5, if_neg h6]

theorem isQuote_of_isPlain {c : Char} (h : isPlain c = true) : ClassList.isQuote c = false := by
  rw [isPlain, Bool.and_eq_true, Bool.not_eq_true'] at h
  exact h.1

/-- Blanks are neither quotes nor brackets nor commas. -/
theorem isPlain_of_isBlank {c : Char} (h : isBlank c = true) : isPlain c = true ∧ c ≠ ',' := by
  have hne {d : Char} (hd : isBlank d = false) : c ≠ d := fun hc => by
    rw [hc, hd] at h
    cases h
  have hcomma : c ≠ ',' := hne (by decide)
  refine ⟨?_, hcomma⟩
  simp only [isPlain, ClassList.isQuote, brackets, List.all_cons, List.all_nil, Bool.and_true,
    Bool.and_eq_true, Bool.not_eq_true', Bool.or_eq_false_iff, decide_eq_false_iff_not, bne_iff_ne]
  exact ⟨⟨⟨hne (by decide), hne (by decide)⟩, hne (by decide)⟩, ⟨hne (by decide), hne (by decide)⟩,
    ⟨hne (by decide), hne (by decide)⟩, hne (by decide), hne (by decide)⟩

theorem isZero_next_open {pair : Char × Char} (h : pair ∈ brackets) (d : Depth) :
    (d.next pair.1).isZero = false := by
  simp only [brackets, List.mem_cons, List.not_mem_nil, or_false] at h
  rcases h with rfl | rfl | rfl <;> simp [Depth.next, Depth.isZero]

/-- A closing bracket takes back its opening one. -/
theorem next_next {pair : Char × Char} (h : pair ∈ brackets) (d : Depth) :
    (d.next pair.1).next pair.2 = d := by
  simp only [brackets, List.mem_cons, List.not_mem_nil, or_false] at h
  rcases h with rfl | rfl | rfl <;> simp [Depth.next]

/-- Brackets are neither quotes nor commas. -/
theorem isQuote_bracket {pair : Char × Char} (h : pair ∈ brackets) :
    (ClassList.isQuote pair.1 = false ∧ pair.1 ≠ ',') ∧
      ClassList.isQuote pair.2 = false ∧ pair.2 ≠ ',' := by
  simp only [brackets, List.mem_cons, List.not_mem_nil, or_false] at h
  rcases h with rfl | rfl | rfl <;> decide

/-! ## The state behind a text -/

/-- The state behind a text, unless an argument ends within it. -/
def pass? (quote : QuoteState) (depth : Depth) : List Char → Option (QuoteState × Depth)
  | [] => some (quote, depth)
  | c :: rest =>
    match quote with
    | .inside .. => pass? (quote.next c) depth rest
    | .plain =>
      let depth := depth.next c
      if c = ',' && depth.isZero then none else pass? (quote.next c) depth rest

theorem pass?_inside (q : Char) (escaped : Bool) (depth : Depth) (c : Char) (rest : List Char) :
    pass? (.inside q escaped) depth (c :: rest) =
      pass? (QuoteState.next (.inside q escaped) c) depth rest := by
  rw [pass?]

theorem pass?_plain {c : Char} {depth : Depth} (h : c = ',' → (depth.next c).isZero = false)
    (rest : List Char) :
    pass? .plain depth (c :: rest) = pass? (QuoteState.next .plain c) (depth.next c) rest := by
  rw [pass?, if_neg]
  rw [Bool.and_eq_true, decide_eq_true_eq]
  rintro ⟨hc, hzero⟩
  rw [h hc] at hzero
  cases hzero

theorem pass?_append (xs ys : List Char) : ∀ (quote : QuoteState) (depth : Depth),
    pass? quote depth (xs ++ ys) = (pass? quote depth xs).bind fun s => pass? s.1 s.2 ys := by
  induction xs with
  | nil => exact fun _ _ => rfl
  | cons c xs ih =>
    intro quote depth
    cases quote with
    | inside q escaped => rw [List.cons_append, pass?_inside, pass?_inside, ih]
    | plain =>
      rw [List.cons_append, pass?, pass?]
      split
      · rfl
      · exact ih _ _

/-- Blanks before a text leave the state as it was. -/
theorem pass?_blanks {front : List Char} (hfront : ∀ c ∈ front, isBlank c = true) (depth : Depth)
    (text : List Char) : pass? .plain depth (front ++ text) = pass? .plain depth text := by
  induction front with
  | nil => rfl
  | cons c front ih =>
    obtain ⟨hc, hfront⟩ := List.forall_mem_cons.1 hfront
    obtain ⟨hplain, hcomma⟩ := isPlain_of_isBlank hc
    rw [List.cons_append, pass?_plain fun h => absurd h hcomma, next_plain hplain, QuoteState.next,
      isQuote_of_isPlain hplain]
    exact ih hfront

/-- Nested brackets leave the depth as it was. -/
theorem Balanced.pass?_eq {within : Bool} {text : List Char} (h : Balanced within text) :
    ∀ depth : Depth, (within = true → depth.isZero = false) →
      pass? .plain depth text = some (.plain, depth) := by
  induction h with
  | nil => exact fun _ _ => rfl
  | @char within c rest hc hcomma hrest ih =>
    intro depth hdepth
    have hparts : c = ',' → (depth.next c).isZero = false := fun h => by
      rw [next_plain hc]
      exact hdepth (hcomma h)
    rw [pass?_plain hparts, next_plain hc, QuoteState.next, isQuote_of_isPlain hc]
    exact ih depth hdepth
  | @group within pair inside rest hpair hinside hrest ihinside ihrest =>
    intro depth hdepth
    obtain ⟨⟨hopen, hopenComma⟩, hclose, hcloseComma⟩ := isQuote_bracket hpair
    have hin := ihinside (depth.next pair.1) fun _ => isZero_next_open hpair depth
    rw [pass?_plain fun h => absurd h hopenComma, QuoteState.next, hopen]
    simp only [Bool.false_eq_true, if_false]
    rw [pass?_append, hin, Option.bind_some, pass?_plain fun h => absurd h hcloseComma,
      QuoteState.next, hclose, next_next hpair]
    exact ihrest depth hdepth

/-! ## Splitting -/

/-- A text in which no argument ends is taken up into the argument. -/
theorem split_pass {quote : QuoteState} {depth : Depth} {text : List Char}
    {s : QuoteState × Depth} (h : pass? quote depth text = some s) (current rest : List Char) :
    split quote depth current (text ++ rest) = split s.1 s.2 (text.reverse ++ current) rest := by
  induction text generalizing quote depth current with
  | nil => cases h; rfl
  | cons c text ih =>
    rw [List.reverse_cons, List.append_assoc, List.singleton_append, List.cons_append]
    cases quote with
    | inside q escaped =>
      rw [pass?_inside] at h
      rw [split]
      exact ih h _
    | plain =>
      rw [pass?] at h
      rw [split]
      split at h
      · cases h
      · rename_i hcomma
        rw [if_neg hcomma]
        exact ih h _

/-- An argument that ends with no quote and no bracket open is cut off by a comma. -/
theorem splitArguments_comma {text : List Char} (h : pass? .plain {} text = some (.plain, {}))
    (rest : List Char) :
    splitArguments (text ++ ',' :: rest) = finish text.reverse ++ splitArguments rest := by
  rw [splitArguments, split_pass h, List.append_nil, split]
  rfl

/-- The last argument may leave quotes and brackets open. -/
theorem splitArguments_last {text : List Char} {s : QuoteState × Depth}
    (h : pass? .plain {} text = some s) : splitArguments text = finish text.reverse := by
  have := split_pass h [] []
  rwa [List.append_nil, List.append_nil] at this

/-- An argument is trimmed. -/
theorem finish_reverse {text : List Char} (h : ∃ c ∈ text, isBlank c = false) :
    finish text.reverse = [trimChars text] := by
  have hne : trimChars text ≠ [] := fun hnil => by
    obtain ⟨c, hc, hblank⟩ := h
    obtain ⟨front, back, hfront, hback, htext⟩ := exists_trimChars text
    rw [hnil, List.nil_append] at htext
    rw [htext] at hc
    have := (List.mem_append.1 hc).elim (hfront c) (hback c)
    rw [hblank] at this
    cases this
  rw [finish, List.reverse_reverse]
  simp [hne]

theorem finish_trimmed {text : List Char} (hne : text ≠ []) (htrimmed : trimChars text = text) :
    finish text.reverse = [text] := by
  rw [finish, List.reverse_reverse, htrimmed]
  simp only [List.isEmpty_iff, hne, if_false]

/-- The text behind some arguments is split on its own. -/
theorem splitArguments_behind {earlier : List (List Char)}
    (h : ∀ text ∈ earlier, pass? .plain {} text = some (.plain, {})) (rest : List Char) :
    splitArguments (earlier.flatMap (· ++ [',']) ++ rest) =
      earlier.flatMap (fun text => finish text.reverse) ++ splitArguments rest := by
  induction earlier with
  | nil => rfl
  | cons text earlier ih =>
    obtain ⟨htext, hearlier⟩ := List.forall_mem_cons.1 h
    rw [List.flatMap_cons, List.flatMap_cons, List.append_assoc, List.append_assoc,
      List.singleton_append, splitArguments_comma htext, ih hearlier, List.append_assoc]

/-- Blanks behind a comma are not part of the next argument. -/
theorem finish_blanks {front text : List Char} (hfront : ∀ c ∈ front, isBlank c = true) :
    finish (front ++ text).reverse = finish text.reverse := by
  have := trimChars_append hfront (List.forall_mem_nil _) text
  rw [List.append_nil] at this
  rw [finish, finish, List.reverse_reverse, List.reverse_reverse, this]

/-! ## The parts of any text -/

theorem mem_finish {current part : List Char} :
    part ∈ finish current ↔ part ≠ [] ∧ part = trimChars current.reverse := by
  rw [finish]
  simp only [List.isEmpty_iff]
  split
  · rename_i hempty
    refine iff_of_false List.not_mem_nil ?_
    rintro ⟨hne, rfl⟩
    exact hne hempty
  · rename_i hne
    rw [List.mem_singleton]
    refine ⟨?_, And.right⟩
    rintro rfl
    exact ⟨hne, rfl⟩

/-- What a part of an argument list is like. -/
structure IsPart (part : List Char) : Prop where
  ne_nil : part ≠ []
  trimmed : trimChars part = part
  alone : splitArguments part = [part]

/-- What ends an argument in which none has ended before is a part. -/
theorem isPart_of_mem_finish {text part : List Char} {s : QuoteState × Depth}
    (h : pass? .plain {} text = some s) (hpart : part ∈ finish text.reverse) : IsPart part := by
  obtain ⟨hne, hfinished⟩ := mem_finish.1 hpart
  rw [List.reverse_reverse] at hfinished
  have htrimmed : trimChars part = part := by rw [hfinished, trimChars_trimChars]
  refine ⟨hne, htrimmed, ?_⟩
  obtain ⟨front, back, hfront, -, htext⟩ := exists_trimChars text
  rw [htext, ← hfinished, pass?_blanks hfront, pass?_append] at h
  obtain ⟨t, ht, -⟩ := Option.bind_eq_some_iff.1 h
  rw [splitArguments_last ht, finish_trimmed hne htrimmed]

theorem eq_of_isZero {depth : Depth} (h : depth.isZero = true) : depth = {} := by
  simp only [Depth.isZero, Bool.and_eq_true, decide_eq_true_eq] at h
  obtain ⟨⟨hparen, hsquare⟩, hcurly⟩ := h
  cases depth
  simp_all

/-- No argument ends within what is read of the current one, so each that is split off is a part. -/
theorem isPart_of_mem_split {quote : QuoteState} {depth : Depth} {current text part : List Char}
    (h : pass? .plain {} current.reverse = some (quote, depth))
    (hpart : part ∈ split quote depth current text) : IsPart part := by
  induction text generalizing quote depth current with
  | nil =>
    rw [split, ← List.reverse_reverse current] at hpart
    exact isPart_of_mem_finish h hpart
  | cons c text ih =>
    have hnext : pass? .plain {} (c :: current).reverse = pass? quote depth [c] := by
      rw [List.reverse_cons, pass?_append, h, Option.bind_some]
    cases quote with
    | inside q escaped =>
      rw [split] at hpart
      rw [pass?_inside, pass?] at hnext
      exact ih hnext hpart
    | plain =>
      rw [split] at hpart
      split at hpart
      · rename_i hend
        rcases List.mem_append.1 hpart with hpart | hpart
        · rw [← List.reverse_reverse current] at hpart
          exact isPart_of_mem_finish h hpart
        · rw [eq_of_isZero (Bool.and_eq_true_iff.1 hend).2] at hpart
          exact ih rfl hpart
      · rename_i hend
        rw [pass?, if_neg hend, pass?] at hnext
        exact ih hnext hpart

theorem isPart_of_mem {args part : List Char} (h : part ∈ splitArguments args) : IsPart part :=
  isPart_of_mem_split rfl h

end Arguments

end StylePrune
