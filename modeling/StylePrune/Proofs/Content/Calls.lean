import StylePrune.Proofs.Content.Arguments

/-!
# Literals in the arguments of calls

A call of a helper is found in its place unless an earlier call of the same family runs over it, and
what is read of it is the list of its arguments up to the first closing round bracket. So the class
tokens of a literal of an argument are among the classes of a scan if it stands before that bracket,
and in clear in what is read of its argument (`call_literals`). Brackets of an argument, as those of
a call in it, may end the list early, and the literals behind them are lost.
-/

namespace StylePrune.Content

open Arguments

/-- The helpers all of whose arguments count, by family: their names, and whether a name has to
start a word. -/
def helpers : List (List String × Bool) :=
  [(["classList.add", "classList.remove", "classList.toggle", "classList.contains",
      "classList.replace"], true),
    (["addClass", "removeClass", "toggleClass", "hasClass"], true),
    (["clsx", "classnames"], true), (["@class"], false), (["class_names", "classNames"], true)]

variable {names : List String} {wordStart : Bool}

theorem mem_calls (h : (names, wordStart) ∈ helpers) : (callOf names wordStart, none) ∈ calls := by
  simp only [helpers, List.mem_cons, Prod.mk.injEq, List.not_mem_nil, or_false] at h
  rcases h with ⟨rfl, rfl⟩ | ⟨rfl, rfl⟩ | ⟨rfl, rfl⟩ | ⟨rfl, rfl⟩ | ⟨rfl, rfl⟩ <;> simp [calls]

/-! ## Names -/

/-- No name of a family starts or ends another one. -/
theorem helpers_distinct : ∀ family ∈ helpers, ∀ a ∈ family.1, ∀ b ∈ family.1,
    (a.toList.isPrefixOf b.toList || a.toList.isSuffixOf b.toList) = true → a = b := by
  decide +kernel

/-- A name holds no bracket and no blank. -/
theorem helpers_plain : ∀ family ∈ helpers, ∀ a ∈ family.1,
    a.toList ≠ [] ∧ '(' ∉ a.toList ∧ a.toList.all (fun c => !isBlank c) = true := by
  decide +kernel

theorem bracketless_of_blank {gap : List Char} (h : ∀ c ∈ gap, isBlank c = true) : '(' ∉ gap :=
  fun hm => absurd (h _ hm) (by decide)

/-- No bracket stands before that of a call. -/
theorem bracketless (hfamily : (names, wordStart) ∈ helpers) {name : String} (hname : name ∈ names)
    {gap : List Char} (hgap : ∀ c ∈ gap, isBlank c = true) : '(' ∉ name.toList ++ gap := fun hm =>
  (List.mem_append.1 hm).elim (helpers_plain _ hfamily _ hname).2.1 (bracketless_of_blank hgap)

theorem exists_last (hfamily : (names, wordStart) ∈ helpers) {name : String}
    (hname : name ∈ names) : ∃ front c, name.toList = front ++ [c] ∧ isBlank c = false := by
  obtain ⟨hne, -, hblank⟩ := helpers_plain _ hfamily _ hname
  rcases List.eq_nil_or_concat' name.toList with hnil | ⟨front, c, heq⟩
  · exact absurd hnil hne
  · have hc := List.all_eq_true.1 hblank c (by rw [heq]; simp)
    rw [Bool.not_eq_true'] at hc
    exact ⟨front, c, heq, hc⟩

/-! ## Calls in their places -/

theorem callOf_eq_some {before : Option Char} {cs : List Char} {found : Find}
    (h : callOf names wordStart before cs = some found) :
    ∃ name ∈ names, ∃ gap args after, (∀ c ∈ gap, isBlank c = true) ∧ ')' ∉ args ∧
      cs = name.toList ++ (gap ++ '(' :: (args ++ ')' :: after)) ∧
        found = .between cs args (args ++ ')' :: after) after := by
  unfold callOf at h
  split at h
  · cases h
  obtain ⟨name, hname, h⟩ := List.exists_of_findSome?_eq_some h
  obtain ⟨more, hmore, h⟩ := Option.bind_eq_some_iff.1 h
  split at h
  · rename_i start hstart
    obtain ⟨⟨args, after⟩, hcut, h⟩ := Option.bind_eq_some_iff.1 h
    obtain ⟨rfl, hargs⟩ := cutAt?_eq_some hcut
    obtain ⟨gap, hgap, hcs⟩ := exists_dropBlanks more
    rw [hstart] at hcs
    refine ⟨name, hname, gap, args, after, hgap, hargs, ?_, (Option.some.inj h).symm⟩
    rw [dropWord?_eq_some hmore, hcs]
  · cases h

/-- What stands before the bracket of a call tells its name. -/
theorem append_bracket_injective (hfamily : (names, wordStart) ∈ helpers) {name name' : String}
    (hname : name ∈ names) (hname' : name' ∈ names) {gap gap' start start' : List Char}
    (hgap : ∀ c ∈ gap, isBlank c = true) (hgap' : ∀ c ∈ gap', isBlank c = true)
    (h : name.toList ++ (gap ++ '(' :: start) = name'.toList ++ (gap' ++ '(' :: start')) :
    start = start' := by
  have hprefixes : ∀ {a b : String}, a ∈ names → b ∈ names → a.toList <+: b.toList → a = b :=
    fun ha hb hab => helpers_distinct _ hfamily _ ha _ hb (by simp [hab])
  obtain rfl : name = name' := by
    have hstarts : name.toList <+: name.toList ++ (gap ++ '(' :: start) := ⟨_, rfl⟩
    rcases List.prefix_or_prefix_of_prefix hstarts ⟨_, h.symm⟩ with hab | hba
    · exact hprefixes hname hname' hab
    · exact (hprefixes hname' hname hba).symm
  rw [List.append_cancel_left_eq] at h
  exact (append_char_injective (bracketless_of_blank hgap) (bracketless_of_blank hgap') h).2

/-- A call is read up to the first closing round bracket behind it. -/
theorem callOf_call (hfamily : (names, wordStart) ∈ helpers) {name : String} (hname : name ∈ names)
    {gap : List Char} (hgap : ∀ c ∈ gap, isBlank c = true) {before : Option Char}
    (hstart : wordStart = true → atWordStart before = true) (args rest : List Char) :
    ∃ found, found.value = toBracket args ∧
      callOf names wordStart before (name.toList ++ (gap ++ '(' :: (args ++ ')' :: rest))) =
        some found := by
  have hblank : ∀ c ∈ ('(' :: (args ++ ')' :: rest)).head?, isBlank c = false := by simp; decide
  obtain ⟨⟨value, after⟩, hcut⟩ := Option.ne_none_iff_exists'.1
    (show cutAt? ')' (args ++ ')' :: rest) ≠ none by
      rw [Ne, cutAt?_eq_none]
      simp)
  have hfound : (callOf names wordStart before
      (name.toList ++ (gap ++ '(' :: (args ++ ')' :: rest)))).isSome = true := by
    rw [callOf, if_neg (by simpa using hstart), List.findSome?_isSome_iff]
    refine ⟨name, hname, ?_⟩
    simp only [dropWord?_append, Option.bind_eq_bind, Option.bind_some,
      dropBlanks_append hgap hblank, hcut]
    rfl
  obtain ⟨found, hfound⟩ := Option.isSome_iff_exists.1 hfound
  refine ⟨found, ?_, hfound⟩
  obtain ⟨name', hname', gap', args', after', hgap', hargs', hcs, rfl⟩ := callOf_eq_some hfound
  have hsame := append_bracket_injective hfamily hname hname' hgap hgap' hcs
  have hread := congrArg toBracket hsame
  rw [toBracket_append_close, toBracket_append_close, toBracket_eq_self hargs'] at hread
  exact hread.symm

/-- A name does not end another name of its family. -/
theorem eq_nil_of_append_name (hfamily : (names, wordStart) ∈ helpers) {name name' : String}
    (hname : name ∈ names) (hname' : name' ∈ names) {w gap gap' : List Char}
    (hgap : ∀ c ∈ gap, isBlank c = true) (hgap' : ∀ c ∈ gap', isBlank c = true)
    (h : w ++ (name.toList ++ gap) = name'.toList ++ gap') : w = [] := by
  obtain ⟨front, c, hfront, hc⟩ := exists_last hfamily hname
  obtain ⟨front', c', hfront', hc'⟩ := exists_last hfamily hname'
  have hends : (w ++ front) ++ c :: gap = front' ++ c' :: gap' := by
    simpa [hfront, hfront'] using h
  have hsuffix : w ++ name.toList = name'.toList := by
    rw [hfront, hfront', ← List.append_assoc]
    exact append_gap_injective hc hc' hgap hgap' hends
  have hsame : name = name' := by
    refine helpers_distinct _ hfamily _ hname _ hname' ?_
    rw [Bool.or_eq_true, List.isSuffixOf_iff_suffix]
    exact .inr ⟨w, hsuffix⟩
  rw [hsame] at hsuffix
  exact List.append_left_eq_self.1 hsuffix

/-- Every round bracket that opens in a text is closed in it. -/
def Closed (text : List Char) : Prop := ∀ u v, text = u ++ '(' :: v → ')' ∈ v

/-- No call from before a closed text's end runs on behind it. -/
theorem uncovered_of_closed (hfamily : (names, wordStart) ∈ helpers) {name : String}
    (hname : name ∈ names) {gap : List Char} (hgap : ∀ c ∈ gap, isBlank c = true) {pre : List Char}
    (hpre : Closed pre) (rest : List Char) :
    Uncovered pre.length
      (findAll (callOf names wordStart) (pre ++ (name.toList ++ (gap ++ '(' :: rest)))) := by
  intro x hx hlt
  obtain ⟨u, v, before, hsplit, hplace, hr⟩ := exists_of_mem_findAllFrom hx
  obtain ⟨name', hname', gap', args, after, hgap', hargs, rfl, hfound⟩ := callOf_eq_some hr
  rw [Nat.zero_add] at hplace
  obtain ⟨w, rfl⟩ : u <+: pre := by
    refine List.prefix_of_prefix_length_le ⟨_, hsplit.symm⟩ ⟨_, rfl⟩ ?_
    omega
  rw [List.append_assoc, List.append_cancel_left_eq] at hsplit
  have hhead' := bracketless hfamily hname' hgap'
  by_cases hbracket : '(' ∈ w
  · -- The earlier call opens its bracket in the text, and so closes it there.
    obtain ⟨front, back, rfl, hfront⟩ := List.eq_append_cons_of_mem hbracket
    have hcut : front ++ '(' :: (back ++ (name.toList ++ (gap ++ '(' :: rest))) =
        (name'.toList ++ gap') ++ '(' :: (args ++ ')' :: after) := by
      simpa using hsplit
    obtain ⟨rfl, hinner⟩ := append_char_injective hfront hhead' hcut
    have hclosed : ')' ∈ back := hpre (u ++ (name'.toList ++ gap')) back (by simp)
    obtain ⟨args', back, rfl, hargs'⟩ := List.eq_append_cons_of_mem hclosed
    rw [List.append_assoc, List.cons_append] at hinner
    obtain ⟨rfl, -⟩ := append_char_injective hargs' hargs hinner
    simp only [hfound, Find.between, List.length_append, List.length_cons, ← hplace]
    omega
  · -- The earlier call would end its name with that of the call.
    exfalso
    have hhead : '(' ∉ w ++ (name.toList ++ gap) := fun hm =>
      (List.mem_append.1 hm).elim hbracket (bracketless hfamily hname hgap)
    have hcut : (w ++ (name.toList ++ gap)) ++ '(' :: rest =
        (name'.toList ++ gap') ++ '(' :: (args ++ ')' :: after) := by
      simpa using hsplit
    obtain ⟨hnames, -⟩ := append_char_injective hhead hhead' hcut
    have hnil := eq_nil_of_append_name hfamily hname hname' hgap hgap' hnames
    rw [hnil, List.append_nil] at hlt
    omega

/-! ## Literals that are read -/

/-- A literal of one of some arguments that is read: the arguments up to it are split where they
end, no closing round bracket stands in the list before its end, and it stands in clear in what is
read of its argument. -/
def Reached (args : List Expr) (l : Literal) : Prop :=
  ∃ earlier arg later before, args = earlier ++ arg :: later ∧
    (∀ e ∈ earlier, e.Passes ∧ ')' ∉ e.text) ∧ arg.WellFormed ∧ arg.Passes ∧
      (before, l) ∈ arg.places [] ∧ ')' ∉ before ++ l.text ∧ l.Clear (toBracket arg.text) before

/-- Without closing round brackets all literals in clear are read. -/
theorem reached_of_clear {args : List Expr}
    (h : ∀ e ∈ args, e.IsArgument ∧ ')' ∉ e.text ∧ e.Clear) {e : Expr} (he : e ∈ args)
    {x : List Char × Literal} (hx : x ∈ e.places []) : Reached args x.2 := by
  obtain ⟨earlier, later, rfl⟩ := List.append_of_mem he
  obtain ⟨harg, hbracket, hclear⟩ := h e he
  obtain ⟨after, hsplit⟩ := e.split_places [] x hx
  have hbefore : ')' ∉ x.1 ++ x.2.text := fun hm => hbracket <| by
    rw [List.nil_append] at hsplit
    rw [hsplit]
    exact List.mem_append_left _ hm
  refine ⟨earlier, e, later, x.1, rfl, fun d hd => ?_, harg.wellFormed, harg.passes, hx, hbefore,
    ?_⟩
  · obtain ⟨hd, hdbracket, -⟩ := h d (List.mem_append_left _ hd)
    exact ⟨hd.passes, hdbracket⟩
  · rw [toBracket_eq_self hbracket]
    exact hclear x hx

/-- The class tokens of a literal that is read are tokens of an argument. -/
theorem Reached.mem_expressionTokens {args : List Expr} {l : Literal} (h : Reached args l)
    {part : List Char} (hp : part ∈ l.parts) {token : String}
    (ht : token ∈ tokenizeClassList part) :
    ∃ arg ∈ splitArguments (toBracket (argumentsText args)), ∀ constants : Constants,
      token ∈ expressionTokens arg constants := by
  obtain ⟨earlier, arg, later, before, rfl, hearlier, hwell, harg, hplace, hbracket, hclear⟩ := h
  have hw : l.WellFormed := arg.wellFormed_places [] hwell _ hplace
  have hsplit : Splits (toBracket arg.text) (before, l) := by
    obtain ⟨after, htext⟩ := arg.split_places [] _ hplace
    rw [List.nil_append] at htext
    exact ⟨toBracket after, by rw [htext, toBracket_append hbracket]⟩
  have hne : ∃ c ∈ toBracket arg.text, isBlank c = false := by
    obtain ⟨q, inner, hl, hq⟩ := Literal.exists_quote hw
    obtain ⟨after, htext⟩ := hsplit
    exact ⟨q, by rw [htext, hl]; simp, hq⟩
  obtain ⟨inner, htrimmed, hclear⟩ := hclear.trimmed hw hsplit
  have hfound := (Literal.found_iff htrimmed hw).2 hclear
  exact ⟨_, mem_splitArguments_toBracket hearlier harg hne, hfound.mem_expressionTokens hp ht⟩

/-- The tokens of an argument of a call that is found are classes of a scan. -/
theorem mem_scan_of_call (hfamily : (names, wordStart) ∈ helpers) {content : List Char}
    {x : Nat × Find} (hx : x ∈ findAll (callOf names wordStart) content) {arg : List Char}
    (harg : arg ∈ splitArguments x.2.value) {token : String}
    (ht : ∀ constants : Constants, token ∈ expressionTokens arg constants) (collectDynamic : Bool)
    (label : Option String) : token ∈ (scan collectDynamic label content).classes := by
  have hyield : yieldExpression (collectConstants content) collectDynamic arg (x.1 + x.2.offset) ∈
      yields collectDynamic content := by
    refine List.mem_append_right _ (List.mem_flatMap.2 ⟨_, mem_calls hfamily, ?_⟩)
    exact List.mem_flatMap.2 ⟨x, hx, List.mem_map.2 ⟨arg, harg, rfl⟩⟩
  rw [mem_scan]
  exact ⟨_, hyield, _, List.mem_map.2 ⟨token, ht _, rfl⟩⟩

/-- A call is found in its place if no earlier call of the family runs over it, as none does behind
a text whose round brackets are closed. Then the list of its arguments is read up to the first
closing round bracket, and the class tokens of every literal that is read are classes of a scan; so
all are if the arguments hold no closing round bracket and their literals stand in clear. -/
theorem call_literals (hfamily : (names, wordStart) ∈ helpers) {name : String}
    (hname : name ∈ names) {gap pre : List Char} (hgap : ∀ c ∈ gap, isBlank c = true)
    (hstart : wordStart = true → atWordStart pre.getLast? = true) (args : List Expr)
    (rest : List Char) :
    let content := pre ++ (name.toList ++ (gap ++ '(' :: (argumentsText args ++ ')' :: rest)))
    let finds := findAll (callOf names wordStart) content
    (Closed pre → Uncovered pre.length finds) ∧ (Uncovered pre.length finds →
      (∃ found, (pre.length, found) ∈ finds ∧ found.value = toBracket (argumentsText args)) ∧
      ∀ collectDynamic label,
        (∀ l, Reached args l → ∀ part ∈ l.parts, ∀ token ∈ tokenizeClassList part,
          token ∈ (scan collectDynamic label content).classes) ∧
        ((∀ e ∈ args, e.IsArgument ∧ ')' ∉ e.text ∧ e.Clear) →
          ∀ e ∈ args, ∀ part ∈ e.literals, ∀ token ∈ tokenizeClassList part,
            token ∈ (scan collectDynamic label content).classes)) := by
  intro content finds
  refine ⟨fun hpre => uncovered_of_closed hfamily hname hgap hpre _, fun hfree => ?_⟩
  obtain ⟨found, hvalue, hr⟩ := callOf_call hfamily hname hgap hstart (argumentsText args) rest
  have hfound : (pre.length, found) ∈ finds := by
    obtain ⟨c, more, htext⟩ := List.exists_cons_of_ne_nil
      (show name.toList ++ (gap ++ '(' :: (argumentsText args ++ ')' :: rest)) ≠ [] by simp)
    simp only [finds, content, htext] at hr hfree ⊢
    exact mem_findAll.2 ⟨hr, hfree⟩
  refine ⟨⟨found, hfound, hvalue⟩, fun collectDynamic label => ?_⟩
  have hreached : ∀ l, Reached args l → ∀ part ∈ l.parts, ∀ token ∈ tokenizeClassList part,
      token ∈ (scan collectDynamic label content).classes := by
    intro l hl part hp token ht
    obtain ⟨arg, harg, hexpression⟩ := hl.mem_expressionTokens hp ht
    rw [← hvalue] at harg
    exact mem_scan_of_call hfamily hfound harg hexpression collectDynamic label
  refine ⟨hreached, fun hargs e he part hp token ht => ?_⟩
  obtain ⟨x, hx, hpart⟩ := List.mem_flatMap.1 hp
  exact hreached x.2 (reached_of_clear hargs he hx) part hpart token ht

/-- The arguments of `add ('a', on && f("b sm:c"))`. -/
def added : List Expr :=
  [.string '\x27' ['a'] .nil,
    .code " on && f(".toList <| .string '"' "b sm:c".toList <| .code [')'] .nil]

/-- A literal in a nested call, before the bracket that ends it. -/
theorem call_literals_added :
    (["classList.add", "classList.remove", "classList.toggle", "classList.contains",
        "classList.replace"], true) ∈ helpers ∧
      atWordStart "el.".toList.getLast? = true ∧ Closed "el.".toList ∧
      Reached added (.string '"' "b sm:c".toList) ∧
      tokenizeClassList "b sm:c".toList = ["b", "sm:c"] ∧
      "sm:c" ∈ (scan false none ("el.".toList ++ ("classList.add".toList ++
        ([' '] ++ '(' :: (argumentsText added ++ ')' :: ";".toList))))).classes := by
  have hfamily : (["classList.add", "classList.remove", "classList.toggle", "classList.contains",
      "classList.replace"], true) ∈ helpers := .head _
  have hname : "classList.add" ∈ ["classList.add", "classList.remove", "classList.toggle",
      "classList.contains", "classList.replace"] := .head _
  have hgap : ∀ c ∈ [' '], isBlank c = true := fun c hc => by
    rw [List.mem_singleton.1 hc]
    decide
  have hstart : atWordStart "el.".toList.getLast? = true := by decide +kernel
  have hclosed : Closed "el.".toList := fun u v h => by
    have hm : '(' ∈ "el.".toList := by rw [h]; simp
    exact absurd hm (by decide)
  have hfirst : (Expr.string '\x27' ['a'] .nil).IsArgument :=
    ⟨by simp [Expr.WellFormed, IsRaw], by simp [Expr.places, Literal.Flat], .nil⟩
  have hround : ('(', ')') ∈ brackets := .head _
  have hsecond : (Expr.code " on && f(".toList <| .string '"' "b sm:c".toList <|
      .code [')'] .nil).IsArgument := by
    refine ⟨?_, by simp [Expr.places, Literal.Flat], ?_⟩
    · simp [Expr.WellFormed, IsRaw]
      decide
    · show Balanced false (" on && f".toList ++ "()".toList)
      exact .plain_append (by decide) (.group hround .nil .nil)
  have hreached : Reached added (.string '"' "b sm:c".toList) := by
    refine ⟨[.string '\x27' ['a'] .nil], _, [], " on && f(".toList, rfl, ?_, hsecond.wellFormed,
      hsecond.passes, .head _, by decide, ?_⟩
    · intro e he
      rw [List.mem_singleton.1 he]
      exact ⟨hfirst.passes, by decide⟩
    · exact (Literal.found_iff (x := (" on && f(".toList, .string '"' "b sm:c".toList))
        ⟨[], by decide⟩ ⟨.inr rfl, by simp [IsRaw]⟩).1 (by decide +kernel)
  have htokens : tokenizeClassList "b sm:c".toList = ["b", "sm:c"] := by decide +kernel
  refine ⟨hfamily, hstart, hclosed, hreached, htokens, ?_⟩
  obtain ⟨hfree, hcall⟩ := call_literals hfamily hname hgap (fun _ => hstart) added ";".toList
  refine ((hcall (hfree hclosed)).2 false none).1 _ hreached _ (.head _) "sm:c" ?_
  rw [htokens]
  exact .tail _ (.head _)

/-- The arguments of `clsx(f('a'), 'b')`. -/
def mixed : List Expr :=
  [.code "f(".toList <| .string '\x27' ['a'] <| .code [')'] .nil,
    .code [' '] <| .string '\x27' ['b'] .nil]

/-- The arguments behind a nested call are lost. -/
theorem lost_behind_call :
    (∀ e ∈ mixed, e.IsArgument ∧ e.Clear) ∧ mixed.flatMap Expr.literals = [['a'], ['b']] ∧
      "b" ∈ tokenizeClassList ['b'] ∧
      "b" ∉ (scan false none
        ("clsx".toList ++ '(' :: (argumentsText mixed ++ [')']))).classes := by
  have hfirst : (Expr.code "f(".toList <| .string '\x27' ['a'] <| .code [')'] .nil).IsArgument := by
    refine ⟨?_, by simp [Expr.places, Literal.Flat], ?_⟩
    · simp [Expr.WellFormed, IsRaw]
      decide
    · have hround : ('(', ')') ∈ brackets := .head _
      exact .char rfl (by decide) (.group hround .nil .nil)
  have hsecond : (Expr.code [' '] <| .string '\x27' ['b'] .nil).IsArgument := by
    refine ⟨?_, by simp [Expr.places, Literal.Flat], .char rfl (by decide) .nil⟩
    simp [Expr.WellFormed, IsRaw]
    decide
  have hargs : ∀ e ∈ mixed, e.IsArgument := fun e he => by
    rcases List.mem_cons.1 he with rfl | he
    · exact hfirst
    · rw [List.mem_singleton.1 he]
      exact hsecond
  have hfound : ∀ e ∈ mixed, e.Found := by decide +kernel
  refine ⟨fun e he => ⟨hargs e he, (Expr.found_iff (hargs e he).wellFormed).1 (hfound e he)⟩, ?_⟩
  exact ⟨by decide +kernel, by decide +kernel, by decide +kernel⟩

end StylePrune.Content
