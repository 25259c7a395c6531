import StylePrune.Proofs.Css.Passing
import StylePrune.Proofs.Css.Spelled

/-!
# Style sheets whose brackets are all written

Tokens are explicit if every block and function among them is ended by its own closing bracket and
no closing bracket stands alone. That is a question about the pairing of lexemes
(`allExplicit_run`), and on a text whose comments, strings and addresses are clear the raw pairing
answers it (`accepts_lexemesFrom`): a text that is read is explicit.

A style sheet whose tokens are explicit has its brackets accepted (`checkBalance_of_allExplicit`),
with line ends written in any way, if the raw pairing finds the end of every string and address that
the lexer reads: that is asked of the source of each step alone (`isSafe`). No step has a text that
the raw pairing reads as other brackets (`Lexer.passes_step`), so what the lexemes pair it pairs too
(`Lexer.accepts_of_pairs`).
-/

namespace StylePrune.Css

/-- Damage other than a closing bracket with nothing to close. -/
def Leaf.isMatched : Leaf → Bool
  | .fault (.unmatched _) => false
  | _ => true

mutual

/-- Whether every block and function of a token is ended by its own closing bracket and every
closing bracket ends one. -/
def Token.isExplicit : Token → Bool
  | .leaf _ l => l.isMatched
  | .block _ _ content closed => closed && allExplicit content
  | .function _ _ arguments closed => closed && allExplicit arguments

def allExplicit : List Token → Bool
  | [] => true
  | t :: rest => t.isExplicit && allExplicit rest

end

theorem allExplicit_iff {ts : List Token} :
    allExplicit ts = true ↔ ∀ t ∈ ts, t.isExplicit = true := by
  induction ts with
  | nil => simp [allExplicit]
  | cons t ts ih => rw [allExplicit, Bool.and_eq_true, ih, List.forall_mem_cons]

theorem allExplicit_reverse (ts : List Token) : allExplicit ts.reverse = allExplicit ts := by
  rw [Bool.eq_iff_iff, allExplicit_iff, allExplicit_iff]
  simp only [List.mem_reverse]

theorem isExplicit_toToken (head : Head) (p : Position) (content : List Token) (closed : Bool) :
    (head.toToken p content closed).isExplicit = (closed && allExplicit content) := by
  cases head <;> rfl

/-! ## Pairing lexemes -/

/-- Whether lexemes pair their brackets with those open, as far as `atEnd` accepts what is then left
open. -/
def pairs (atEnd : List Bracket → Bool) : List Bracket → List Lexeme → Bool
  | opened, [] => atEnd opened
  | opened, .leaf l :: rest => l.isMatched && pairs atEnd opened rest
  | opened, .opening b :: rest => pairs atEnd (b :: opened) rest
  | opened, .functionHead _ :: rest => pairs atEnd (.paren :: opened) rest
  | [], .closing _ :: _ => false
  | innermost :: outer, .closing b :: rest => decide (innermost = b) && pairs atEnd outer rest

theorem pairs_append (atEnd : List Bracket → Bool) (opened : List Bracket) (xs ys : List Lexeme) :
    pairs atEnd opened (xs ++ ys) = pairs (pairs atEnd · ys) opened xs := by
  fun_induction pairs (pairs atEnd · ys) opened xs with
  | case1 => rfl
  | case2 opened l rest ih => rw [List.cons_append, pairs, ih]
  | case3 opened b rest ih => rw [List.cons_append, pairs, ih]
  | case4 opened name rest ih => rw [List.cons_append, pairs, ih]
  | case5 => rfl
  | case6 innermost outer b rest ih => rw [List.cons_append, pairs, ih]

namespace Nesting

theorem allExplicit_finish : ∀ (frames : List Frame) (current : List Token),
    allExplicit (finish frames current) = (frames.isEmpty && allExplicit current)
  | [], current => by rw [finish, allExplicit_reverse]; rfl
  | frame :: frames, current => by
    rw [finish, allExplicit_finish, allExplicit, isExplicit_toToken]
    simp

/-- Nesting gives explicit tokens just if the lexemes pair their brackets. -/
theorem allExplicit_run : ∀ (xs : List (Position × Lexeme)) (frames : List Frame)
    (current : List Token),
    allExplicit (run frames current xs) =
      (pairs List.isEmpty (frames.map (·.head.bracketOf)) (xs.map (·.2)) &&
        (frames.all fun f => allExplicit f.before) && allExplicit current)
  | [], frames, current => by
    rw [run, allExplicit_finish, List.map_nil, pairs, List.isEmpty_map]
    cases frames <;> simp
  | (p, x) :: rest, frames, current => by
    have ih := fun frames current => allExplicit_run rest frames current
    cases x with
    | leaf l =>
      rw [run, ih, List.map_cons, pairs, allExplicit, Token.isExplicit]
      ac_rfl
    | opening b | functionHead name =>
      simp only [run, ih, List.map_cons, pairs, List.all_cons, Head.bracketOf, allExplicit,
        Bool.and_true]
      ac_rfl
    | closing b =>
      cases frames with
      | nil =>
        rw [run, ih, List.map_cons, List.map_nil, pairs, allExplicit, Token.isExplicit]
        simp [Leaf.isMatched]
      | cons frame outer =>
        rw [run]
        by_cases hb : frame.head.bracketOf = b
        · simp only [hb, if_true, ih, List.map_cons, pairs, allExplicit, isExplicit_toToken,
            allExplicit_reverse, List.all_cons, decide_true, Bool.true_and]
          ac_rfl
        · simp [hb, ih, pairs, allExplicit, Token.isExplicit, Leaf.isMatched]

end Nesting

namespace Lexer

open Balance (accepts isInert isInert_of_class)

/-! ## Clear texts -/

/-- The source text of every step of the lexer, with the lexemes it gives. -/
def pieces : List Char → List (List Char × List Lexeme)
  | [] => []
  | c :: rest =>
    match step c rest with
    | .error _ => []
    | .ok (out, n) => (c :: rest.take n, out) :: pieces (rest.drop n)
termination_by cs => cs.length
decreasing_by simp only [List.length_drop, List.length_cons]; omega

/-- Whether raw pairing and lexer agree on where the source of a step ends. -/
def isClear (source : List Char) : List Lexeme → Bool
  | .leaf (.comment _) :: _ => ['*', '/'].isSuffixOf (source.drop 2)
  | .leaf (.string _ _) :: _ | .leaf (.fault .badString) :: _ => linesEscaped (source.drop 1)
  | .leaf (.url _ _) :: _ | .leaf (.fault .badUrl) :: _ => isBare (behindBracket source)
  | _ => true

/-- The part of being clear that a text needs for its brackets to be found: a comment may be left
open, since the raw pairing accepts what stands before it. -/
def isSafe (source : List Char) : List Lexeme → Bool
  | .leaf (.string _ _) :: _ | .leaf (.fault .badString) :: _ => linesEscaped (source.drop 1)
  | .leaf (.url _ _) :: _ | .leaf (.fault .badUrl) :: _ => isBare (behindBracket source)
  | _ => true

theorem isSafe_of_isClear {source : List Char} {out : List Lexeme} (h : isClear source out = true) :
    isSafe source out = true := by
  unfold isSafe
  split
  all_goals first | exact h | rfl

/-- The raw pairing reads what the first `n` characters of the normal form stand for as `out`. -/
def Passes (raw : List Char) (n : Nat) (out : List Lexeme) : Prop :=
  ∀ opened, accepts .plain opened raw = pairs (accepts .plain · (rawDrop n raw)) opened out

theorem pairs_leaves {atEnd : List Bracket → Bool} {opened : List Bracket} {ls : List Leaf}
    (h : ls.all Leaf.isMatched = true) : pairs atEnd opened (ls.map .leaf) = atEnd opened := by
  induction ls with
  | nil => rfl
  | cons l ls ih =>
    rw [List.all_cons, Bool.and_eq_true] at h
    rw [List.map_cons, pairs, h.1, ih h.2, Bool.true_and]

variable {c : Char} {cs rest raw : List Char} {m n : Nat} {out : List Lexeme}

theorem Skips.passes (h : Skips raw n) (ls : List Leaf) (hl : ls.all Leaf.isMatched = true) :
    Passes raw n (ls.map .leaf) := fun opened => by
  rw [h, pairs_leaves hl]

theorem passes_opener (b : Bracket) (hraw : normalize raw = b.opener :: rest) {x : Lexeme}
    (hx : x = .opening b ∨ b = .paren ∧ ∃ name, x = .functionHead name) :
    Passes raw 1 [x] := fun opened => by
  obtain ⟨more, hstarts, -⟩ := starts_of_normalize hraw
  obtain rfl := hstarts.eq_cons (by cases b <;> decide) (by cases b <;> decide)
  rw [hstarts.rawDrop_succ, Balance.accepts_opener]
  rcases hx with rfl | ⟨rfl, name, rfl⟩ <;> rfl

theorem passes_closer (b : Bracket) (hraw : normalize raw = b.closer :: rest) :
    Passes raw 1 [.closing b] := fun opened => by
  obtain ⟨more, hstarts, -⟩ := starts_of_normalize hraw
  obtain rfl := hstarts.eq_cons (by cases b <;> decide) (by cases b <;> decide)
  rw [hstarts.rawDrop_succ, Balance.accepts_closer]
  cases opened <;> rfl

theorem Skips.passes_after (h : Skips raw m) (h' : Passes (rawDrop m raw) n out) :
    Passes raw (m + n) out := fun opened => by
  rw [h, h', rawDrop_add]

theorem all_isMatched_url (cs : List Char) : (url cs).1.all Leaf.isMatched = true := by
  fun_cases url cs <;> rfl

theorem isSafe_url (source cs : List Char) :
    isSafe source ((url cs).1.map .leaf) = isBare (behindBracket source) := by
  fun_cases url cs <;> rfl

/-- An address with a bare text behind its opening bracket. -/
theorem passes_url (hraw : normalize raw = cs) (hn : cs.drop (name cs).2 = '(' :: rest)
    (hs : isSafe (rawTake ((name cs).2 + 1 + (url rest).2) raw) ((url rest).1.map .leaf) = true) :
    Passes raw ((name cs).2 + 1 + (url rest).2) ((url rest).1.map .leaf) := fun opened => by
  have hbehind : normalize (rawDrop (name cs).2 raw) = '(' :: rest := by
    rw [normalize_rawDrop, hraw, hn]
  obtain ⟨more, hstarts, -⟩ := starts_of_normalize hbehind
  have hbracket := hstarts.eq_cons (by decide) (by decide)
  rw [isSafe_url, Nat.add_assoc, rawTake_add, hbracket, Nat.add_comm 1, rawTake,
    behindBracket_calm (calm_name cs) hraw hn] at hs
  · rw [pairs_leaves (all_isMatched_url rest), (calm_name cs).skips hraw, Nat.add_assoc,
      rawDrop_add, Nat.add_comm 1, hstarts.rawDrop_succ, hbracket]
    refine (Balance.accepts_opener (b := .paren)).trans ?_
    conv => lhs; rw [← rawTake_append_rawDrop (url rest).2 more]
    exact accepts_bare hs
  · exact fun _ h => absurd h (by decide)

theorem passes_identLike (hraw : normalize raw = cs)
    (hs : isSafe (rawTake (identLike cs).2 raw) (identLike cs).1 = true) :
    Passes raw (identLike cs).2 (identLike cs).1 := by
  have hskip := (calm_name cs).skips hraw
  have head : ∀ {value rest}, cs.drop (name cs).2 = '(' :: rest →
      Passes raw ((name cs).2 + 1) [.functionHead value] := fun h =>
    hskip.passes_after (passes_opener .paren (by rw [normalize_rawDrop, hraw, h]; rfl)
      (.inr ⟨rfl, _, rfl⟩))
  revert hs
  fun_cases identLike cs with
  | case1 value n hname rest hrest | case4 value n hname rest hrest =>
    rw [hname] at head
    exact fun _ => head hrest
  | case2 value n hname rest hrest _ _ _ _ _ leaves k hurl
  | case3 value n hname rest hrest _ _ leaves k hurl =>
    have := @passes_url cs rest raw hraw
    rw [hname, hurl] at this
    exact this hrest
  | case5 value n hname =>
    rw [hname] at hskip
    exact fun _ => hskip.passes [.ident value] rfl

theorem passes_numeric {isInteger : Bool} {k : Nat} (hraw : normalize raw = cs)
    (hn : numberLength? cs = some (n, isInteger)) (h : numeric cs n isInteger = .ok (out, k)) :
    Passes raw k out := by
  have hcalm := calm_number hn
  revert h
  fun_cases numeric cs n isInteger with
  | case1 => exact fun h => by cases h
  | case2 text _ _ rest _ unit j hname =>
    intro h
    obtain ⟨rfl, rfl⟩ := Prod.mk.inj (Except.ok.inj h)
    have hunit := calm_name rest
    rw [hname] at hunit
    exact ((hcalm.add hunit).skips hraw).passes [.dimension text unit] rfl
  | case3 text _ _ rest _ hpercent =>
    intro h
    obtain ⟨rfl, rfl⟩ := Prod.mk.inj (Except.ok.inj h)
    obtain ⟨more, hmore⟩ := List.head?_eq_some_iff.1 hpercent
    refine ((hcalm.add ?_).skips hraw).passes [.percentage text] rfl
    exact (show cs.drop n = '%' :: more from hmore) ▸ Calm.zero.inert (by decide)
  | case4 text =>
    intro h
    obtain ⟨rfl, rfl⟩ := Prod.mk.inj (Except.ok.inj h)
    exact (hcalm.skips hraw).passes [.number text] rfl

/-- The raw pairing takes a bad string to end at a line feed only. -/
theorem passes_stringLike (hq : c = '"' ∨ c = '\x27') (hraw : normalize raw = c :: rest)
    (hs : isSafe (rawTake ((stringLike c rest).2 + 1) raw) (stringLike c rest).1 = true)
    (hend : .leaf (.fault .badString) ∈ (stringLike c rest).1 → normalize raw = raw) :
    Passes raw ((stringLike c rest).2 + 1) (stringLike c rest).1 := by
  obtain ⟨more, hstarts, hmore⟩ := starts_of_normalize hraw
  have hskip : linesEscaped ((rawTake ((quoted c rest).2.2 + 1) raw).drop 1) = true →
      ((quoted c rest).2.1 = .newline → normalize raw = raw) →
      Skips raw ((quoted c rest).2.2 + 1) := fun hlines hnormal opened => by
    have hline : c ≠ '\n' ∧ c ≠ '\uFFFD' := by rcases hq with rfl | rfl <;> decide
    obtain rfl := hstarts.eq_cons hline.1 hline.2
    rw [rawTake, List.drop_one, List.tail_cons] at hlines
    · rw [Balance.accepts_quote hq, hstarts.rawDrop_succ]
      refine accepts_quoted hq hmore hlines fun hstop => ?_
      rw [(raw_of_normal _ (hstarts.eq_of_normal (hnormal hstop)).2).2,
        ← (hstarts.eq_of_normal (hnormal hstop)).2, hmore]
      exact quoted_newline hstop
    · rintro _ rfl
      rcases hq with h | h <;> exact absurd h (by decide)
  revert hs hend
  fun_cases stringLike c rest with
  | case1 value n hstring =>
    rw [hstring] at hskip
    exact fun hs _ => (hskip hs fun h => by cases h).passes [.string value true] rfl
  | case2 value n hstring =>
    rw [hstring] at hskip
    exact fun hs hend => (hskip hs fun _ => hend List.mem_cons_self).passes [.fault .badString] rfl
  | case3 value n hstring =>
    rw [hstring] at hskip
    exact fun hs _ =>
      (hskip hs fun h => by cases h).passes [.string value false, .fault .eofInString] rfl

theorem passes_one {l : Leaf} {k : Nat} (hl : l.isMatched = true) (hs : Skips raw (k + 1))
    (h : one (.leaf l) k = .ok (out, n)) : Passes raw (n + 1) out := by
  obtain ⟨rfl, rfl⟩ := Prod.mk.inj (Except.ok.inj h)
  exact hs.passes [l] (by simpa using hl)

theorem passes_literal (hraw : normalize raw = c :: rest) {text ds : List Char}
    (hd : ds <+: c :: rest) {k : Nat} (hk : ds.length = k + 1) (hi : ds.all isInert = true)
    (h : oneLiteral text k = .ok (out, n)) : Passes raw (n + 1) out :=
  passes_one rfl (hk ▸ (Calm.of_beginning hd (List.all_eq_true.1 hi)).skips hraw) h

theorem name_length_le (cs : List Char) : (name cs).1.length ≤ (name cs).2 := by
  fun_induction name cs with
  | case1 | case4 => exact Nat.le_refl _
  | case2 c rest hc value n hn ih =>
    rw [hn] at ih
    exact Nat.succ_le_succ ih
  | case3 c rest hc h p k hk value n hn ih =>
    rw [hn] at ih
    exact Nat.succ_le_succ (Nat.le_trans ih (Nat.le_add_right n k))

theorem identLike_pos (h : startsIdent cs = true) : 0 < (identLike cs).2 := by
  have hpos := Nat.lt_of_lt_of_le (List.length_pos_iff.2 (name_ne_nil h)) (name_length_le cs)
  fun_cases identLike cs with
  | case5 value n hname => rwa [hname] at hpos
  | _ => omega

theorem numeric_pos {isInteger : Bool} {k : Nat} (hn : numberLength? cs = some (n, isInteger))
    (h : numeric cs n isInteger = .ok (out, k)) : 0 < k := by
  have hpos : 0 < n := by
    unfold numberLength? at hn
    extract_lets sign whole fraction mantissa at hn
    split at hn
    · cases hn
    · obtain ⟨rfl, -⟩ := Prod.mk.inj (Option.some.inj hn)
      omega
  revert h
  fun_cases numeric cs n isInteger with
  | case1 => exact fun h => by cases h
  | _ =>
    intro h
    obtain ⟨-, rfl⟩ := Prod.mk.inj (Except.ok.inj h)
    omega

/-- A character that is no bracket, quote or start of a comment is passed over alone. -/
theorem skips_delimiter (hraw : normalize raw = c :: rest) (ho : Bracket.ofOpener? c = none)
    (hcl : Bracket.ofCloser? c = none) (hq : ¬ (c = '"' ∨ c = '\x27'))
    (hs : ¬ (c = '/' ∧ rest.head? = some '*')) (he : startsIdent (c :: rest) = false) :
    Skips raw 1 := fun opened => by
  obtain ⟨more, hstarts, hmore⟩ := starts_of_normalize hraw
  rw [hstarts.rawDrop_succ, rawDrop]
  by_cases hb : c = '\\'
  · subst hb
    obtain rfl := hstarts.eq_cons (by decide) (by decide)
    have hrest : rest.head? = some '\n' := by simpa [startsIdent, startsEscape] using he
    obtain ⟨behind, rfl⟩ := List.head?_eq_some_iff.1 hrest
    obtain ⟨after, hline, -⟩ := starts_of_normalize hmore
    rw [accepts_escape_starts hline, accepts_starts hline (by decide)]
  by_cases hslash : c = '/'
  · subst hslash
    obtain rfl := hstarts.eq_cons (by decide) (by decide)
    refine Balance.accepts_inert (.inr ⟨rfl, fun h => hs ⟨rfl, ?_⟩⟩)
    obtain ⟨behind, rfl⟩ := List.head?_eq_some_iff.1 h
    rw [← hmore, normalize_cons fun _ h => absurd h (by decide)]
    rfl
  · refine accepts_starts hstarts ?_
    have ho' : c ≠ '(' ∧ c ≠ '[' ∧ c ≠ '\x7b' := by
      refine ⟨?_, ?_, ?_⟩ <;> rintro rfl <;> cases ho
    have hcl' : c ≠ ')' ∧ c ≠ ']' ∧ c ≠ '\x7d' := by
      refine ⟨?_, ?_, ?_⟩ <;> rintro rfl <;> cases hcl
    simp_all [isInert, Balance.special]

theorem skips_unicodeRange (hraw : normalize raw = c :: rest) (hu : c = 'U' ∨ c = 'u')
    (hrange : step.startsRange rest = true) :
    Skips raw ((unicodeRange (rest.drop 1)).2.2 + 1 + 1) := by
  obtain ⟨more, rfl⟩ : ∃ more, rest = '+' :: more := by
    revert hrange
    fun_cases step.startsRange rest with
    | case1 d more => exact fun _ => ⟨_, rfl⟩
    | case2 => exact fun h => by cases h
  have hinert : isInert c = true := by rcases hu with rfl | rfl <;> decide
  exact (((calm_unicodeRange more).inert (by decide)).inert hinert).skips hraw

/-- A comment is passed over, or nothing ends it and the raw pairing stops there. -/
theorem passes_comment {more : List Char} (hraw : normalize raw = '/' :: '*' :: more) :
    Passes raw ((comment more).2 + 1 + 1) [.leaf (.comment (comment more).1)] ∨
      (isClear (rawTake ((comment more).2 + 1 + 1) raw) [.leaf (.comment (comment more).1)] =
        false ∧ ∀ opened, accepts .plain opened raw = true) := by
  obtain ⟨behind, hslash, hbehind⟩ := starts_of_normalize hraw
  obtain ⟨inside, hstar, hinside⟩ := starts_of_normalize hbehind
  obtain rfl := hstar.eq_cons (by decide) (by decide)
  obtain rfl := hslash.eq_cons (by decide) (by decide)
  have htext := fun opened => @accepts_comment_text opened _ inside hinside
  have htake : rawTake ((comment more).2 + 1 + 1) ('/' :: '*' :: inside) =
      '/' :: '*' :: rawTake (comment more).2 inside := by
    rw [rawTake, rawTake] <;> exact fun _ h => absurd h (by decide)
  rw [htake]
  cases hsuffix : ['*', '/'].isSuffixOf (rawTake (comment more).2 inside) with
  | true =>
    refine .inl (Skips.passes (fun opened => ?_) [.comment (comment more).1] rfl)
    rw [Balance.accepts_comment, htext, hsuffix, hslash.rawDrop_succ, hstar.rawDrop_succ]
    rfl
  | false =>
    refine .inr ⟨hsuffix, fun opened => ?_⟩
    rw [Balance.accepts_comment, htext, hsuffix]
    rfl

/-- The raw pairing reads the source of a step as the lexemes the step gives, or the step is a
comment that nothing ends, before which it stops. -/
theorem passes_step (hraw : normalize raw = c :: rest) (h : step c rest = .ok (out, n))
    (hs : isSafe (rawTake (n + 1) raw) out = true)
    (hend : .leaf (.fault .badString) ∈ out → normalize raw = raw) :
    Passes raw (n + 1) out ∨
      (isClear (rawTake (n + 1) raw) out = false ∧ ∀ opened, accepts .plain opened raw = true) := by
  revert h
  fun_cases step c rest with
  | case1 rest hspace =>
    have hcalm := (Calm.takeWhile (p := isSpace) (by decide) (List.prefix_rfl (l := rest))).inert
      (isInert_of_class (by decide) hspace)
    exact fun h => .inl (passes_one rfl (hcalm.skips hraw) h)
  | case2 rest _ h first last k hrange =>
    rw [Bool.and_eq_true, Bool.or_eq_true, decide_eq_true_iff, decide_eq_true_iff] at h
    have hskips := skips_unicodeRange hraw h.1 h.2
    rw [hrange] at hskips
    exact fun h => .inl (passes_one rfl hskips h)
  | case3 rest _ _ hprefix =>
    exact fun h =>
      .inl (passes_literal hraw (List.isPrefixOf_iff_prefix.1 hprefix) rfl (by decide) h)
  | case4 rest _ _ _ hstart out n hident =>
    intro h
    obtain ⟨rfl, rfl⟩ := Prod.mk.inj (Except.ok.inj h)
    have hpos := identLike_pos hstart
    have hpasses := @passes_identLike (c :: rest) raw hraw
    rw [hident] at hpos hpasses
    obtain ⟨k, rfl⟩ := Nat.exists_eq_succ_of_ne_zero (Nat.ne_of_gt hpos)
    exact .inl (hpasses hs)
  | case5 rest _ _ _ _ k isInteger hnumber =>
    intro h
    cases hnum : numeric (c :: rest) k isInteger with
    | error e => rw [hnum] at h; cases h
    | ok r =>
      rw [hnum] at h
      obtain ⟨rfl, rfl⟩ := Prod.mk.inj (Except.ok.inj h)
      have hpos : 0 < r.2 := numeric_pos hnumber hnum
      rw [Nat.sub_add_cancel hpos]
      exact .inl (passes_numeric hraw hnumber hnum)
  | case6 rest _ _ _ _ _ hat _ value k hname =>
    have hcalm := calm_name rest
    rw [hname] at hcalm
    exact fun h =>
      .inl (passes_one rfl ((hcalm.inert (by rw [hat]; decide)).skips hraw) h)
  | case7 rest _ _ _ _ _ hat =>
    exact fun h => .inl (passes_literal hraw (List.prefix_append [c] rest) rfl
      (by rw [hat]; decide) h)
  | case8 _ _ hhash d more =>
    exact fun h => .inl (passes_one rfl
      (((calm_name _).inert (by rw [hhash]; decide)).skips hraw) h)
  | case9 _ _ hhash d more =>
    exact fun h => .inl (passes_literal hraw (List.prefix_append [c] _) rfl
      (by rw [hhash]; decide) h)
  | case10 _ _ hhash =>
    exact fun h => .inl (passes_literal hraw (List.prefix_rfl (l := [c])) rfl
      (by rw [hhash]; decide) h)
  | case11 rest _ _ _ _ _ _ _ b hb =>
    intro h
    obtain ⟨rfl, rfl⟩ := Prod.mk.inj (Except.ok.inj h)
    exact .inl (passes_opener b (Bracket.eq_opener hb ▸ hraw) (.inl rfl))
  | case12 rest _ _ _ _ _ _ _ b hb =>
    intro h
    obtain ⟨rfl, rfl⟩ := Prod.mk.inj (Except.ok.inj h)
    exact .inl (passes_closer b (Bracket.eq_closer hb ▸ hraw))
  | case13 rest _ _ _ _ _ _ _ _ _ hq =>
    intro h
    have hpasses := @passes_stringLike c rest raw (by simpa using hq) hraw
    rw [Except.ok.inj h] at hpasses
    exact .inl (hpasses hs hend)
  | case14 rest _ _ _ _ _ _ _ _ _ _ hmark text k hcomment =>
    intro h
    obtain ⟨rfl, rfl⟩ := Prod.mk.inj (Except.ok.inj h)
    rw [Bool.and_eq_true, decide_eq_true_iff, decide_eq_true_iff] at hmark
    obtain ⟨rfl, hstar⟩ := hmark
    obtain ⟨more, rfl⟩ := List.head?_eq_some_iff.1 hstar
    have hpasses := passes_comment hraw
    rw [show comment more = (text, k) from hcomment] at hpasses
    exact hpasses
  | case15 rest _ _ _ _ _ _ _ _ _ _ _ hprefix =>
    exact fun h =>
      .inl (passes_literal hraw (List.isPrefixOf_iff_prefix.1 hprefix) rfl (by decide) h)
  | case16 rest _ _ _ _ _ _ _ _ _ _ _ _ h =>
    rw [Bool.and_eq_true, decide_eq_true_iff, decide_eq_true_iff] at h
    obtain ⟨rfl, hbar⟩ := h
    obtain ⟨more, rfl⟩ := List.head?_eq_some_iff.1 hbar
    exact fun h =>
      .inl (passes_literal hraw (List.prefix_append ['|', '|'] more) rfl (by decide) h)
  | case17 rest _ _ _ _ _ _ _ _ _ _ _ _ _ h =>
    rw [Bool.and_eq_true, decide_eq_true_iff] at h
    obtain ⟨more, rfl⟩ := List.head?_eq_some_iff.1 h.2
    have hi : isInert c = true := isInert_of_class (by decide) h.1
    exact fun h => .inl (passes_literal hraw (List.prefix_append [c, '='] more) rfl
      (by rw [List.all_cons, hi]; decide) h)
  | case18 rest _ _ _ hstart _ _ _ hcl ho hq hmark =>
    exact fun h => .inl (passes_one rfl (skips_delimiter hraw ho hcl (by simpa using hq)
      (by simpa using hmark) (by simpa using hstart)) h)

/-- On a clear text the raw pairing answers whether the lexemes pair their brackets. -/
theorem accepts_lexemesFrom {p : Position} {xs : List (Position × Lexeme)}
    (h : lexemesFrom p cs = .ok xs) (hn : normalize cs = cs)
    (hc : ∀ piece ∈ pieces cs, isClear piece.1 piece.2 = true) (opened : List Bracket) :
    accepts .plain opened cs = pairs List.isEmpty opened (xs.map (·.2)) := by
  fun_induction lexemesFrom p cs generalizing xs opened with
  | case1 =>
    obtain rfl := Except.ok.inj h
    rw [Balance.accepts_nil]
    rfl
  | case2 | case3 => cases h
  | case4 p c rest out n hstep more hmore ih =>
    obtain rfl := Except.ok.inj h
    rw [pieces, hstep, List.forall_mem_cons] at hc
    obtain ⟨htake, hdrop⟩ := raw_of_normal (n + 1) hn
    rw [List.take_succ_cons] at htake
    rw [List.drop_succ_cons] at hdrop
    have hrest : normalize (rest.drop n) = rest.drop n := by
      conv => lhs; rw [← hdrop, normalize_rawDrop, hn, List.drop_succ_cons]
    rcases passes_step hn hstep (htake ▸ isSafe_of_isClear hc.1) fun _ => hn with
      hpasses | ⟨hopen, -⟩
    · rw [hpasses, hdrop, List.map_append, List.map_map, pairs_append]
      simp only [Function.comp_def, List.map_id']
      congr 1
      exact funext fun o => ih hmore hrest hc.2 o
    · rw [htake] at hopen
      exact absurd (hc.1.symm.trans hopen) (by decide)

end Lexer

/-- Whether the raw pairing and the lexer agree on where every comment, string and address of a text
ends: line ends are written as `\n`, and every step of the lexer is clear. -/
def isClear (css : List Char) : Bool :=
  normalize css == css && (Lexer.pieces css).all fun piece => Lexer.isClear piece.1 piece.2

/-- A clear text has its brackets paired just if its tokens are explicit. -/
theorem checkBalance_iff_allExplicit {css : List Char} {ts : List Token}
    (hc : isClear css = true) (h : tokenize css = .ok ts) :
    checkBalance css = .ok () ↔ allExplicit ts = true := by
  rw [isClear, Bool.and_eq_true, beq_iff_eq, List.all_eq_true] at hc
  obtain ⟨hnorm, hclear⟩ := hc
  obtain ⟨xs, hxs, rfl⟩ := tokenize_inv h
  rw [lexemes, hnorm] at hxs
  have hok : (checkBalance css).isOk = allExplicit (Nesting.run [] [] xs) := by
    rw [Balance.checkBalance_isOk, Lexer.accepts_lexemesFrom hxs hnorm hclear,
      Nesting.allExplicit_run]
    simp [allExplicit]
  rw [← hok]
  cases checkBalance css <;> simp [Except.isOk, Except.toBool]

/-- The tokens that a clear style sheet is read from have all their brackets written. -/
theorem read_allExplicit {css : List Char} {s : Sheet} (hc : isClear css = true)
    (h : read css = .ok s) :
    ∃ ts, tokenize css = .ok ts ∧ Reading.nodes true .nothing ts = .ok s ∧
      allExplicit ts = true := by
  obtain ⟨hb, ts, hts, hn⟩ := read_inv h
  exact ⟨ts, hts, hn, (checkBalance_iff_allExplicit hc hts).1 hb⟩

/-- Brackets in a comment, a string and an address, and an escaped one. -/
theorem read_allExplicit_hidden :
    ∃ s, read "/*\x7d*/a\\(\x7bb:url(\\));c:\"\x7d\"\x7d".toList = .ok s ∧
      ∃ ts, tokenize "/*\x7d*/a\\(\x7bb:url(\\));c:\"\x7d\"\x7d".toList = .ok ts ∧
        Reading.nodes true .nothing ts = .ok s ∧ allExplicit ts = true := by
  have hread : (read "/*\x7d*/a\\(\x7bb:url(\\));c:\"\x7d\"\x7d".toList).isOk = true := by
    decide +kernel
  cases hs : read "/*\x7d*/a\\(\x7bb:url(\\));c:\"\x7d\"\x7d".toList with
  | error e => rw [hs] at hread; cases hread
  | ok s => exact ⟨s, rfl, read_allExplicit (by decide +kernel) hs⟩

/-- A comment that nothing ends hides the brackets that are open where it starts. -/
theorem read_unended_comment :
    (read "a\x7b/*".toList).isOk = true ∧
      (tokenize "a\x7b/*".toList).toOption.any (fun ts => !allExplicit ts) = true := by
  exact ⟨by decide +kernel, by decide +kernel⟩

/-! ## Leaves of a text, from its tokens -/

namespace Nesting

variable {P : Leaf → Prop}

theorem throughout_head_iff {head : Head} {p : Position} {content ts : List Token} {closed : Bool} :
    Throughout P (head.toToken p content closed :: ts) ↔
      Throughout P content ∧ Throughout P ts := by
  cases head <;> exact throughout_cons

theorem throughout_of_finish : ∀ (frames : List Frame) (current : List Token),
    Throughout P (finish frames current) →
      (∀ f ∈ frames, Throughout P f.before) ∧ Throughout P current
  | [], _, h => ⟨List.forall_mem_nil _, throughout_reverse.1 h⟩
  | frame :: frames, _, h => by
    obtain ⟨hrest, hall⟩ := throughout_of_finish frames _ h
    obtain ⟨hcurrent, hframe⟩ := throughout_head_iff.1 hall
    exact ⟨List.forall_mem_cons.2 ⟨hframe, hrest⟩, throughout_reverse.1 hcurrent⟩

/-- Nesting loses no leaf. -/
theorem throughout_of_run : ∀ (lexemes : List (Position × Lexeme)) (frames : List Frame)
    (current : List Token), Throughout P (run frames current lexemes) →
      (∀ x ∈ lexemes, ∀ l, x.2 = .leaf l → P l) ∧
        (∀ f ∈ frames, Throughout P f.before) ∧ Throughout P current
  | [], frames, current, h => ⟨List.forall_mem_nil _, throughout_of_finish frames current h⟩
  | (p, lexeme) :: rest, frames, current, h => by
    have ih := fun frames current => throughout_of_run rest frames current
    rw [List.forall_mem_cons]
    cases lexeme with
    | leaf l =>
      obtain ⟨hrest, hframes, hall⟩ := ih _ _ h
      obtain ⟨hleaf, hcurrent⟩ := throughout_cons.1 hall
      refine ⟨⟨fun l' hl => ?_, hrest⟩, hframes, hcurrent⟩
      obtain rfl := Lexeme.leaf.inj hl
      exact hleaf _ (List.mem_singleton_self _)
    | opening b | functionHead name =>
      obtain ⟨hrest, hall, -⟩ := ih _ _ h
      obtain ⟨hcurrent, hframes⟩ := List.forall_mem_cons.1 hall
      exact ⟨⟨fun _ hl => (nomatch hl), hrest⟩, hframes, hcurrent⟩
    | closing b =>
      have hfault : ∀ {frames}, Throughout P (run frames _ rest) →
          (∀ x ∈ rest, ∀ l, x.2 = .leaf l → P l) ∧
            (∀ f ∈ frames, Throughout P f.before) ∧ Throughout P current := fun h => by
        obtain ⟨hrest, hframes, hall⟩ := ih _ (.leaf p (.fault (.unmatched b)) :: current) h
        exact ⟨hrest, hframes, (throughout_cons.1 hall).2⟩
      suffices (∀ x ∈ rest, ∀ l, x.2 = .leaf l → P l) ∧
          (∀ f ∈ frames, Throughout P f.before) ∧ Throughout P current from
        ⟨⟨fun _ hl => (nomatch hl), this.1⟩, this.2⟩
      cases frames with
      | nil => exact hfault h
      | cons frame outer =>
        rw [run] at h
        split at h
        · obtain ⟨hrest, houter, hall⟩ := ih _ _ h
          obtain ⟨hcurrent, hframe⟩ := throughout_head_iff.1 hall
          exact ⟨hrest, List.forall_mem_cons.2 ⟨hframe, houter⟩, throughout_reverse.1 hcurrent⟩
        · exact hfault h

end Nesting

/-! ## Pairing on the text itself -/

namespace Lexer

open Balance (accepts)

/-- What the source of every step of the lexer is in the text itself, with the lexemes the step
gives. -/
def sources (raw : List Char) : List (List Char × List Lexeme) :=
  match _ : normalize raw with
  | [] => []
  | c :: rest =>
    match step c rest with
    | .error _ => []
    | .ok (out, n) => (rawTake (n + 1) raw, out) :: sources (rawDrop (n + 1) raw)
termination_by raw.length
decreasing_by
  obtain ⟨_, hstarts, -⟩ := starts_of_normalize ‹normalize raw = c :: rest›
  exact hstarts.length_rawDrop_lt _

theorem sources_of_step {c : Char} {rest raw : List Char} {out : List Lexeme} {n : Nat}
    (hraw : normalize raw = c :: rest) (h : step c rest = .ok (out, n)) :
    sources raw = (rawTake (n + 1) raw, out) :: sources (rawDrop (n + 1) raw) := by
  rw [sources]
  split
  · rename_i hnil
    cases hraw.symm.trans hnil
  · rename_i d more hcons
    obtain ⟨rfl, rfl⟩ := List.cons.inj (hraw.symm.trans hcons)
    rw [h]

theorem pairs_mono {atEnd atEnd' : List Bracket → Bool}
    (h : ∀ opened, atEnd opened = true → atEnd' opened = true) {opened : List Bracket}
    {xs : List Lexeme} (hp : pairs atEnd opened xs = true) : pairs atEnd' opened xs = true := by
  fun_induction pairs atEnd opened xs with
  | case1 opened => exact h opened hp
  | case2 opened l rest ih =>
    rw [Bool.and_eq_true] at hp
    rw [pairs, hp.1, ih hp.2, Bool.and_true]
  | case3 opened b rest ih => exact ih hp
  | case4 opened name rest ih => exact ih hp
  | case5 => cases hp
  | case6 innermost outer b rest ih =>
    rw [Bool.and_eq_true] at hp
    rw [pairs, hp.1, ih hp.2, Bool.and_true]

/-- Brackets that the lexemes pair are paired in the text. -/
theorem accepts_of_pairs {p : Position} {cs raw : List Char} {xs : List (Position × Lexeme)}
    {opened : List Bracket} (h : lexemesFrom p cs = .ok xs) (hraw : normalize raw = cs)
    (hs : ∀ source ∈ sources raw, isSafe source.1 source.2 = true)
    (hf : ∀ x ∈ xs, x.2 ≠ .leaf (.fault .badString))
    (hp : pairs List.isEmpty opened (xs.map (·.2)) = true) :
    accepts .plain opened raw = true := by
  fun_induction lexemesFrom p cs generalizing raw xs opened with
  | case1 =>
    obtain rfl := Except.ok.inj h
    obtain rfl := normalize_eq_nil hraw
    rwa [Balance.accepts_nil]
  | case2 | case3 => cases h
  | case4 p c rest out n hstep more hmore ih =>
    obtain rfl := Except.ok.inj h
    rw [sources_of_step hraw hstep, List.forall_mem_cons] at hs
    rw [List.forall_mem_append, List.forall_mem_map] at hf
    rw [List.map_append, List.map_map, pairs_append] at hp
    simp only [Function.comp_def, List.map_id'] at hp
    have hrest : normalize (rawDrop (n + 1) raw) = rest.drop n := by
      rw [normalize_rawDrop, hraw, List.drop_succ_cons]
    rcases passes_step hraw hstep hs.1 fun hbad => absurd rfl (hf.1 _ hbad) with
      hpasses | ⟨-, hall⟩
    · rw [hpasses]
      exact pairs_mono (fun _ ho => ih hmore hrest hs.2 hf.2 ho) hp
    · exact hall opened

end Lexer

/-- Whether the raw pairing finds where every string and address of a text ends. -/
def isSafe (css : List Char) : Bool :=
  (Lexer.sources css).all fun source => Lexer.isSafe source.1 source.2

/-- A safe text whose tokens have all their brackets written, and no bad string or bad address among
them, has its brackets accepted. -/
theorem checkBalance_of_allExplicit {css : List Char} {ts : List Token}
    (h : tokenize css = .ok ts) (he : allExplicit ts = true)
    (hf : Throughout (fun l => l ≠ .fault .badString ∧ l ≠ .fault .badUrl) ts)
    (hs : isSafe css = true) : checkBalance css = .ok () := by
  obtain ⟨xs, hxs, rfl⟩ := tokenize_inv h
  obtain ⟨hleaves, -, -⟩ := Nesting.throughout_of_run xs [] [] hf
  have hpairs : pairs List.isEmpty [] (xs.map (·.2)) = true := by
    simpa [Nesting.allExplicit_run, allExplicit] using he
  have haccepts := Lexer.accepts_of_pairs hxs rfl (List.all_eq_true.1 hs)
    (fun x hx hbad => (hleaves x hx _ hbad).1 rfl) hpairs
  rw [← Balance.checkBalance_isOk] at haccepts
  cases hb : checkBalance css with
  | ok => rfl
  | error e => rw [hb] at haccepts; cases haccepts

/-- An escaped bracket in an address, a bracket in a string behind an escaped line feed, line ends
of two characters, and a bracket in a comment that nothing ends. -/
def hiddenBrackets : List Char :=
  ".a\r\n\x7bb:url(\\(\r\n);c:\"\\\n[\"\x7d/*(".toList

theorem checkBalance_of_allExplicit_hidden :
    ∃ ts, tokenize hiddenBrackets = .ok ts ∧ allExplicit ts = true ∧
      Throughout (fun l => l ≠ .fault .badString ∧ l ≠ .fault .badUrl) ts ∧
      isSafe hiddenBrackets = true ∧
      checkBalance hiddenBrackets = .ok () := by
  have hread : (tokenize hiddenBrackets).toOption.any (fun ts =>
      allExplicit ts && (leavesOf ts).all fun l => l ≠ .fault .badString ∧ l ≠ .fault .badUrl) =
        true := by
    decide +kernel
  cases hts : tokenize hiddenBrackets with
  | error e => rw [hts] at hread; cases hread
  | ok ts =>
    rw [hts] at hread
    obtain ⟨he, hf⟩ := (Bool.and_eq_true _ _).mp hread
    have hleaves : Throughout (fun l => l ≠ .fault .badString ∧ l ≠ .fault .badUrl) ts :=
      fun l hl => by simpa using List.all_eq_true.1 hf l hl
    have hsafe : isSafe hiddenBrackets = true := by decide +kernel
    exact ⟨ts, rfl, he, hleaves, hsafe, checkBalance_of_allExplicit hts he hleaves hsafe⟩

/-- A bracket in an unquoted address is counted, though it is no token. -/
theorem checkBalance_bracket_in_address :
    (tokenize ".x\x7bb:url([)\x7d".toList).toOption.any (fun ts => allExplicit ts &&
        (leavesOf ts).all fun l => l ≠ .fault .badString ∧ l ≠ .fault .badUrl) = true ∧
      (checkBalance ".x\x7bb:url([)\x7d".toList).isOk = false := by
  exact ⟨by decide +kernel, by decide +kernel⟩

end StylePrune.Css
