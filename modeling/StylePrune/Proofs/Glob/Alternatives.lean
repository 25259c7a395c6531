import StylePrune.Glob.Basic
import StylePrune.Proofs.Disk.Places
import StylePrune.Proofs.Text.Words

/-!
# Brace groups stand for their alternatives

Expanding a pattern takes one group after the other, and what it puts in the place of an inner group
is cut at the commas of the outer one later. `mem_expansions_group` says that the order does not
matter: any group that holds no other may be taken first. So a pattern whose groups are nested may
be expanded along its structure (`Braced.mem_expansions`), which gives the texts that choose one
alternative for every group (`expandBraces_exact`).
-/

namespace StylePrune

/-! ## Trimmed parts -/

theorem mem_of_mem_trimChars {c : Char} {cs : List Char} (h : c ∈ trimChars cs) : c ∈ cs := by
  obtain ⟨front, back, -, -, hcs⟩ := exists_trimChars cs
  rw [hcs]
  exact List.mem_append_right front (List.mem_append_left back h)

theorem trimChars_of_forall {cs : List Char} (h : ∀ c ∈ cs, isBlank c = false) :
    trimChars cs = cs := by
  obtain ⟨front, back, hfront, hback, hcs⟩ := exists_trimChars cs
  have empty {part : List Char} (hblank : ∀ c ∈ part, isBlank c = true) (hpart : part ⊆ cs) :
      part = [] :=
    List.eq_nil_iff_forall_not_mem.2 fun c hc =>
      absurd ((h c (hpart hc)).symm.trans (hblank c hc)) (by decide)
  rw [empty hfront fun c hc => by rw [hcs]; exact List.mem_append_left _ hc,
    empty hback fun c hc => by rw [hcs]; simp [hc], List.append_nil] at hcs
  exact hcs.symm

namespace Glob

variable {t x y z before body after rest : List Char}

/-! ## The first group -/

/-- A text holds no brace. -/
def Braceless (cs : List Char) : Prop := ∀ c ∈ cs, isBrace c = false

/-- The text behind an opening brace closes a group that holds no other. -/
def Closes (rest body after : List Char) : Prop :=
  rest = body ++ '\x7d' :: after ∧ body ≠ [] ∧ Braceless body

theorem group?_closes (h : Closes rest body after) :
    group? ('\x7b' :: rest) = some ([], body, after) := by
  obtain ⟨rfl, hne, hbody⟩ := h
  have htake : ((body ++ '\x7d' :: after).takeWhile fun d => !isBrace d) = body := by
    rw [List.takeWhile_append_of_pos fun c hc => by rw [hbody c hc]; rfl,
      List.takeWhile_cons_of_neg (by decide), List.append_nil]
  rw [group?]
  simp only [htake, List.drop_left]
  rw [if_pos (by simpa using hne)]
  rfl

theorem group?_skips {c : Char} (h : c = '\x7b' → ∀ body after, ¬ Closes rest body after) :
    group? (c :: rest) =
      (group? rest).map fun (before, body, after) => (c :: before, body, after) := by
  rw [group?]
  split
  · rename_i hopen
    obtain ⟨hc, hne⟩ := Bool.and_eq_true_iff.1 hopen
    split
    · rename_i after hafter
      refine absurd ⟨?_, by simpa using hne, fun d hd => ?_⟩
        (h (of_decide_eq_true hc) (rest.takeWhile fun d => !isBrace d) after)
      · rw [← hafter]
        exact (List.prefix_iff_eq_append.1 (List.takeWhile_prefix _)).symm
      · simpa using List.all_eq_true.1 List.all_takeWhile d hd
    · exact Option.none_or
  · exact Option.none_or

theorem group?_eq_some (h : group? t = some (before, body, after)) :
    ∃ rest, t = before ++ '\x7b' :: rest ∧ Closes rest body after := by
  induction t generalizing before with
  | nil => cases h
  | cons c t ih =>
    by_cases hc : c = '\x7b' ∧ ∃ body after, Closes t body after
    · obtain ⟨rfl, body', after', hcloses⟩ := hc
      rw [group?_closes hcloses] at h
      cases h
      exact ⟨t, rfl, hcloses⟩
    · rw [group?_skips fun hopen body after hcloses => hc ⟨hopen, body, after, hcloses⟩,
        Option.map_eq_some_iff] at h
      obtain ⟨⟨before', body', after'⟩, hgroup, heq⟩ := h
      cases heq
      obtain ⟨rest, rfl, hcloses⟩ := ih hgroup
      exact ⟨rest, rfl, hcloses⟩

theorem group?_braceless (h : Braceless t) : group? t = none := by
  rw [Option.eq_none_iff_forall_ne_some]
  rintro ⟨before, body, after⟩ hgroup
  obtain ⟨rest, rfl, -⟩ := group?_eq_some hgroup
  exact absurd (h '\x7b' (by simp)) (by decide)

theorem Closes.append (h : Closes rest body after) (z : List Char) :
    Closes (rest ++ z) body (after ++ z) := by
  obtain ⟨rfl, hne, hbody⟩ := h
  exact ⟨by rw [List.append_assoc, List.cons_append], hne, hbody⟩

/-- A group that closes in a longer text closes in the text, if a brace stands in the text or an
opening one behind it. -/
theorem Closes.of_append (h : Closes (rest ++ z) body after)
    (hz : (∃ c ∈ rest, isBrace c = true) ∨ z.head? = some '\x7b') :
    ∃ after, Closes rest body after := by
  obtain ⟨heq, hne, hbody⟩ := h
  rcases List.append_eq_append_iff.1 heq with ⟨mid, rfl, hmid⟩ | ⟨mid, rfl, hmid⟩
  · exfalso
    rcases hz with ⟨c, hc, hbrace⟩ | hopen
    · rw [hbody c (List.mem_append_left mid hc)] at hbrace
      cases hbrace
    · cases mid with
      | nil =>
        rw [hmid] at hopen
        exact absurd (Option.some.inj hopen) (by decide)
      | cons d mid =>
        rw [hmid] at hopen
        obtain rfl : d = '\x7b' := Option.some.inj hopen
        exact absurd (hbody '\x7b' (by simp)) (by decide)
  · cases mid with
    | nil =>
      exfalso
      rcases hz with ⟨c, hc, hbrace⟩ | hopen
      · rw [List.append_nil] at hc
        rw [hbody c hc] at hbrace
        cases hbrace
      · rw [List.nil_append] at hmid
        rw [← hmid] at hopen
        exact absurd (Option.some.inj hopen) (by decide)
    | cons d mid =>
      obtain ⟨rfl, -⟩ := List.cons.inj hmid
      exact ⟨mid, rfl, hne, hbody⟩

/-- The first group of a text is that of every longer one. -/
theorem group?_append (h : group? x = some (before, body, after)) (z : List Char) :
    group? (x ++ z) = some (before, body, after ++ z) := by
  induction x generalizing before with
  | nil => cases h
  | cons c x ih =>
    by_cases hc : c = '\x7b' ∧ ∃ body after, Closes x body after
    · obtain ⟨rfl, body', after', hcloses⟩ := hc
      rw [group?_closes hcloses] at h
      cases h
      exact group?_closes (hcloses.append z)
    · rw [group?_skips fun hopen body after hcloses => hc ⟨hopen, body, after, hcloses⟩,
        Option.map_eq_some_iff] at h
      obtain ⟨⟨before', body', after'⟩, hgroup, heq⟩ := h
      cases heq
      obtain ⟨rest, hx, -⟩ := group?_eq_some hgroup
      have hbrace : ∃ d ∈ x, isBrace d = true := ⟨'\x7b', by rw [hx]; simp, by decide⟩
      rw [List.cons_append, group?_skips fun hopen body after hcloses => ?_, ih hgroup]
      · rfl
      · obtain ⟨after'', hcloses'⟩ := hcloses.of_append (.inl hbrace)
        exact hc ⟨hopen, body, after'', hcloses'⟩

/-- Behind a text without a group, a group is the first one. -/
theorem group?_behind (hx : group? x = none) (h : Closes rest body after) :
    group? (x ++ '\x7b' :: rest) = some (x, body, after) := by
  induction x with
  | nil => exact group?_closes h
  | cons c x ih =>
    by_cases hc : c = '\x7b' ∧ ∃ body after, Closes x body after
    · obtain ⟨rfl, body', after', hcloses⟩ := hc
      rw [group?_closes hcloses] at hx
      cases hx
    · rw [group?_skips fun hopen body after hcloses => hc ⟨hopen, body, after, hcloses⟩,
        Option.map_eq_none_iff] at hx
      rw [List.cons_append, group?_skips fun hopen body after hcloses => ?_, ih hx]
      · rfl
      · obtain ⟨after', hcloses'⟩ := hcloses.of_append (.inr rfl)
        exact hc ⟨hopen, body, after', hcloses'⟩

/-! ## Expanding without a bound -/

/-- All expansions of a pattern, repeated ones included. -/
def expansions (pattern : List Char) : List (List Char) :=
  expandFrom (pattern.count '\x7b') pattern

/-- A step uses up the opening brace of its group. -/
theorem count_step {part : List Char} (h : group? t = some (before, body, after))
    (hpart : part ∈ splitOn ',' body) :
    t.count '\x7b' = (before ++ trimChars part ++ after).count '\x7b' + 1 := by
  obtain ⟨rest, rfl, rfl, -, hbody⟩ := group?_eq_some h
  have hfree : '\x7b' ∉ body := fun hmem => absurd (hbody _ hmem) (by decide)
  have hpartFree : '\x7b' ∉ trimChars part := fun hmem =>
    hfree (mem_of_mem_splitOn hpart (mem_of_mem_trimChars hmem))
  simp only [List.count_append, List.count_cons, List.count_eq_zero_of_not_mem hfree,
    List.count_eq_zero_of_not_mem hpartFree]
  simp
  omega

theorem expandFrom_of_none (h : group? t = none) (bound : Nat) : expandFrom bound t = [t] := by
  cases bound with
  | zero => rfl
  | succ bound => rw [expandFrom, h]

/-- Any bound that allows for the opening braces gives all expansions. -/
theorem expandFrom_of_le {bound : Nat} (h : t.count '\x7b' ≤ bound) :
    expandFrom bound t = expansions t := by
  induction bound generalizing t with
  | zero => rw [expansions, Nat.le_zero.1 h]
  | succ bound ih =>
    cases hgroup : group? t with
    | none => rw [expansions, expandFrom_of_none hgroup, expandFrom_of_none hgroup]
    | some group =>
      obtain ⟨before, body, after⟩ := group
      obtain ⟨left, hleft⟩ : ∃ left, t.count '\x7b' = left + 1 := by
        obtain ⟨part, parts, hparts⟩ := List.exists_cons_of_ne_nil (splitOn_ne_nil ',' body)
        exact ⟨_, count_step hgroup (hparts ▸ List.mem_cons_self)⟩
      rw [expansions, hleft, expandFrom, expandFrom, hgroup]
      refine List.flatMap_congr fun part hpart => ?_
      have hcount := count_step hgroup hpart
      rw [ih (by omega), expansions, Nat.succ.inj (hleft.symm.trans hcount)]

theorem expansions_of_none (h : group? t = none) : expansions t = [t] := expandFrom_of_none h _

/-- The recursion of the expansions: the first group is replaced by each of its alternatives. -/
theorem expansions_of_some (h : group? t = some (before, body, after)) :
    expansions t = (splitOn ',' body).flatMap fun part =>
      expansions (before ++ trimChars part ++ after) := by
  rw [← expandFrom_of_le (Nat.le_succ (t.count '\x7b')), expandFrom, h]
  refine List.flatMap_congr fun part hpart => expandFrom_of_le ?_
  rw [count_step h hpart]
  exact Nat.le_succ _

/-! ## Any innermost group may be taken first -/

/-- Expanding a group that holds no other, wherever it stands, and then the rest gives all
expansions. The induction is on the opening braces before the group: a group there is taken first,
and the two steps commute. -/
theorem mem_expansions_group {r : List Char} (hne : body ≠ []) (hbody : Braceless body) :
    r ∈ expansions (x ++ '\x7b' :: (body ++ '\x7d' :: y)) ↔
      ∃ part ∈ splitOn ',' body, r ∈ expansions (x ++ trimChars part ++ y) := by
  have hcloses : Closes (body ++ '\x7d' :: y) body y := ⟨rfl, hne, hbody⟩
  induction hn : x.count '\x7b' using Nat.strongRecOn generalizing x with
  | ind n ih =>
    cases hx : group? x with
    | none => rw [expansions_of_some (group?_behind hx hcloses), List.mem_flatMap]
    | some group =>
      obtain ⟨before, body', after⟩ := group
      have htaken (z : List Char) : r ∈ expansions (x ++ z) ↔
          ∃ part ∈ splitOn ',' body', r ∈ expansions (before ++ trimChars part ++ after ++ z) := by
        rw [expansions_of_some (group?_append hx z), List.mem_flatMap]
        simp only [List.append_assoc]
      have hless {part : List Char} (hpart : part ∈ splitOn ',' body') :
          (before ++ trimChars part ++ after).count '\x7b' < n := by
        rw [← hn, count_step hx hpart]
        exact Nat.lt_succ_self _
      rw [htaken]
      simp only [List.append_assoc x, htaken]
      constructor
      · rintro ⟨part', hpart', hr⟩
        obtain ⟨part, hpart, hr⟩ := (ih _ (hless hpart') rfl).1 hr
        exact ⟨part, hpart, part', hpart', by rwa [← List.append_assoc]⟩
      · rintro ⟨part, hpart, part', hpart', hr⟩
        exact ⟨part', hpart', (ih _ (hless hpart') rfl).2
          ⟨part, hpart, by rwa [← List.append_assoc] at hr⟩⟩

/-! ## Nested groups -/

/-- A pattern of literal text and groups of at least two alternatives. -/
inductive Braced where
  | literal (text : List Char)
  | append (first second : Braced)
  | group (first second : Braced) (more : List Braced)

namespace Braced

mutual

/-- The pattern as it is written. -/
def text : Braced → List Char
  | literal text => text
  | append p q => p.text ++ q.text
  | group p q more => '\x7b' :: (p.text ++ ',' :: (q.text ++ textBehind more) ++ ['\x7d'])

/-- Further alternatives, each behind a comma. -/
def textBehind : List Braced → List Char
  | [] => []
  | p :: more => ',' :: (p.text ++ textBehind more)

end

/-- A character of literal text, which is no comma within a group. -/
def isLiteral (inGroup : Bool) (c : Char) : Bool :=
  !isBrace c && !isBlank c && !(inGroup && c = ',')

mutual

/-- Whether literal text is free of braces and blanks, and of commas within groups. -/
def isProper (inGroup : Bool) : Braced → Bool
  | literal text => text.all (isLiteral inGroup)
  | append p q => p.isProper inGroup && q.isProper inGroup
  | group p q more => p.isProper true && q.isProper true && areProper more

def areProper : List Braced → Bool
  | [] => true
  | p :: more => p.isProper true && areProper more

end

/-- A text that a pattern stands for: one alternative is chosen for every group. -/
inductive Chooses : Braced → List Char → Prop
  | literal (text : List Char) : Chooses (.literal text) text
  | append {p q : Braced} {s t : List Char} (hs : Chooses p s) (ht : Chooses q t) :
    Chooses (.append p q) (s ++ t)
  | group {p first second : Braced} {more : List Braced} {s : List Char}
    (hp : p ∈ first :: second :: more) (hs : Chooses p s) : Chooses (.group first second more) s

theorem areProper_iff {ps : List Braced} :
    areProper ps = true ↔ ∀ p ∈ ps, p.isProper true = true := by
  induction ps with
  | nil => simp [areProper]
  | cons p ps ih => rw [areProper, Bool.and_eq_true, ih, List.forall_mem_cons]

theorem isProper_group (inGroup : Bool) (p q : Braced) (more : List Braced) :
    (group p q more).isProper inGroup = areProper (p :: q :: more) := by
  rw [isProper, areProper, areProper, Bool.and_assoc]

/-- Every pattern stands for some text. -/
theorem exists_chooses : ∀ p : Braced, ∃ s, p.Chooses s
  | literal text => ⟨text, .literal text⟩
  | append p q =>
    have ⟨s, hs⟩ := exists_chooses p
    have ⟨t, ht⟩ := exists_chooses q
    ⟨s ++ t, .append hs ht⟩
  | group p _ _ =>
    have ⟨s, hs⟩ := exists_chooses p
    ⟨s, .group List.mem_cons_self hs⟩

theorem isLiteral_of_inGroup {c : Char} (h : isLiteral true c = true) (inGroup : Bool) :
    isLiteral inGroup c = true := by
  cases inGroup with
  | true => exact h
  | false =>
    rw [isLiteral, Bool.and_eq_true] at h
    rw [isLiteral, h.1]
    rfl

/-- What a pattern stands for is literal text. -/
theorem Chooses.isLiteral {p : Braced} {s : List Char} (h : p.Chooses s) {inGroup : Bool}
    (hp : p.isProper inGroup = true) : ∀ c ∈ s, Braced.isLiteral inGroup c = true := by
  induction h generalizing inGroup with
  | literal text => exact List.all_eq_true.1 hp
  | append _ _ ihs iht =>
    rw [isProper, Bool.and_eq_true] at hp
    exact List.forall_mem_append.2 ⟨ihs hp.1, iht hp.2⟩
  | group hmem _ ih =>
    rw [isProper_group, areProper_iff] at hp
    exact fun c hc => isLiteral_of_inGroup (ih (hp _ hmem) c hc) inGroup

/-- Texts without braces and blanks. -/
theorem braceless_of_isLiteral {s : List Char} {inGroup : Bool}
    (h : ∀ c ∈ s, isLiteral inGroup c = true) :
    Braceless s ∧ ∀ c ∈ s, isBlank c = false := by
  constructor <;> intro c hc <;> have hliteral := h c hc <;>
    simp only [isLiteral, Bool.and_eq_true, Bool.not_eq_true'] at hliteral
  · exact hliteral.1.1
  · exact hliteral.1.2

theorem comma_notMem_of_isLiteral {s : List Char} (h : ∀ c ∈ s, isLiteral true c = true) :
    ',' ∉ s := fun hmem => absurd (h ',' hmem) (by decide)

theorem isLiteral_forall₂ {ps : List Braced} {ss : List (List Char)}
    (h : List.Forall₂ Chooses ps ss) (hps : areProper ps = true) :
    ∀ s ∈ ss, ∀ c ∈ s, isLiteral true c = true := by
  induction h with
  | nil => exact List.forall_mem_nil _
  | cons hs _ ih =>
    rw [areProper, Bool.and_eq_true] at hps
    exact List.forall_mem_cons.2 ⟨hs.isLiteral hps.1, ih hps.2⟩

theorem exists_forall₂_chooses (ps : List Braced) : ∃ ss, List.Forall₂ Chooses ps ss := by
  induction ps with
  | nil => exact ⟨[], .nil⟩
  | cons p ps ih =>
    obtain ⟨ss, hss⟩ := ih
    obtain ⟨s, hs⟩ := exists_chooses p
    exact ⟨s :: ss, .cons hs hss⟩

/-- To choose for all alternatives and then pick one is to pick one and choose for it. -/
theorem exists_mem_forall₂ {R : List Char → Prop} {ps : List Braced} :
    (∃ ss, List.Forall₂ Chooses ps ss ∧ ∃ s ∈ ss, R s) ↔ ∃ p ∈ ps, ∃ s, p.Chooses s ∧ R s := by
  induction ps with
  | nil =>
    refine iff_of_false (fun ⟨ss, hss, s, hs, _⟩ => ?_) fun ⟨p, hp, _⟩ => by cases hp
    cases hss
    cases hs
  | cons p ps ih =>
    constructor
    · rintro ⟨all, hall, u, hu, hr⟩
      cases hall with
      | cons hs hss =>
        rcases List.mem_cons.1 hu with rfl | hu
        · exact ⟨p, List.mem_cons_self, _, hs, hr⟩
        · obtain ⟨q, hq, hchosen⟩ := ih.1 ⟨_, hss, u, hu, hr⟩
          exact ⟨q, List.mem_cons_of_mem p hq, hchosen⟩
    · rintro ⟨q, hq, u, hu, hr⟩
      rcases List.mem_cons.1 hq with rfl | hq
      · obtain ⟨ss, hss⟩ := exists_forall₂_chooses ps
        exact ⟨u :: ss, .cons hu hss, u, List.mem_cons_self, hr⟩
      · obtain ⟨ss, hss, v, hv, hr⟩ := ih.2 ⟨q, hq, u, hu, hr⟩
        obtain ⟨s, hs⟩ := exists_chooses p
        exact ⟨s :: ss, .cons hs hss, v, List.mem_cons_of_mem s hv, hr⟩

/-- Texts one behind the other, each behind a comma. -/
def behindCommas (ss : List (List Char)) : List Char := ss.flatMap (',' :: ·)

theorem splitOn_behindCommas {s : List Char} {ss : List (List Char)}
    (h : ∀ t ∈ s :: ss, ',' ∉ t) : splitOn ',' (s ++ behindCommas ss) = s :: ss := by
  induction ss generalizing s with
  | nil => rw [behindCommas, List.flatMap_nil, List.append_nil,
      splitOn_of_notMem (h s List.mem_cons_self)]
  | cons t ss ih =>
    obtain ⟨hs, hss⟩ := List.forall_mem_cons.1 h
    rw [behindCommas, List.flatMap_cons, List.cons_append, splitOn_append, splitOn_of_notMem hs,
      ← behindCommas, ih hss]
    rfl

/-! ## Expanding along the structure -/

/-- A group of literal alternatives. -/
theorem mem_expansions_literals {x y r s t : List Char} {ss : List (List Char)}
    (h : ∀ u ∈ s :: t :: ss, ∀ c ∈ u, isLiteral true c = true) :
    r ∈ expansions (x ++ '\x7b' :: (s ++ behindCommas (t :: ss) ++ '\x7d' :: y)) ↔
      ∃ u ∈ s :: t :: ss, r ∈ expansions (x ++ u ++ y) := by
  have hbody : Braceless (s ++ behindCommas (t :: ss)) := by
    refine List.forall_mem_append.2 ⟨(braceless_of_isLiteral (h s List.mem_cons_self)).1, ?_⟩
    intro c hc
    obtain ⟨u, hu, hc⟩ := List.mem_flatMap.1 hc
    rcases List.mem_cons.1 hc with rfl | hc
    · decide
    · exact (braceless_of_isLiteral (h u (List.mem_cons_of_mem s hu))).1 c hc
  rw [mem_expansions_group (by simp [behindCommas]) hbody,
    splitOn_behindCommas fun u hu => comma_notMem_of_isLiteral (h u hu)]
  refine exists_congr fun u => and_congr_right fun hu => ?_
  rw [trimChars_of_forall (braceless_of_isLiteral (h u hu)).2]

mutual

/-- A pattern within a text may be expanded first: each text that it stands for takes its place. -/
theorem mem_expansions {r : List Char} : ∀ (p : Braced) {inGroup : Bool},
    p.isProper inGroup = true → ∀ x y : List Char,
      r ∈ expansions (x ++ p.text ++ y) ↔ ∃ s, p.Chooses s ∧ r ∈ expansions (x ++ s ++ y)
  | literal text, _, _, x, y =>
    ⟨fun hr => ⟨text, .literal text, hr⟩, fun ⟨_, hs, hr⟩ => by cases hs; exact hr⟩
  | append p q, inGroup, h, x, y => by
    rw [isProper, Bool.and_eq_true] at h
    rw [text, ← List.append_assoc, List.append_assoc _ q.text, mem_expansions p h.1]
    constructor
    · rintro ⟨s, hs, hr⟩
      rw [← List.append_assoc, mem_expansions q h.2] at hr
      obtain ⟨t, ht, hr⟩ := hr
      exact ⟨s ++ t, .append hs ht, by rwa [← List.append_assoc]⟩
    · rintro ⟨_, hst, hr⟩
      cases hst with
      | append hs ht =>
        refine ⟨_, hs, ?_⟩
        rw [← List.append_assoc, mem_expansions q h.2]
        exact ⟨_, ht, by rwa [← List.append_assoc] at hr⟩
  | group p q more, inGroup, h, x, y => by
    rw [isProper_group] at h
    obtain ⟨hp, hq, hmore⟩ : p.isProper true = true ∧ q.isProper true = true ∧
        areProper more = true := by
      rwa [areProper, areProper, Bool.and_eq_true, Bool.and_eq_true] at h
    have first := mem_expansions (r := r) p hp (x ++ ['\x7b'])
      (',' :: (q.text ++ (textBehind more ++ '\x7d' :: y)))
    have second := fun s => mem_expansions (r := r) q hq (x ++ '\x7b' :: (s ++ [',']))
      (textBehind more ++ '\x7d' :: y)
    have others := fun s t => mem_expansions_behind (r := r) more hmore
      (x ++ '\x7b' :: (s ++ ',' :: t)) ('\x7d' :: y)
    simp only [List.append_assoc, List.cons_append, List.nil_append] at first second others
    rw [text]
    simp only [List.append_assoc, List.cons_append, List.nil_append, first, second, others]
    -- All alternatives are literal now: the group is taken, and one of them stays.
    have taken : ∀ {s t : List Char} {ss : List (List Char)},
        List.Forall₂ Chooses (p :: q :: more) (s :: t :: ss) →
          (r ∈ expansions (x ++ '\x7b' :: (s ++ ',' :: (t ++ (behindCommas ss ++ '\x7d' :: y)))) ↔
            ∃ u ∈ s :: t :: ss, r ∈ expansions (x ++ (u ++ y))) := by
      intro s t ss hall
      simpa only [behindCommas, List.flatMap_cons, List.append_assoc, List.cons_append]
        using mem_expansions_literals (x := x) (y := y) (r := r) (isLiteral_forall₂ hall h)
    constructor
    · rintro ⟨s, hs, t, ht, ss, hss, hr⟩
      have hall : List.Forall₂ Chooses (p :: q :: more) (s :: t :: ss) := .cons hs (.cons ht hss)
      obtain ⟨p', hp', u, hu, hr⟩ := exists_mem_forall₂.1 ⟨_, hall, (taken hall).1 hr⟩
      exact ⟨u, .group hp' hu, hr⟩
    · rintro ⟨u, hu, hr⟩
      cases hu with
      | group hp' hu =>
        obtain ⟨all, hall, hpicked⟩ :=
          exists_mem_forall₂ (R := fun u => r ∈ expansions (x ++ (u ++ y))).2 ⟨_, hp', u, hu, hr⟩
        cases hall with
        | cons hs hrest =>
          cases hrest with
          | cons ht hss => exact ⟨_, hs, _, ht, _, hss, (taken (.cons hs (.cons ht hss))).2 hpicked⟩

/-- Likewise for the alternatives of a group. -/
theorem mem_expansions_behind {r : List Char} : ∀ ps : List Braced, areProper ps = true →
    ∀ x y : List Char, r ∈ expansions (x ++ textBehind ps ++ y) ↔
      ∃ ss, List.Forall₂ Chooses ps ss ∧ r ∈ expansions (x ++ behindCommas ss ++ y)
  | [], _, x, y => ⟨fun hr => ⟨[], .nil, hr⟩, fun ⟨_, hss, hr⟩ => by cases hss; exact hr⟩
  | p :: ps, h, x, y => by
    rw [areProper, Bool.and_eq_true] at h
    have first := mem_expansions (r := r) p h.1 (x ++ [',']) (textBehind ps ++ y)
    have others := fun s => mem_expansions_behind (r := r) ps h.2 (x ++ ',' :: s) y
    simp only [List.append_assoc, List.cons_append, List.nil_append] at first others
    rw [textBehind]
    simp only [List.append_assoc, List.cons_append, first, others]
    constructor
    · rintro ⟨s, hs, ss, hss, hr⟩
      refine ⟨s :: ss, .cons hs hss, ?_⟩
      rwa [behindCommas, List.flatMap_cons, List.append_assoc, List.cons_append]
    · rintro ⟨all, hall, hr⟩
      cases hall with
      | cons hs hss =>
        refine ⟨_, hs, _, hss, ?_⟩
        rwa [behindCommas, List.flatMap_cons, List.append_assoc, List.cons_append] at hr

end

end Braced

/-! ## The expansions of a pattern -/

theorem nodup_eraseDups {α : Type} [BEq α] [LawfulBEq α] (xs : List α) : xs.eraseDups.Nodup := by
  induction hn : xs.length using Nat.strongRecOn generalizing xs with
  | ind n ih =>
    cases xs with
    | nil => exact List.nodup_nil
    | cons x xs =>
      rw [List.eraseDups_cons]
      refine List.nodup_cons.2 ⟨fun hmem => ?_, ih _ ?_ _ rfl⟩
      · simp at hmem
      · rw [← hn, List.length_cons]
        exact Nat.lt_succ_of_le (List.length_filter_le ..)

/-- A pattern of literal text and groups, nested to any depth, expands to the texts that choose one
alternative for every group, each once, and there is an end to it: no larger bound on the number of
steps gives further expansions of any text. -/
theorem expandBraces_exact {p : Braced} (h : p.isProper false = true) :
    (∀ t bound, t.count '\x7b' ≤ bound → expandFrom bound t = expandFrom (t.count '\x7b') t) ∧
      (expandBraces (String.ofList p.text)).Nodup ∧
      ∀ s, s ∈ expandBraces (String.ofList p.text) ↔ p.Chooses s.toList := by
  refine ⟨fun t bound hbound => expandFrom_of_le hbound, nodup_eraseDups _, fun s => ?_⟩
  have hmem : s ∈ expandBraces (String.ofList p.text) ↔ s.toList ∈ expansions p.text := by
    rw [expandBraces, List.mem_eraseDups, List.mem_map, String.toList_ofList]
    constructor
    · rintro ⟨t, ht, rfl⟩
      rwa [String.toList_ofList]
    · exact fun hs => ⟨s.toList, hs, String.ofList_toList⟩
  have hexpansions := Braced.mem_expansions (r := s.toList) p h [] []
  rw [List.nil_append, List.append_nil] at hexpansions
  rw [hmem, hexpansions]
  have hend {t : List Char} (ht : p.Chooses t) : expansions ([] ++ t ++ []) = [t] := by
    rw [List.nil_append, List.append_nil]
    exact expansions_of_none (group?_braceless (Braced.braceless_of_isLiteral (ht.isLiteral h)).1)
  constructor
  · rintro ⟨t, ht, hs⟩
    rw [hend ht, List.mem_singleton] at hs
    rwa [hs]
  · intro ht
    exact ⟨_, ht, by rw [hend ht]; exact List.mem_singleton_self _⟩

/-- A group with an empty alternative within a group, and one behind it. -/
def sources : Braced :=
  .append (.group (.literal "a".toList)
      (.append (.literal "b".toList) (.group (.literal []) (.literal "c".toList) [])) [])
    (.append (.literal ",.".toList) (.group (.literal "b".toList) (.literal "bc".toList) []))

theorem expandBraces_exact_sources :
    String.ofList sources.text = "\x7ba,b\x7b,c\x7d\x7d,.\x7bb,bc\x7d" ∧
      sources.isProper false = true ∧
      expandBraces "\x7ba,b\x7b,c\x7d\x7d,.\x7bb,bc\x7d" =
        ["a,.b", "a,.bc", "b,.b", "b,.bc", "bc,.b", "bc,.bc"] ∧
      ∀ s, s ∈ expandBraces (String.ofList sources.text) ↔ sources.Chooses s.toList := by
  refine ⟨by decide +kernel, by decide +kernel, by decide +kernel, ?_⟩
  exact (expandBraces_exact (by decide +kernel)).2.2

end Glob

end StylePrune
