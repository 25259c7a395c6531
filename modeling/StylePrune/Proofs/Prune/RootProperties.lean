import StylePrune.Proofs.Css.Compacted
import StylePrune.Proofs.Css.RootShown
import StylePrune.Proofs.Prune.Passes

/-!
# Rules about the root that declare properties

A rule stays whatever its classes if its selector shows `:root` and its block declares a property
whose name starts with two hyphens. `find_declaration_iff` says which declarations the search of a
block finds: it goes on behind each semicolon, and blanks play no part (`find_filter`).
-/

namespace StylePrune.Css

/-- The tokens start with a name that starts with two hyphens, and a colon. -/
def StartsCustom (ts : List Token) : Prop :=
  ∃ p name q rest, ts = .leaf p (.ident name) :: .leaf q (.literal [':']) :: rest ∧
    Text.ofString "--" <+: name

/-- Blanks aside, a property whose name starts with two hyphens is declared at the start of the
tokens or directly behind one that ends a statement. -/
def DeclaresCustom (ends : Token → Bool) (content : List Token) : Prop :=
  ∃ before rest, content.filter (fun t => !t.isBlank) = before ++ rest ∧ StartsCustom rest ∧
    ∀ t ∈ before.getLast?, ends t = true

namespace CustomProperties

theorem find_blank {t : Token} (h : t.isBlank = true) (expecting : Expecting) (ts : List Token) :
    find expecting (t :: ts) = find expecting ts := by
  cases t with
  | leaf p l =>
    cases l with
    | whitespace | comment => cases expecting <;> rfl
    | _ => cases h
  | block | function => cases h

/-- Blanks play no part in the search. -/
theorem find_filter : ∀ (expecting : Expecting) (ts : List Token),
    find expecting (ts.filter fun t => !t.isBlank) = find expecting ts
  | _, [] => rfl
  | expecting, t :: more => by
    have ih := fun expecting => find_filter expecting more
    by_cases hblank : t.isBlank = true
    · rw [List.filter_cons_of_neg (by simp [hblank]), ih, find_blank hblank]
    · rw [List.filter_cons_of_pos (by simp [hblank])]
      cases expecting <;> simp only [find, ih]

/-- Behind some semicolon among the tokens a declaration starts. -/
def Behind (ts : List Token) : Prop :=
  ∃ before t rest, ts = before ++ t :: rest ∧ t.isLiteral ";" = true ∧ StartsCustom rest

theorem behind_cons {t : Token} {ts : List Token} :
    Behind (t :: ts) ↔ (t.isLiteral ";" = true ∧ StartsCustom ts) ∨ Behind ts := by
  constructor
  · rintro ⟨before, u, rest, hts, hu, hrest⟩
    rcases before with _ | ⟨v, before⟩
    · obtain ⟨rfl, rfl⟩ := List.cons.inj hts
      exact .inl ⟨hu, hrest⟩
    · obtain ⟨-, rfl⟩ := List.cons.inj hts
      exact .inr ⟨before, u, rest, rfl, hu, hrest⟩
  · rintro (⟨ht, hts⟩ | ⟨before, u, rest, rfl, hu, hrest⟩)
    · exact ⟨[], t, ts, rfl, ht, hts⟩
    · exact ⟨t :: before, u, rest, rfl, hu, hrest⟩

theorem behind_cons_of_not {t : Token} {ts : List Token} (h : ¬t.isLiteral ";" = true) :
    Behind (t :: ts) ↔ Behind ts := by
  rw [behind_cons]
  exact or_iff_right fun hts => h hts.1

theorem startsCustom_cons {t : Token} {ts : List Token} :
    StartsCustom (t :: ts) ↔ (∃ p name, t = .leaf p (.ident name) ∧ Text.ofString "--" <+: name) ∧
      ∃ u ∈ ts.head?, u.isLiteral ":" = true := by
  constructor
  · rintro ⟨p, name, q, rest, hts, hname⟩
    obtain ⟨rfl, rfl⟩ := List.cons.inj hts
    exact ⟨⟨p, name, rfl, hname⟩, _, rfl, rfl⟩
  · rintro ⟨⟨p, name, rfl, hname⟩, u, hu, hcolon⟩
    obtain ⟨rest, rfl⟩ := List.head?_eq_some_iff.1 hu
    obtain ⟨q, rfl⟩ := Token.eq_of_isLiteral hcolon
    exact ⟨p, name, q, rest, rfl, hname⟩

theorem not_behind_nil : ¬Behind [] := by
  rintro ⟨before, t, rest, hnil, -⟩
  exact List.append_ne_nil_of_right_ne_nil before (List.cons_ne_nil t rest) hnil.symm

/-- What the search finds from each of its states. -/
def Finds : Expecting → List Token → Prop
  | .declaration, ts => StartsCustom ts ∨ Behind ts
  | .colon, ts => (∃ t ∈ ts.head?, t.isLiteral ":" = true) ∨ Behind ts
  | .rest, ts => Behind ts

theorem finds_semicolon {t : Token} (h : t.isLiteral ";" = true) (expecting : Expecting)
    (ts : List Token) : Finds expecting (t :: ts) ↔ Finds .declaration ts := by
  have hbehind : Behind (t :: ts) ↔ Finds .declaration ts := by
    rw [behind_cons, Finds, and_iff_right h]
  cases expecting with
  | declaration =>
    refine (or_iff_right fun hstarts => ?_).trans hbehind
    obtain ⟨⟨p, name, rfl, -⟩, -⟩ := startsCustom_cons.1 hstarts
    cases h
  | colon =>
    refine (or_iff_right ?_).trans hbehind
    rintro ⟨u, hu, hcolon⟩
    obtain rfl := Option.some.inj hu
    obtain ⟨_, rfl⟩ := Token.eq_of_isLiteral h
    cases hcolon
  | rest => exact hbehind

theorem find_iff (expecting : Expecting) (ts : List Token) (h : ∀ t ∈ ts, t.isBlank = false) :
    find expecting ts = true ↔ Finds expecting ts := by
  have passes : ∀ {t : Token} {more : List Token}, ¬StartsCustom (t :: more) →
      ¬t.isLiteral ";" = true → (Finds .rest more ↔ Finds .declaration (t :: more)) :=
    fun hstarts hend => (behind_cons_of_not hend).symm.trans (or_iff_right hstarts).symm
  fun_induction find expecting ts with
  | case1 expecting =>
    refine iff_of_false nofun fun hfinds => ?_
    cases expecting with
    | declaration =>
      rcases hfinds with ⟨_, _, _, _, hnil, -⟩ | hbehind
      · cases hnil
      · exact not_behind_nil hbehind
    | colon =>
      rcases hfinds with ⟨_, hnil, -⟩ | hbehind
      · cases hnil
      · exact not_behind_nil hbehind
    | rest => exact not_behind_nil hfinds
  | case2 expecting t more hblank => exact absurd (h t List.mem_cons_self) (by simp [hblank])
  | case3 t more _ hcolon => exact iff_of_true rfl (.inl ⟨t, rfl, hcolon⟩)
  | case4 t more _ _ hend ih | case6 t more _ hend ih | case10 t more _ hend ih =>
    exact (ih (List.forall_mem_cons.1 h).2).trans (finds_semicolon hend _ _).symm
  | case5 t more _ hcolon hend ih =>
    refine (ih (List.forall_mem_cons.1 h).2).trans ?_
    rw [Finds, Finds, behind_cons_of_not hend]
    refine (or_iff_right ?_).symm
    rintro ⟨u, hu, hu'⟩
    exact hcolon (Option.some.inj hu ▸ hu')
  | case7 more p first second tail hhyphens _ hend ih =>
    obtain ⟨hfirst, hsecond⟩ := Bool.and_eq_true_iff.1 hhyphens
    obtain rfl := of_decide_eq_true hfirst
    obtain rfl := of_decide_eq_true hsecond
    refine (ih (List.forall_mem_cons.1 h).2).trans ?_
    rw [Finds, Finds, behind_cons_of_not hend, startsCustom_cons]
    exact or_congr_left (and_iff_right ⟨_, _, rfl, tail, rfl⟩).symm
  | case8 more p first second tail hhyphens _ hend ih =>
    refine (ih (List.forall_mem_cons.1 h).2).trans ?_
    refine passes (fun hstarts => hhyphens ?_) hend
    obtain ⟨⟨_, _, htoken, rest, hname⟩, -⟩ := startsCustom_cons.1 hstarts
    cases htoken
    cases hname
    rfl
  | case9 t more _ hend hident ih =>
    refine (ih (List.forall_mem_cons.1 h).2).trans ?_
    refine passes (fun hstarts => ?_) hend
    obtain ⟨⟨p, _, rfl, rest, rfl⟩, -⟩ := startsCustom_cons.1 hstarts
    exact hident p _ _ rest rfl
  | case11 t more _ hend ih =>
    refine (ih (List.forall_mem_cons.1 h).2).trans ?_
    rw [Finds, Finds, behind_cons_of_not hend]

end CustomProperties

/-- A block declares a custom property just if one stands at its start or behind a semicolon. -/
theorem declaresCustomProperty_iff (content : List Token) :
    declaresCustomProperty content = true ↔ DeclaresCustom (·.isLiteral ";") content := by
  rw [declaresCustomProperty, ← CustomProperties.find_filter, CustomProperties.find_iff]
  · constructor
    · rintro (hstarts | ⟨before, t, rest, hcontent, ht, hstarts⟩)
      · exact ⟨[], _, rfl, hstarts, nofun⟩
      · refine ⟨before ++ [t], rest, by rw [hcontent, List.append_assoc]; rfl, hstarts, ?_⟩
        rw [List.getLast?_concat]
        exact fun u hu => Option.some.inj hu ▸ ht
    · rintro ⟨before, rest, hcontent, hstarts, hend⟩
      rw [hcontent]
      rcases List.eq_nil_or_concat before with rfl | ⟨before, t, rfl⟩
      · exact .inl hstarts
      · rw [List.concat_eq_append, List.getLast?_concat] at hend
        refine .inr ⟨before, t, rest, ?_, hend t rfl, hstarts⟩
        simp
  · intro t ht
    simpa using (List.mem_filter.1 ht).2

/-! ## The pseudo-class -/

mutual

def Token.namesRoot : Token → Bool
  | .function _ _ arguments _ => Css.namesRoot arguments
  | .block _ .paren content _ => Css.namesRoot content
  | _ => false

/-- Whether tokens hold the pseudo-class `:root`, letters of either case, outside comments, strings
and attribute selectors. -/
def namesRoot : List Token → Bool
  | [] => false
  | t :: rest =>
    t.namesRoot || (t.isLiteral ":" && rest.head?.any isRoot) || namesRoot rest
where
  isRoot : Token → Bool
    | .leaf _ (.ident name) => Lexer.asciiLower name = Text.ofString "root"
    | _ => false

end

end StylePrune.Css

namespace StylePrune.Prune

open Css

theorem occursIn_iff {part : Text} : ∀ t : Text, occursIn part t = true ↔ part <:+: t
  | [] => by rw [occursIn, List.isEmpty_iff, List.infix_nil]
  | p :: rest => by
    rw [occursIn, Bool.or_eq_true, List.isPrefixOf_iff_prefix, occursIn_iff rest,
      List.infix_cons_iff]

/-- A rule is kept for its custom properties only if its selector shows `:root` and its block
declares such a property at the start of a statement. If the selector shows `:root` and a
declaration stands at the start of the block or directly behind a semicolon, blanks aside, the rule
is kept. -/
theorem declaresRootProperties_exact {css : List Char} {s : Sheet} (h : Css.read css = .ok s)
    {r : Rule} (hr : r ∈ rules s) :
    (declaresRootProperties r = true →
      ShowsRoot r.selector ∧ DeclaresCustom Token.endsStatement r.content) ∧
    (ShowsRoot r.selector → DeclaresCustom (·.isLiteral ";") r.content →
      declaresRootProperties r = true) := by
  have hsound : Sound r.selector := by
    rw [rules_eq] at hr
    obtain ⟨x, hx, rfl⟩ := List.mem_map.1 hr
    exact sound_selectors h x hx
  have hshown : occursIn (Text.ofString ":root") r.selectorText = true ↔ ShowsRoot r.selector :=
    (occursIn_iff _).trans (infix_selectorText_iff hsound)
  rw [declaresRootProperties, Bool.and_eq_true, hshown, declaresCustomProperty_iff]
  refine ⟨?_, And.intro⟩
  rintro ⟨hroot, before, rest, hcontent, hstarts, hend⟩
  refine ⟨hroot, before, rest, hcontent, hstarts, fun t ht => ?_⟩
  rw [Token.endsStatement, Bool.or_eq_true]
  exact .inl (hend t ht)

/-- A declaration behind a semicolon and a comment is found. -/
theorem declaresRootProperties_exact_second :
    ∃ s r, Css.read ".a:root\x7bb:c;/**/--d :e\x7d".toList = .ok s ∧ r ∈ rules s ∧
      declaresRootProperties r = true ∧ ShowsRoot r.selector ∧
      DeclaresCustom Token.endsStatement r.content := by
  have read : (match Css.read ".a:root\x7bb:c;/**/--d :e\x7d".toList with
      | .ok s =>
        (rules s).any fun r => declaresRootProperties r && declaresCustomProperty r.content
      | .error _ => false) = true := by decide +kernel
  cases hs : Css.read ".a:root\x7bb:c;/**/--d :e\x7d".toList with
  | error e => rw [hs] at read; cases read
  | ok s =>
    rw [hs, List.any_eq_true] at read
    obtain ⟨r, hr, hkept⟩ := read
    obtain ⟨hkept, hdeclares⟩ := Bool.and_eq_true_iff.1 hkept
    have hexact := declaresRootProperties_exact hs hr
    exact ⟨s, r, rfl, hr, hexact.2 (hexact.1 hkept).1 ((declaresCustomProperty_iff _).1 hdeclares),
      hexact.1 hkept⟩

/-- The text of a selector is searched, not its tokens: a comment and a longer name count, and
capital letters do not. -/
theorem declaresRootProperties_text :
    ([".x/*:root*/\x7b--b:1\x7d", ":rooted\x7b--b:1\x7d", ":ROOT\x7b--b:1\x7d"].map fun css =>
      (Css.read css.toList).toOption.map fun s => (rules s).map fun r =>
        (declaresRootProperties r, namesRoot r.selector && declaresCustomProperty r.content)) =
      [some [(true, false)], some [(true, false)], some [(false, true)]] := by
  decide +kernel

end StylePrune.Prune
