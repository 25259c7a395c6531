import StylePrune.Css.Selector
import StylePrune.Proofs.Css.Endings
import StylePrune.Proofs.Css.Unplaced

/-!
# Where the text of a selector shows `:root`

A selector that is written out contains the text `:root` just if one of its tokens does, or a colon
stands directly before a name that starts with `root` (`infix_selectorText_iff`). Text does not run
on from one token into the next otherwise: only names start with a letter of the word
(`Token.start_of_sound`), and all but a colon is parted from a name behind it or ends in no
character of the mark (`Token.last_of_sound`), so long as the tokens are spelled as the lexer spells
them and nothing is broken off.
-/

namespace StylePrune.Css

/-! ## Texts within texts -/

section

variable {α : Type} {part xs ys : List α}

theorem infix_append_of_getLast (h : ∀ x ∈ xs.getLast?, x ∉ part) :
    part <:+: xs ++ ys ↔ part <:+: xs ∨ part <:+: ys := by
  rw [List.infix_append_iff]
  refine ⟨?_, Or.imp_right .inl⟩
  rintro (hx | hy | ⟨p, q, rfl, hp, hq⟩)
  · exact .inl hx
  · exact .inr hy
  · rcases p.eq_nil_or_concat with rfl | ⟨p, c, rfl⟩
    · exact .inr hq.isInfix
    · obtain ⟨before, rfl⟩ := hp
      exact absurd (by simp) (h c (by simp))

theorem infix_append_of_head (h : ∀ y ∈ ys.head?, y ∉ part) :
    part <:+: xs ++ ys ↔ part <:+: xs ∨ part <:+: ys := by
  rw [List.infix_append_iff]
  refine ⟨?_, Or.imp_right .inl⟩
  rintro (hx | hy | ⟨p, q, rfl, hp, hq⟩)
  · exact .inl hx
  · exact .inr hy
  · rcases q with _ | ⟨c, q⟩
    · rw [List.append_nil]
      exact .inl hp.isInfix
    · obtain ⟨rest, rfl⟩ := hq
      exact absurd (by simp) (h c (by simp))

theorem prefix_of_prefix_append (h : ∀ y ∈ ys.head?, y ∉ part) (hpart : part <+: xs ++ ys) :
    part <+: xs := by
  rcases List.prefix_or_prefix_of_prefix hpart (List.prefix_append xs ys) with hx | ⟨q, rfl⟩
  · exact hx
  · rw [List.prefix_append_right_inj] at hpart
    rcases q with _ | ⟨c, q⟩
    · exact List.prefix_iff_eq_append.2 (by simp)
    · obtain ⟨rest, rfl⟩ := hpart
      exact absurd (by simp) (h c (by simp))

/-- A text is not looked for in text that has nothing of it. -/
theorem infix_append_of_disjoint (hne : part ≠ []) (h : ∀ x ∈ xs, x ∉ part) :
    part <:+: xs ++ ys ↔ part <:+: ys := by
  obtain ⟨c, rest, rfl⟩ := List.exists_cons_of_ne_nil hne
  rw [infix_append_of_getLast fun x hx => h x (List.mem_of_getLast? hx)]
  refine or_iff_right fun hpart => ?_
  exact h c (hpart.subset List.mem_cons_self) List.mem_cons_self

theorem infix_dropWhile_iff {blank : α → Bool} (hne : part ≠ [])
    (h : ∀ x ∈ part, blank x = false) : part <:+: xs.dropWhile blank ↔ part <:+: xs := by
  conv => rhs; rw [← List.takeWhile_append_dropWhile (p := blank) (l := xs)]
  refine (infix_append_of_disjoint hne fun x hx hmem => ?_).symm
  exact absurd (List.all_eq_true.1 List.all_takeWhile x hx) (by simp [h x hmem])

theorem append_infix_of_disjoint (hne : part ≠ []) (h : ∀ y ∈ ys, y ∉ part) :
    part <:+: xs ++ ys ↔ part <:+: xs := by
  obtain ⟨c, rest, rfl⟩ := List.exists_cons_of_ne_nil hne
  rw [infix_append_of_head fun y hy => h y (List.mem_of_head? hy)]
  refine or_iff_left fun hpart => ?_
  exact h c (hpart.subset List.mem_cons_self) List.mem_cons_self

end

def rootWord : Text := Text.ofString "root"

/-- The text that a rule about the root of a document is known by. -/
def rootMark : Text := .char ':' :: rootWord

/-! ## Names -/

namespace Serialize

/-- The text of one point of a name: the point itself, or an escape for what is no letter. -/
def Writes (p : Point) (text : Text) : Prop :=
  text = [p] ∨ (∃ more, text = .char '\\' :: more) ∧ ∀ c, isAsciiLetter c = true → p ≠ .char c

theorem writes_escaped {c : Char} (h : isAsciiLetter c = false) : Writes (.char c) (escaped c) := by
  refine .inr ⟨?_, ?_⟩
  · unfold escaped
    repeat' split
    · exact ⟨_, rfl⟩
    · exact ⟨_, rfl⟩
    · exact ⟨_, rfl⟩
    · exact ⟨[.char c], by simp [Text.ofString, Text.ofChars]⟩
  · rintro d hd ⟨⟩
    exact absurd (h.symm.trans hd) nofun

theorem writes_namePoint (p : Point) : Writes p (namePoint p) := by
  fun_cases namePoint p with
  | case1 | case3 => exact .inl rfl
  | case2 c h =>
    exact writes_escaped (Bool.eq_false_iff.2 fun hletter => h (by simp [hletter]))

theorem writes_firstPoint (p : Point) : Writes p (firstPoint p) := by
  fun_cases firstPoint p with
  | case1 | case4 => exact .inl rfl
  | case2 c h hdigit =>
    refine .inr ⟨⟨_, rfl⟩, ?_⟩
    rintro d hd ⟨⟩
    exact h (by simp [hd])
  | case3 c h =>
    exact writes_escaped (Bool.eq_false_iff.2 fun hletter => h (by simp [hletter]))

theorem Writes.cons_prefix_iff {p : Point} {text : Text} (h : Writes p text) {c : Char}
    (hc : isAsciiLetter c = true) (word xs : Text) :
    .char c :: word <+: text ++ xs ↔ .char c = p ∧ word <+: xs := by
  rcases h with rfl | ⟨⟨more, rfl⟩, hp⟩
  · exact List.cons_prefix_cons
  · rw [List.cons_append, List.cons_prefix_cons]
    refine iff_of_false ?_ fun h => hp c hc h.1.symm
    rintro ⟨⟨⟩, -⟩
    exact absurd hc (by decide)

theorem prefix_name_iff : ∀ {word : List Char}, (∀ c ∈ word, isAsciiLetter c = true) →
    ∀ value : Text, Text.ofChars word <+: name value ↔ Text.ofChars word <+: value
  | [], _, _ => iff_of_true List.nil_prefix List.nil_prefix
  | c :: word, h, [] => Iff.rfl
  | c :: word, h, p :: value => by
    obtain ⟨hc, hword⟩ := List.forall_mem_cons.1 h
    rw [name, List.flatMap_cons, Text.ofChars, List.map_cons,
      (writes_namePoint p).cons_prefix_iff hc, List.cons_prefix_cons]
    exact and_congr_right fun _ => prefix_name_iff hword value

/-- A name is written with letters at its start just if it starts with them. -/
theorem prefix_identifier_iff {c : Char} {word : List Char}
    (h : ∀ d ∈ c :: word, isAsciiLetter d = true) (value : Text) :
    Text.ofChars (c :: word) <+: identifier value ↔ Text.ofChars (c :: word) <+: value := by
  obtain ⟨hc, hword⟩ := List.forall_mem_cons.1 h
  have hyphen : ∀ p : Point, p.is '-' = true → .char c ≠ p := by
    rintro p hp rfl
    cases of_decide_eq_true hp
    exact absurd hc (by decide)
  rw [Text.ofChars, List.map_cons]
  fun_cases identifier value with
  | case1 => exact Iff.rfl
  | case2 p hp =>
    have hwritten : Text.ofString "\\-" = [.char '\\', .char '-'] := rfl
    refine iff_of_false (fun h => ?_) fun h => hyphen p hp (List.cons_prefix_cons.1 h).1
    rw [hwritten, List.cons_prefix_cons] at h
    rw [Point.char.inj h.1] at hc
    exact absurd hc (by decide)
  | case3 p hp q more | case4 p hp q more =>
    refine iff_of_false (fun h => ?_) fun h => hyphen p hp (List.cons_prefix_cons.1 h).1
    exact hyphen p hp (List.cons_prefix_cons.1 h).1
  | case5 p rest =>
    rw [(writes_firstPoint p).cons_prefix_iff hc, List.cons_prefix_cons]
    exact and_congr_right fun _ => prefix_name_iff hword rest

theorem identifier_ne_nil {value : Text} (h : value ≠ []) : identifier value ≠ [] := by
  have hfirst : ∀ p, firstPoint p ≠ [] := fun p => by
    rcases writes_firstPoint p with hp | ⟨⟨more, hp⟩, -⟩ <;> simp [hp]
  fun_cases identifier value with
  | case1 => exact absurd rfl h
  | case2 => exact nofun
  | _ => simp [hfirst]

end Serialize

/-! ## Tokens -/

/-- An identifier or a function whose name starts with `root`. -/
def Token.StartsRoot : Token → Prop
  | .leaf _ (.ident name) | .function _ name _ _ => rootWord <+: name
  | _ => False

mutual

def Token.ShowsRoot : Token → Prop
  | .leaf _ l => rootMark <:+: Serialize.leaf l
  | .block _ _ content _ => ShowsRoot content
  | .function _ name arguments _ => rootMark <:+: Serialize.identifier name ∨ ShowsRoot arguments

/-- At some depth of the tokens a colon stands directly before a name that starts with `root`, or
one token has `:root` in its own text, such as a comment, a string, or a name with an escaped
colon. -/
def ShowsRoot : List Token → Prop
  | [] => False
  | t :: rest =>
    t.ShowsRoot ∨ (t.isLiteral ":" = true ∧ ∃ u ∈ rest.head?, u.StartsRoot) ∨ ShowsRoot rest

end

/-- Leaves as the lexer gives them, but for those that the end of the text broke off. -/
def Leaf.IsSound (l : Leaf) : Prop := Spelled l ∧ l.isWhole = true

def Token.isNamed : Token → Bool
  | .leaf _ (.ident _) | .function .. => true
  | _ => false

open Serialize (tokensAfter separator kind)

theorem rootMark_ne_nil : rootMark ≠ [] := List.cons_ne_nil _ _

/-- Letters are written as they are. -/
theorem rootWord_prefix_identifier (name : Text) :
    rootWord <+: Serialize.identifier name ↔ rootWord <+: name := by
  have hletters : ∀ c ∈ ['r', 'o', 'o', 't'], Serialize.isAsciiLetter c = true := fun c hc => by
    simp only [List.mem_cons, List.not_mem_nil, or_false] at hc
    rcases hc with rfl | rfl | rfl | rfl <;> rfl
  exact Serialize.prefix_identifier_iff hletters name

theorem isNameStart_of_mem_rootWord {c : Char} (h : .char c ∈ rootWord) :
    Lexer.isNameStart c = true := by
  have hc : c = 'r' ∨ c = 'o' ∨ c = 'o' ∨ c = 't' := by
    simpa [rootWord, Text.ofString, Text.ofChars] using h
  rcases hc with rfl | rfl | rfl | rfl <;> rfl

theorem not_mem_rootMark_of_isSpace {c : Char} (h : Lexer.isSpace c = true) :
    .char c ∉ rootMark := by
  have hc : c = ' ' ∨ c = '\n' ∨ c = '\t' := by simpa [Lexer.isSpace, or_assoc] using h
  rcases hc with rfl | rfl | rfl <;> decide

theorem not_mem_separator {a b : Serialize.Kind} : ∀ p ∈ separator a b, p ∉ rootMark := by
  have hcomment : ∀ p ∈ Text.ofString "/**/", p ∉ rootMark := by decide
  unfold separator
  split
  · exact hcomment
  · split
    · split
      · exact nofun
      · decide
    · exact nofun

/-- Text that starts with a letter of the word is a name. -/
theorem Token.start_of_sound (t : Token) (h : ∀ l ∈ t.leaves, l.IsSound) :
    ∃ p text, Serialize.token t = p :: text ∧ (p ∈ rootWord → t.isNamed = true) := by
  have absent : ∀ {c : Char} {text : Text} {t : Token}, Lexer.isNameStart c = false →
      ∃ p text', .char c :: text = p :: text' ∧ (p ∈ rootWord → t.isNamed = true) :=
    fun hc => ⟨_, _, rfl, fun hmem => absurd (isNameStart_of_mem_rootWord hmem) (by simp [hc])⟩
  cases t with
  | leaf q l =>
    obtain ⟨hspelled, hwhole⟩ := h l (List.mem_singleton_self l)
    cases l with
    | ident name =>
      obtain ⟨p, text, htext⟩ := List.exists_cons_of_ne_nil (Serialize.identifier_ne_nil hspelled)
      exact ⟨p, text, htext, fun _ => rfl⟩
    | whitespace text =>
      obtain ⟨c, more, rfl⟩ := List.exists_cons_of_ne_nil hspelled.1
      have hspace := not_mem_rootMark_of_isSpace (hspelled.2 c List.mem_cons_self)
      exact ⟨.char c, _, rfl, fun hmem => absurd (List.mem_cons_of_mem _ hmem) hspace⟩
    | number text | percentage text | dimension text unit =>
      obtain ⟨c, hhead, hc⟩ := hspelled
      obtain ⟨more, rfl⟩ := List.head?_eq_some_iff.1 hhead
      exact absent hc
    | literal text =>
      obtain ⟨c, more, rfl⟩ := List.exists_cons_of_ne_nil hspelled.1
      exact absent (hspelled.2.1 c List.mem_cons_self)
    | fault f =>
      cases f with
      | unmatched b => cases b <;> exact absent rfl
      | badString => exact absent (c := '"') rfl
      | badUrl => exact ⟨.char 'u', _, rfl, fun hmem => absurd hmem (by decide)⟩
      | eofInString | eofInUrl => cases hwhole
    | url => exact ⟨.char 'u', _, rfl, fun hmem => absurd hmem (by decide)⟩
    | unicodeRange => exact ⟨.char 'U', _, rfl, fun hmem => absurd hmem (by decide)⟩
    | _ => exact absent rfl
  | block q b content closed =>
    cases b <;> exact absent rfl
  | function q name arguments closed =>
    obtain ⟨p, text, htext⟩ := List.exists_cons_of_ne_nil
      (l := Serialize.token (.function q name arguments closed)) (by simp [Serialize.token])
    exact ⟨p, text, htext, fun _ => rfl⟩

theorem separator_ne_nil {a : Serialize.Kind} (hident : Serialize.runsTogether a .ident = true)
    (hfunction : Serialize.runsTogether a .function = true) {u : Token} (hu : u.isNamed = true) :
    separator a (kind u) ≠ [] := by
  have hrun : Serialize.runsTogether a (kind u) = true := by
    cases u with
    | leaf p l =>
      cases l with
      | ident => exact hident
      | _ => cases hu
    | function => exact hfunction
    | block => cases hu
  unfold separator
  rw [if_pos hrun]
  exact nofun

/-- Text that ends in a character of the mark is a colon, or is parted from a name behind it. -/
theorem Token.last_of_sound (t : Token) (h : ∀ l ∈ t.leaves, l.IsSound) {p : Point}
    (hp : p ∈ (Serialize.token t).getLast?) (hmark : p ∈ rootMark) :
    t.isLiteral ":" = true ∨ ∀ u : Token, u.isNamed = true → separator (kind t) (kind u) ≠ [] := by
  have absent : ∀ {xs : Text} {c : Char}, Serialize.token t = xs ++ [.char c] →
      .char c ∉ rootMark → False := fun {xs c} htext hc => by
    rw [htext, List.getLast?_concat] at hp
    exact hc (Option.some.inj hp ▸ hmark)
  cases t with
  | leaf q l =>
    obtain ⟨hspelled, hwhole⟩ := h l (List.mem_singleton_self l)
    cases l with
    | whitespace text =>
      obtain ⟨c, hc, rfl⟩ := List.mem_map.1 (List.mem_of_getLast? hp)
      exact absurd hmark (not_mem_rootMark_of_isSpace (hspelled.2 c hc))
    | literal text =>
      obtain ⟨c, hc, rfl⟩ := List.mem_map.1 (List.mem_of_getLast? hp)
      have hcolon : c = ':' := by
        rcases List.mem_cons.1 hmark with hcolon | hword
        · exact Point.char.inj hcolon
        · exact absurd (isNameStart_of_mem_rootWord hword) (by simp [hspelled.2.1 c hc])
      rw [hspelled.2.2 (hcolon ▸ hc)]
      exact .inl rfl
    | percentage text =>
      have htext : Serialize.token (.leaf q (.percentage text)) =
          Text.ofChars text ++ [.char '%'] := List.map_append
      exact (absent htext (by decide)).elim
    | string value ended =>
      obtain rfl : ended = true := hwhole
      exact (absent (c := '"') rfl (by decide)).elim
    | url value ended =>
      obtain rfl : ended = true := hwhole
      exact (absent (c := ')') rfl (by decide)).elim
    | comment text =>
      have htext : Serialize.token (.leaf q (.comment text)) =
          Text.ofChars ('/' :: '*' :: text ++ ['*']) ++ [.char '/'] := by
        simp [Serialize.token, Serialize.leaf, Text.ofChars]
      exact (absent htext (by decide)).elim
    | fault f =>
      cases f with
      | unmatched b =>
        have htext : Serialize.token (.leaf q (.fault (.unmatched b))) = [] ++ [.char b.closer] :=
          rfl
        exact (absent htext (by cases b <;> decide)).elim
      | badString =>
        have htext : Serialize.token (.leaf q (.fault .badString)) =
            Text.ofString "\"[bad string]" ++ [.char '\n'] := rfl
        exact (absent htext (by decide)).elim
      | badUrl =>
        have htext : Serialize.token (.leaf q (.fault .badUrl)) =
            Text.ofString "url([bad url]" ++ [.char ')'] := rfl
        exact (absent htext (by decide)).elim
      | eofInString | eofInUrl => cases hwhole
    | _ => exact .inr fun u hu => separator_ne_nil rfl rfl hu
  | block q b content closed =>
    have htext : Serialize.token (.block q b content closed) =
        (.char b.opener :: tokensAfter none content) ++ [.char b.closer] := by
      rw [Serialize.token]
    exact (absent htext (by cases b <;> decide)).elim
  | function q name arguments closed =>
    have hbroken := Css.endsBroken_eq_false arguments fun l hl => (h l hl).2
    have htext : Serialize.token (.function q name arguments closed) =
        (Serialize.identifier name ++ .char '(' :: tokensAfter none arguments) ++ [.char ')'] := by
      rw [Serialize.token, endInBrokenString_eq, hbroken, if_neg Bool.false_ne_true]
    exact (absent htext (by decide)).elim

/-! ## Neighbours -/

/-- Tokens whose leaves are all sound. -/
abbrev Sound (ts : List Token) : Prop := Throughout Leaf.IsSound ts

theorem start_tokensAfter {k : Serialize.Kind} {u : Token} {rest : List Token}
    (h : Sound (u :: rest)) {p : Point} (hp : p ∈ (tokensAfter (some k) (u :: rest)).head?)
    (hword : p ∈ rootWord) : separator k (kind u) = [] ∧ u.isNamed = true := by
  obtain ⟨q, text, htext, hnamed⟩ := u.start_of_sound (throughout_cons.1 h).1
  rw [tokensAfter, htext] at hp
  cases hseparator : separator k (kind u) with
  | nil =>
    rw [hseparator] at hp
    obtain rfl : q = p := Option.some.inj hp
    exact ⟨rfl, hnamed hword⟩
  | cons e more =>
    rw [hseparator] at hp
    obtain rfl : e = p := Option.some.inj hp
    have hmem : e ∈ separator k (kind u) := hseparator ▸ List.mem_cons_self
    exact absurd (List.mem_cons_of_mem _ hword) (not_mem_separator e hmem)

/-- A name at the start of what is written, with nothing of it in what follows. -/
theorem startsRoot_of_prefix {k : Serialize.Kind} {u : Token} {rest : List Token}
    (h : Sound (u :: rest)) (hseparator : separator k (kind u) = []) (hnamed : u.isNamed = true)
    (hword : rootWord <+: tokensAfter (some k) (u :: rest)) : u.StartsRoot := by
  rw [tokensAfter, hseparator, List.nil_append] at hword
  cases u with
  | leaf p l =>
    cases l with
    | ident name =>
      refine (rootWord_prefix_identifier name).1
        (prefix_of_prefix_append (fun q hq hmem => ?_) hword)
      cases rest with
      | nil => cases hq
      | cons v more =>
        obtain ⟨hnone, hv⟩ := start_tokensAfter (throughout_cons.1 h).2 hq hmem
        exact separator_ne_nil rfl rfl hv hnone
    | _ => cases hnamed
  | function p name arguments closed =>
    rw [Serialize.token, List.append_assoc, List.append_assoc] at hword
    refine (rootWord_prefix_identifier name).1
      (prefix_of_prefix_append (fun q hq => ?_) hword)
    obtain rfl : .char '(' = q := Option.some.inj hq
    decide
  | block => cases hnamed

/-- Where the mark runs on from a token into the next ones. -/
theorem colon_of_straddle {t : Token} {rest : List Token} (h : Sound (t :: rest)) {p q : Text}
    (hmark : rootMark = p ++ q) (hp : p ≠ []) (hq : q ≠ []) (hpt : p <:+ Serialize.token t)
    (hqr : q <+: tokensAfter (some (kind t)) rest) :
    t.isLiteral ":" = true ∧ ∃ u ∈ rest.head?, u.StartsRoot := by
  obtain ⟨ht, hrest⟩ := throughout_cons.1 h
  obtain ⟨first, p, rfl⟩ := List.exists_cons_of_ne_nil hp
  obtain ⟨d, q, rfl⟩ := List.exists_cons_of_ne_nil hq
  obtain ⟨rfl, hword⟩ := List.cons.inj hmark
  have hd : d ∈ (tokensAfter (some (kind t)) rest).head? := by
    obtain ⟨more, hmore⟩ := hqr
    rw [← hmore]
    rfl
  cases rest with
  | nil => cases hd
  | cons u more =>
    obtain ⟨hseparator, hnamed⟩ := start_tokensAfter hrest hd (by rw [hword]; simp)
    have hlast : (.char ':' :: p).getLast hp ∈ (Serialize.token t).getLast? := by
      obtain ⟨before, hbefore⟩ := hpt
      rw [← hbefore, List.getLast?_append, List.getLast?_eq_some_getLast hp]
      rfl
    have hcolon : t.isLiteral ":" = true := by
      refine (t.last_of_sound ht hlast ?_).resolve_right fun hparted => ?_
      · rw [hmark]
        exact List.mem_append_left _ (List.getLast_mem hp)
      · exact hparted u hnamed hseparator
    refine ⟨hcolon, u, rfl, startsRoot_of_prefix hrest hseparator hnamed ?_⟩
    obtain ⟨_, rfl⟩ := Token.eq_of_isLiteral hcolon
    obtain rfl : p = [] :=
      List.length_eq_zero_iff.1 (Nat.le_zero.1 (Nat.le_of_succ_le_succ hpt.length_le))
    rwa [hword]

/-- A colon before a name is written right before it. -/
theorem straddle_of_colon {t u : Token} {rest : List Token} (ht : t.isLiteral ":" = true)
    (hu : u.StartsRoot) : rootWord <+: tokensAfter (some (kind t)) (u :: rest) := by
  obtain ⟨_, rfl⟩ := Token.eq_of_isLiteral ht
  have hseparator : separator (.literal [':']) (kind u) = [] := rfl
  rw [show kind _ = .literal [':'] from rfl, tokensAfter, hseparator, List.nil_append]
  cases u with
  | leaf p l =>
    cases l with
    | ident name =>
      exact ((rootWord_prefix_identifier name).2 hu).trans (List.prefix_append _ _)
    | _ => cases hu
  | function p name arguments closed =>
    refine ((rootWord_prefix_identifier name).2 hu).trans ?_
    rw [Serialize.token, List.append_assoc, List.append_assoc]
    exact List.prefix_append _ _
  | block => cases hu

/-! ## Selectors -/

mutual

theorem Token.infix_token_iff : ∀ t : Token, (∀ l ∈ t.leaves, l.IsSound) →
    (rootMark <:+: Serialize.token t ↔ t.ShowsRoot)
  | .leaf p l, _ => Iff.rfl
  | .block p b content closed, h => by
    have hopener : ∀ q ∈ [Point.char b.opener], q ∉ rootMark := by cases b <;> decide
    have hcloser : ∀ q ∈ [Point.char b.closer], q ∉ rootMark := by cases b <;> decide
    rw [Serialize.token, append_infix_of_disjoint rootMark_ne_nil hcloser, ← List.singleton_append,
      infix_append_of_disjoint rootMark_ne_nil hopener, infix_tokensAfter_iff content none h]
    rfl
  | .function p name arguments closed, h => by
    have hopener : ∀ q ∈ [Point.char '('], q ∉ rootMark := by decide
    have hcloser : ∀ q ∈ (if Serialize.endInBrokenString arguments then [] else [Point.char ')']),
        q ∉ rootMark := by
      split
      · exact nofun
      · decide
    rw [Serialize.token, append_infix_of_disjoint rootMark_ne_nil hcloser,
      infix_append_of_head fun q hq => hopener q (by simpa using hq.symm), ← List.singleton_append,
      infix_append_of_disjoint rootMark_ne_nil hopener, infix_tokensAfter_iff arguments none h]
    rfl

theorem infix_tokensAfter_iff : ∀ (ts : List Token) (previous : Option Serialize.Kind), Sound ts →
    (rootMark <:+: tokensAfter previous ts ↔ ShowsRoot ts)
  | [], _, _ => iff_of_false (fun h => rootMark_ne_nil (List.infix_nil.1 h)) id
  | t :: rest, previous, h => by
    obtain ⟨ht, hrest⟩ := throughout_cons.1 h
    have ih := infix_tokensAfter_iff rest (some (kind t)) hrest
    have hbetween : rootMark <:+: tokensAfter previous (t :: rest) ↔
        rootMark <:+: Serialize.token t ++ tokensAfter (some (kind t)) rest := by
      cases previous with
      | none => rfl
      | some k =>
        rw [tokensAfter, List.append_assoc,
          infix_append_of_disjoint rootMark_ne_nil not_mem_separator]
    rw [hbetween, List.infix_append_iff, ih, ShowsRoot]
    refine ⟨?_, ?_⟩
    · rintro (hself | hmore | ⟨p, q, hmark, hp, hq⟩)
      · exact .inl ((Token.infix_token_iff t ht).1 hself)
      · exact .inr (.inr hmore)
      by_cases hpnil : p = []
      · rw [hpnil, List.nil_append] at hmark
        exact .inr (.inr (ih.1 (hmark ▸ hq.isInfix)))
      by_cases hqnil : q = []
      · rw [hqnil, List.append_nil] at hmark
        exact .inl ((Token.infix_token_iff t ht).1 (hmark ▸ hp.isInfix))
      · exact .inr (.inl (colon_of_straddle h hmark hpnil hqnil hp hq))
    · rintro (hself | ⟨hcolon, u, hu, hroot⟩ | hmore)
      · exact .inl ((Token.infix_token_iff t ht).2 hself)
      · obtain ⟨more, rfl⟩ := List.head?_eq_some_iff.1 hu
        refine .inr (.inr ⟨[.char ':'], rootWord, rfl, ?_, straddle_of_colon hcolon hroot⟩)
        obtain ⟨_, rfl⟩ := Token.eq_of_isLiteral hcolon
        exact List.suffix_rfl
      · exact .inr (.inl hmore)

end

/-- The selector of a rule as text contains the mark just if its tokens show it. -/
theorem infix_selectorText_iff {r : Rule} (h : Sound r.selector) :
    rootMark <:+: r.selectorText ↔ ShowsRoot r.selector := by
  have hblank : ∀ p ∈ rootMark, (isBlankCode ∘ Point.code) p = false := by decide
  have hreverse : rootMark.reverse ≠ [] := by simp [rootMark_ne_nil]
  rw [← infix_tokensAfter_iff r.selector none h, Rule.selectorText, trimText, dropWhileEnd,
    ← List.reverse_infix, List.reverse_reverse,
    infix_dropWhile_iff hreverse fun p hp => hblank p (List.mem_reverse.1 hp), List.reverse_infix,
    infix_dropWhile_iff rootMark_ne_nil hblank, Serialize.tokens]

/-- The selectors of a style sheet are sound. -/
theorem sound_selectors {css : List Char} {s : Sheet} (h : read css = .ok s) :
    ∀ x ∈ s.placed, Sound x.2.selector := fun x hx l hl =>
  ⟨spelled_selectors h [] x hx l hl, whole_selectors h [] x hx l hl⟩

end StylePrune.Css
