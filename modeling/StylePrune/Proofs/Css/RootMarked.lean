import StylePrune.Proofs.Css.Tightened

/-!
# Roots shown whatever the blanks

`MarksRoot` says that tokens show `:root` by themselves, blanks aside. Minifying keeps that
(`marksRoot_tightSelector`), and tokens whose comments are turned into spaces show nothing else
(`marksRoot_of_stripTokens`). Legible tokens are made of sound leaves (`Legible.sound`), so what they
show can be told from what is written of them.
-/

namespace StylePrune.Css

open Compact (Tight selectorTight declarationTight argumentTight)

/-! ## Sound tokens -/

mutual

theorem Token.mem_lexemes {l : Leaf} : ∀ t : Token, l ∈ t.leaves → .leaf l ∈ t.lexemes
  | .leaf p l', h => by
    rw [List.mem_singleton.1 h]
    exact List.mem_singleton_self _
  | .block _ b content _, h | .function _ b content _, h =>
    List.mem_cons_of_mem _ (List.mem_append_left _ (mem_lexemesOf content h))

theorem mem_lexemesOf {l : Leaf} : ∀ ts : List Token, l ∈ leavesOf ts → .leaf l ∈ lexemesOf ts
  | t :: rest, h => by
    rw [lexemesOf]
    rcases List.mem_append.1 h with h | h
    · exact List.mem_append_left _ (Token.mem_lexemes t h)
    · exact List.mem_append_right _ (mem_lexemesOf rest h)

end

theorem spelled_number {text : List Char} (h : IsNumber text) : Spelled (.number text) := by
  obtain ⟨n, rfl, -⟩ := h
  have hident := n.startsIdent_append []
  rw [List.append_nil] at hident
  obtain ⟨c, cs, hcs, -⟩ := n.exists_cons
  rw [hcs] at hident ⊢
  exact ⟨c, rfl, Lexer.isNameStart_of_not_startsIdent (by rw [hident]; decide)⟩

theorem spelled_mark {text : List Char} (h : IsMark text) : Spelled (.literal text) := by
  rcases h with rfl | rfl | rfl | ⟨c, hc, rfl⟩ | ⟨c, rfl, hc, -⟩
  · exact Lexer.spelled_literal rfl (List.forall_mem_cons.2 ⟨by decide,
      List.forall_mem_singleton.2 (by decide)⟩) (by decide)
  · exact Lexer.spelled_literal rfl (List.forall_mem_cons.2 ⟨by decide,
      List.forall_mem_cons.2 ⟨by decide, List.forall_mem_singleton.2 (by decide)⟩⟩) (by decide)
  · exact Lexer.spelled_literal rfl (List.forall_mem_singleton.2 (by decide)) (by decide)
  · have hsingle : ['~', '|', '^', '$', '*'].all
        (fun c => !Lexer.isNameStart c && c != ':') = true := by decide
    obtain ⟨hname, hcolon⟩ := Bool.and_eq_true_iff.1 (List.all_eq_true.1 hsingle c hc)
    exact Lexer.spelled_literal (Bool.not_eq_true' _ ▸ hname)
      (List.forall_mem_singleton.2 (by decide))
      fun h => absurd h (bne_iff_ne.1 hcolon)
  · simp only [Lexer.isDelimiter, Bool.and_eq_true, Bool.not_eq_true'] at hc
    exact Lexer.spelled_literal hc.1.1.1.1.1.2 (List.forall_mem_nil _) fun _ => rfl

theorem Leaf.isSound_of_granted {l : Leaf} (hg : l.Granted) (hf : l.isFirm = true) : l.IsSound := by
  cases l with
  | whitespace text => exact ⟨⟨hg.1, List.all_eq_true.1 hg.2⟩, rfl⟩
  | ident name => exact ⟨hg.ne_nil, rfl⟩
  | number text | percentage text => exact ⟨spelled_number hg, rfl⟩
  | dimension text unit => exact ⟨spelled_number hg.1, rfl⟩
  | literal text => exact ⟨spelled_mark hg, rfl⟩
  | string value ended => exact ⟨trivial, hf⟩
  | url value ended => exact ⟨trivial, (Bool.and_eq_true_iff.1 hf).1⟩
  | fault f =>
    obtain rfl := beq_iff_eq.1 hf
    exact ⟨trivial, rfl⟩
  | _ => exact ⟨trivial, rfl⟩

/-- Legible tokens are made of sound leaves. -/
theorem Legible.sound {ts : List Token} (h : Legible ts) : Sound ts := fun l hl => by
  obtain ⟨hg, hf⟩ := h.kept _ (mem_lexemesOf ts hl)
  exact Leaf.isSound_of_granted hg hf

theorem Leaf.isSound_space : (Leaf.whitespace [' ']).IsSound :=
  ⟨⟨List.cons_ne_nil _ _, List.forall_mem_singleton.2 rfl⟩, rfl⟩

mutual

theorem Token.sound_stripComments : ∀ t : Token, (∀ l ∈ t.leaves, l.IsSound) →
    ∀ l ∈ t.stripComments.leaves, l.IsSound
  | .leaf p l, h => by
    cases l with
    | comment =>
      rintro l hl
      obtain rfl := List.mem_singleton.1 hl
      exact Leaf.isSound_space
    | _ => exact h
  | .block _ _ content _, h | .function _ _ content _, h => sound_stripTokens content h

/-- Comments turned into spaces are sound. -/
theorem sound_stripTokens : ∀ ts : List Token, Sound ts → Sound (stripTokens ts)
  | [], h => h
  | t :: rest, h => by
    obtain ⟨ht, hrest⟩ := throughout_cons.1 h
    exact throughout_cons.2 ⟨Token.sound_stripComments t ht, sound_stripTokens rest hrest⟩

end

/-! ## Roots that tokens mark -/

mutual

def Token.MarksRoot : Token → Prop
  | .leaf p l => (Token.leaf p l).isBlank = false ∧ rootMark <:+: Serialize.leaf l
  | .block _ _ content _ => MarksRoot content
  | .function _ name arguments _ => rootMark <:+: Serialize.identifier name ∨ MarksRoot arguments

/-- Tokens show `:root`, and not in a comment. -/
def MarksRoot : List Token → Prop
  | [] => False
  | t :: rest =>
    t.MarksRoot ∨ (t.isLiteral ":" = true ∧ ∃ u ∈ rest.head?, u.StartsRoot) ∨ MarksRoot rest

end

variable {t : Token} {ts us : List Token}

theorem Token.not_marksRoot (h : t.isBlank = true) : ¬t.MarksRoot := by
  cases t with
  | leaf p l =>
    rintro ⟨hsolid, -⟩
    rw [h] at hsolid
    cases hsolid
  | block | function => cases h

theorem Token.isBlank_of_startsRoot (h : t.StartsRoot) : t.isBlank = false := by
  cases t with
  | leaf p l =>
    cases l with
    | ident => rfl
    | _ => cases h
  | block | function => rfl

theorem marksRoot_blank (h : t.isBlank = true) : MarksRoot (t :: ts) ↔ MarksRoot ts := by
  rw [MarksRoot, or_iff_right (Token.not_marksRoot h), or_iff_right]
  rintro ⟨hcolon, -⟩
  rw [Token.isLiteral_of_isBlank h] at hcolon
  cases hcolon

mutual

theorem Token.showsRoot_of_marksRoot : ∀ t : Token, t.MarksRoot → t.ShowsRoot
  | .leaf .., h => h.2
  | .block _ _ content _, h => showsRoot_of_marksRoot content h
  | .function _ _ arguments _, h => h.imp_right (showsRoot_of_marksRoot arguments)

theorem showsRoot_of_marksRoot : ∀ ts : List Token, MarksRoot ts → ShowsRoot ts
  | t :: rest, h =>
    h.imp (Token.showsRoot_of_marksRoot t) (Or.imp_right (showsRoot_of_marksRoot rest))

end

theorem not_infix_of_blank {text : List Char} (h : ∀ c ∈ text, Lexer.isSpace c = true) :
    ¬rootMark <:+: Text.ofChars text := by
  intro hmark
  have hcolon : Point.char ':' ∈ Text.ofChars text := hmark.subset List.mem_cons_self
  obtain ⟨c, hc, heq⟩ := List.mem_map.1 hcolon
  rw [Point.char.inj heq] at hc
  cases h ':' hc

theorem Token.startsRoot_stripComments : t.stripComments.StartsRoot ↔ t.StartsRoot := by
  cases t with
  | leaf p l => cases l <;> exact Iff.rfl
  | block | function => exact Iff.rfl

theorem Token.isLiteral_stripComments (text : String) :
    t.stripComments.isLiteral text = t.isLiteral text := by
  cases t with
  | leaf p l => cases l <;> rfl
  | block | function => rfl

theorem head?_stripTokens : (stripTokens ts).head? = ts.head?.map Token.stripComments := by
  cases ts <;> rfl

mutual

theorem Token.marksRoot_of_stripComments : ∀ t : Token, (∀ l ∈ t.leaves, l.IsSound) →
    t.stripComments.ShowsRoot → t.MarksRoot
  | .leaf p l, hsound, h => by
    cases l with
    | whitespace text => exact absurd h (not_infix_of_blank (hsound _ List.mem_cons_self).1.2)
    | comment => exact absurd h (not_infix_of_blank Leaf.isSound_space.1.2)
    | _ => exact ⟨rfl, h⟩
  | .block _ _ content _, hsound, h => marksRoot_of_stripTokens content hsound h
  | .function _ _ arguments _, hsound, h =>
    h.imp_right (marksRoot_of_stripTokens arguments hsound)

/-- What sound tokens show without their comments they mark. -/
theorem marksRoot_of_stripTokens : ∀ ts : List Token, Sound ts → ShowsRoot (stripTokens ts) →
    MarksRoot ts
  | t :: rest, hsound, h => by
    obtain ⟨ht, hrest⟩ := throughout_cons.1 hsound
    refine h.imp (Token.marksRoot_of_stripComments t ht)
      (Or.imp ?_ (marksRoot_of_stripTokens rest hrest))
    rw [Token.isLiteral_stripComments, head?_stripTokens]
    simp [Token.startsRoot_stripComments]

end

/-! ## Marks of the minified form -/

variable {tight : Tight}

theorem marksRoot_compactedAfter (h : MarksRoot ts) (loose blank : Bool) :
    MarksRoot (compactedAfter tight loose blank ts) := by
  induction ts generalizing loose blank with
  | nil => exact h.elim
  | cons t ts ih =>
    cases hblank : t.isBlank with
    | true =>
      rw [compactedAfter_blank hblank]
      exact ih ((marksRoot_blank hblank).1 h) loose true
    | false =>
      have hbehind : MarksRoot (t :: compactedAfter tight (!t.isTight tight) false ts) := by
        refine h.imp_right (Or.imp ?_ fun hts => ih hts _ false)
        rintro ⟨hcolon, u, hu, hroot⟩
        refine ⟨hcolon, u, ?_, hroot⟩
        obtain ⟨more, rfl⟩ := List.head?_eq_some_iff.1 hu
        rw [compactedAfter_cons (Token.isBlank_of_startsRoot hroot)]
        rfl
      rw [compactedAfter_cons hblank]
      rcases lead_cases tight loose blank t with ⟨-, hlead⟩ | ⟨-, hlead⟩
      · rw [hlead]
        exact (marksRoot_blank isBlank_space).2 hbehind
      · rw [hlead]
        exact hbehind

/-- A mark stands in the one part or the other, or a name in the other part is marked. -/
theorem marksRoot_append (h : MarksRoot (ts ++ us)) :
    MarksRoot ts ∨ (∃ u ∈ us.head?, u.StartsRoot) ∨ MarksRoot us := by
  induction ts with
  | nil => exact .inr (.inr h)
  | cons t ts ih =>
    rcases h with ht | ⟨hcolon, u, hu, hroot⟩ | hts
    · exact .inl (.inl ht)
    · cases ts with
      | nil => exact .inr (.inl ⟨u, hu, hroot⟩)
      | cons => exact .inl (.inr (.inl ⟨hcolon, u, hu, hroot⟩))
    · exact (ih hts).imp_left fun hts => .inr (.inr hts)

theorem marksRoot_append_left (h : MarksRoot ts) (us : List Token) : MarksRoot (ts ++ us) := by
  induction ts with
  | nil => exact h.elim
  | cons t ts ih =>
    refine h.imp_right (Or.imp ?_ ih)
    rintro ⟨hcolon, u, hu, hroot⟩
    exact ⟨hcolon, u, List.mem_head?_append_of_mem_head? hu, hroot⟩

theorem marksRoot_append_right (ts : List Token) (h : MarksRoot us) : MarksRoot (ts ++ us) := by
  induction ts with
  | nil => exact h
  | cons t ts ih => exact .inr (.inr ih)

theorem Token.not_startsRoot (h : t.endsStatement = true) : ¬t.StartsRoot := by
  cases t with
  | leaf p l =>
    cases l with
    | ident => cases h
    | _ => exact id
  | block => exact id
  | function => cases h

theorem marksRoot_compactedBlock (h : MarksRoot ts) : MarksRoot (compactedBlock [] ts) := by
  induction ts using statements_induction with
  | last ts hlast =>
    rw [compactedBlock_last hlast]
    exact marksRoot_compactedAfter h false false
  | next ts e rest hts he ih =>
    rw [compactedBlock_next hts he]
    rcases marksRoot_append h with hleft | ⟨u, hu, hroot⟩ | hend | ⟨hcolon, -⟩ | hrest
    · exact marksRoot_append_left (marksRoot_compactedAfter hleft false false) _
    · obtain rfl := Option.some.inj hu
      exact absurd hroot (Token.not_startsRoot he)
    · refine marksRoot_append_right _ ?_
      exact .inl hend
    · obtain ⟨p, rfl⟩ := Token.eq_of_isLiteral hcolon
      cases he
    · refine marksRoot_append_right _ ?_
      exact .inr (.inr (ih hrest))

theorem marksRoot_compactedContent (b : Bracket) (h : MarksRoot ts) :
    MarksRoot (compactedContent b ts) := by
  rw [compactedContent]
  split
  · exact marksRoot_compactedBlock h
  · exact marksRoot_compactedAfter h false false

mutual

theorem Token.marksRoot_compact : ∀ t : Token, t.MarksRoot → t.compact.MarksRoot
  | .leaf .., h => h
  | .block _ b content _, h => marksRoot_compactedContent b (marksRoot_compactEach content h)
  | .function _ _ arguments _, h =>
    h.imp_right fun h => marksRoot_compactedContent .paren (marksRoot_compactEach arguments h)

theorem marksRoot_compactEach : ∀ ts : List Token, MarksRoot ts → MarksRoot (compactEach ts)
  | t :: rest, h => by
    refine h.imp (Token.marksRoot_compact t) (Or.imp ?_ (marksRoot_compactEach rest))
    rintro ⟨hcolon, u, hu, hroot⟩
    obtain ⟨more, rfl⟩ := List.head?_eq_some_iff.1 hu
    refine ⟨Token.isLiteral_compact.trans hcolon, u.compact, rfl, ?_⟩
    cases u with
    | leaf | function => exact hroot
    | block => cases hroot

end

/-- Minifying a selector keeps the roots that it marks. -/
theorem marksRoot_tightSelector (h : MarksRoot ts) : MarksRoot (tightSelector ts) :=
  marksRoot_compactedAfter (marksRoot_compactEach ts h) false false

end StylePrune.Css
