import StylePrune.Proofs.Css.Forms
import StylePrune.Proofs.Css.RootShown

/-!
# The minified form

A tree is minified by leaving out the nodes that are blank and, between tokens, all blanks but for a
space where neighbours need it. That is a lawful form (`tight_lawful`). Legible tokens stay legible
if those that come to stand side by side do not clash (`tight_shows`), and what is written of a tree
without its comments is the text of its tokens in this form (`generateAll_tight`).
-/

namespace StylePrune.Css

open Compact (Tight selectorTight declarationTight argumentTight)

/-! ## Compact lists -/

section

variable (t : Token)

@[simp] theorem Token.bare_compact : t.compact.bare = t.bare := by cases t <;> rfl

@[simp] theorem Token.first_compact : t.compact.first = t.first := by cases t <;> rfl

@[simp] theorem Token.last_compact : t.compact.last = t.last := by cases t <;> rfl

end

theorem compactEach_eq (ts : List Token) : compactEach ts = ts.map Token.compact := by
  induction ts with
  | nil => rfl
  | cons t ts ih => rw [compactEach, ih, List.map_cons]

theorem compactEach_append (ts us : List Token) :
    compactEach (ts ++ us) = compactEach ts ++ compactEach us := by
  rw [compactEach_eq, compactEach_eq, compactEach_eq, List.map_append]

theorem outline_compactEach (ts : List Token) : outline (compactEach ts) = outline ts := by
  rw [compactEach_eq, outline, outline, List.filter_map, List.map_map]
  simp [Function.comp_def]

variable {tight : Tight} {loose blank : Bool} {t : Token}

theorem compactedAfter_blank (h : t.isBlank = true) (rest : List Token) :
    compactedAfter tight loose blank (t :: rest) = compactedAfter tight loose true rest := by
  rw [compactedAfter, if_pos h]

/-- The space before a token, if it needs one. -/
def lead (tight : Tight) (loose blank : Bool) (t : Token) : List Token :=
  if blank && loose && !t.isTight tight then [space] else []

theorem compactedAfter_cons (h : t.isBlank = false) (rest : List Token) :
    compactedAfter tight loose blank (t :: rest) =
      lead tight loose blank t ++ t :: compactedAfter tight (!t.isTight tight) false rest := by
  rw [compactedAfter, if_neg (by rw [h]; decide)]
  rfl

theorem lead_cases (tight : Tight) (loose blank : Bool) (t : Token) :
    ((blank && loose && !t.isTight tight) = true ∧ lead tight loose blank t = [space]) ∨
      ((blank && loose && !t.isTight tight) = false ∧ lead tight loose blank t = []) := by
  rw [lead]
  cases blank && loose && !t.isTight tight with
  | true => exact .inl ⟨rfl, rfl⟩
  | false => exact .inr ⟨rfl, rfl⟩

theorem isBlank_space : space.isBlank = true := rfl

theorem space_compact : space.compact = space := rfl

/-- Blanks before tokens with nothing before them that needs a space play no part. -/
theorem compactedAfter_not_loose (ts : List Token) (blank : Bool) :
    compactedAfter tight false blank ts = compacted tight ts := by
  rw [compacted]
  cases ts with
  | nil => rfl
  | cons t ts =>
    cases h : t.isBlank with
    | true => rw [compactedAfter_blank h, compactedAfter_blank h]
    | false =>
      rw [compactedAfter_cons h, compactedAfter_cons h, lead, lead, Bool.and_false, Bool.and_false]

theorem outline_compactedAfter (ts : List Token) (loose blank : Bool) :
    outline (compactedAfter tight loose blank ts) = outline ts := by
  induction ts generalizing loose blank with
  | nil => rfl
  | cons t ts ih =>
    cases h : t.isBlank with
    | true => rw [compactedAfter_blank h, ih, outline_blank h]
    | false =>
      rw [compactedAfter_cons h, outline_append, outline_cons h, outline_cons h, ih]
      rcases lead_cases tight loose blank t with ⟨-, hlead⟩ | ⟨-, hlead⟩ <;> rw [hlead] <;> rfl

theorem compactEach_compactedAfter (ts : List Token) (loose blank : Bool) :
    compactEach (compactedAfter tight loose blank ts) =
      compactedAfter tight loose blank (compactEach ts) := by
  induction ts generalizing loose blank with
  | nil => rfl
  | cons t ts ih =>
    cases h : t.isBlank with
    | true => rw [compactedAfter_blank h, ih, compactEach, compactedAfter_blank (by simp [h])]
    | false =>
      have hlead : compactEach (lead tight loose blank t) = lead tight loose blank t.compact := by
        rw [lead, lead, Token.isTight_compact]
        split <;> rfl
      rw [compactedAfter_cons h, compactEach_append, hlead, compactEach, ih, compactEach,
        compactedAfter_cons (by simp [h]), Token.isTight_compact]

/-- Compact tokens are as compact as they get. -/
theorem compactedAfter_again (ts : List Token) (loose blank : Bool) :
    compactedAfter tight loose false (compactedAfter tight loose blank ts) =
      compactedAfter tight loose blank ts := by
  induction ts generalizing loose blank with
  | nil => rfl
  | cons t ts ih =>
    cases h : t.isBlank with
    | true => rw [compactedAfter_blank h, ih]
    | false =>
      rw [compactedAfter_cons h]
      rcases lead_cases tight loose blank t with ⟨hneeds, hlead⟩ | ⟨-, hlead⟩
      · simp only [Bool.and_eq_true] at hneeds
        rw [hlead, List.singleton_append, compactedAfter_blank isBlank_space,
          compactedAfter_cons h, ih,
          lead, hneeds.1.2, hneeds.2]
        rfl
      · rw [hlead, List.nil_append, compactedAfter_cons h, ih, lead, Bool.false_and, Bool.false_and,
          if_neg Bool.false_ne_true, List.nil_append]

/-! ## Blocks, statement by statement -/

/-- The delimiters that need no space beside them in a statement with this end. -/
def tightBefore (ending : Token) : Tight :=
  if ending.isLiteral ";" then declarationTight else selectorTight

/-- The statements of a block: all tokens up to the end of one, and the rest behind the last end. -/
theorem statements_induction {motive : List Token → Prop}
    (last : ∀ ts, ts.all (!·.endsStatement) = true → motive ts)
    (next : ∀ ts e rest, ts.all (!·.endsStatement) = true → e.endsStatement = true → motive rest →
      motive (ts ++ e :: rest)) (ts : List Token) : motive ts := by
  suffices h : ∀ (ts statement : List Token), statement.all (!·.endsStatement) = true →
      motive (statement ++ ts) from h ts [] rfl
  intro ts
  induction ts with
  | nil =>
    intro statement h
    rw [List.append_nil]
    exact last statement h
  | cons t ts ih =>
    intro statement h
    cases ht : t.endsStatement with
    | true => exact next statement t ts h ht (ih [] rfl)
    | false =>
      rw [List.append_cons]
      exact ih (statement ++ [t]) (by rw [List.all_append, h]; simp [ht])

theorem compactedBlock_run {ts : List Token} (h : ts.all (!·.endsStatement) = true)
    (statement rest : List Token) :
    compactedBlock statement (ts ++ rest) = compactedBlock (ts.reverse ++ statement) rest := by
  induction ts generalizing statement with
  | nil => rfl
  | cons t ts ih =>
    obtain ⟨ht, hts⟩ := Bool.and_eq_true_iff.1 h
    simp only [Token.endsStatement, Bool.not_eq_true', Bool.or_eq_false_iff] at ht
    rw [List.cons_append, compactedBlock, if_neg (by rw [ht.1]; decide),
      if_neg (by rw [ht.2]; decide), ih hts, List.reverse_cons, List.append_assoc]
    rfl

theorem compactedBlock_last {ts : List Token} (h : ts.all (!·.endsStatement) = true) :
    compactedBlock [] ts = compacted declarationTight ts := by
  have hrun := compactedBlock_run h [] []
  rw [List.append_nil, List.append_nil, compactedBlock, List.reverse_reverse] at hrun
  exact hrun

theorem compactedBlock_next {ts : List Token} (h : ts.all (!·.endsStatement) = true) {e : Token}
    (he : e.endsStatement = true) (rest : List Token) :
    compactedBlock [] (ts ++ e :: rest) =
      compacted (tightBefore e) ts ++ e :: compactedBlock [] rest := by
  rw [compactedBlock_run h, List.append_nil, compactedBlock, List.reverse_reverse, tightBefore]
  split
  · rfl
  · rename_i hsemicolon
    rw [Token.endsStatement, Bool.or_eq_true] at he
    rw [if_pos (he.resolve_left hsemicolon)]

theorem endsStatement_bare (t : Token) : t.bare.endsStatement = t.endsStatement := by
  rw [Token.endsStatement, Token.endsStatement, Token.isLiteral_bare, Token.isCurly_bare]

theorem endsStatement_of_isBlank (h : t.isBlank = true) : t.endsStatement = false := by
  rw [Token.endsStatement, Token.isLiteral_of_isBlank h, Token.isCurly_of_isBlank h]
  rfl

theorem isBlank_of_endsStatement (h : t.endsStatement = true) : t.isBlank = false :=
  Bool.eq_false_iff.2 fun hblank => by
    rw [endsStatement_of_isBlank hblank] at h
    cases h

theorem all_of_outline {ts us : List Token} (h : outline us = outline ts) :
    us.all (!·.endsStatement) = ts.all (!·.endsStatement) := by
  have hbare (t : Token) : (!t.bare.endsStatement) = !t.endsStatement :=
    congrArg _ (endsStatement_bare t)
  have hblank (t : Token) (h : t.isBlank = true) : (!t.endsStatement) = true := by
    rw [endsStatement_of_isBlank h]
    rfl
  rw [← all_outline hbare hblank us, h, all_outline hbare hblank]

theorem outline_compactedBlock (ts : List Token) : outline (compactedBlock [] ts) = outline ts := by
  induction ts using statements_induction with
  | last ts h => rw [compactedBlock_last h, compacted, outline_compactedAfter]
  | next ts e rest h he ih =>
    have hblank := isBlank_of_endsStatement he
    rw [compactedBlock_next h he, outline_append, outline_append, compacted, outline_compactedAfter,
      outline_cons hblank, outline_cons hblank, ih]

theorem compactEach_compactedBlock (ts : List Token) :
    compactEach (compactedBlock [] ts) = compactedBlock [] (compactEach ts) := by
  induction ts using statements_induction with
  | last ts h =>
    rw [compactedBlock_last h, compacted, compactEach_compactedAfter, compactedBlock_last,
      compacted]
    rw [all_of_outline (outline_compactEach ts), h]
  | next ts e rest h he ih =>
    have heach : (compactEach ts).all (!·.endsStatement) = true := by
      rw [all_of_outline (outline_compactEach ts), h]
    have hends : e.compact.endsStatement = true := by
      rw [← endsStatement_bare, Token.bare_compact, endsStatement_bare, he]
    have htight : tightBefore e.compact = tightBefore e := by
      rw [tightBefore, Token.isLiteral_compact, tightBefore]
    rw [compactedBlock_next h he, compactEach_append, compacted, compactEach_compactedAfter,
      compactEach, ih, compactEach_append, compactEach, compactedBlock_next heach hends, htight,
      compacted]

theorem compactedBlock_again (ts : List Token) :
    compactedBlock [] (compactedBlock [] ts) = compactedBlock [] ts := by
  induction ts using statements_induction with
  | last ts h =>
    rw [compactedBlock_last h, compactedBlock_last, compacted, compacted, compactedAfter_again]
    rw [compacted, all_of_outline (outline_compactedAfter ts false false), h]
  | next ts e rest h he ih =>
    have hlist : (compacted (tightBefore e) ts).all (!·.endsStatement) = true := by
      rw [compacted, all_of_outline (outline_compactedAfter ts false false), h]
    rw [compactedBlock_next h he, compactedBlock_next hlist he, ih, compacted, compacted,
      compactedAfter_again]

theorem compactEach_content (b : Bracket) (ts : List Token) :
    compactEach (compactedContent b ts) = compactedContent b (compactEach ts) := by
  rw [compactedContent, compactedContent]
  split
  · exact compactEach_compactedBlock ts
  · exact compactEach_compactedAfter ts false false

theorem content_again (b : Bracket) (ts : List Token) :
    compactedContent b (compactedContent b ts) = compactedContent b ts := by
  simp only [compactedContent]
  split
  · exact compactedBlock_again ts
  · exact compactedAfter_again ts false false

mutual

theorem Token.compact_compact : ∀ t : Token, t.compact.compact = t.compact
  | .leaf .. => rfl
  | .block p b content closed => by
    simp only [Token.compact, compactEach_content, compactEach_again content, content_again]
  | .function p name arguments closed => by
    simp only [Token.compact, compactEach_content, compactEach_again arguments, content_again]

theorem compactEach_again : ∀ ts : List Token, compactEach (compactEach ts) = compactEach ts
  | [] => rfl
  | t :: rest => by
    rw [compactEach, compactEach, Token.compact_compact t, compactEach_again rest]

end

/-! ## The form -/

/-- Tokens behind a space, if anything is written of them. -/
def led (ts : List Token) : List Token := if (textOf ts).isEmpty then ts else space :: ts

def tightSelector (ts : List Token) : List Token := compacted selectorTight (compactEach ts)

def tightPrelude (ts : List Token) : List Token := led (compacted argumentTight (compactEach ts))

def tightContent (ts : List Token) : List Token := compactedBlock [] (compactEach ts)

def dropBlanks (ns : List Node) : List Node := ns.filter (!·.isBlank)

def tightForm : Form := ⟨tightSelector, tightPrelude, tightContent, dropBlanks⟩

theorem compacted_again (tight : Tight) (ts : List Token) :
    compacted tight (compactEach (compacted tight (compactEach ts))) =
      compacted tight (compactEach ts) := by
  rw [compacted, compacted, compactEach_compactedAfter, compactEach_again, compactedAfter_again]

theorem tidies_selector : Tidies tightSelector where
  outline ts := (outline_compactedAfter _ _ _).trans (outline_compactEach ts)
  again := compacted_again selectorTight

theorem tidies_prelude : Tidies tightPrelude where
  outline ts := by
    have hled (us : List Token) : outline (led us) = outline us := by
      rw [led]
      split <;> rfl
    rw [tightPrelude, hled, compacted, outline_compactedAfter, outline_compactEach]
  again ts := by
    have hled (us : List Token) :
        compacted argumentTight (compactEach (led us)) =
          compacted argumentTight (compactEach us) := by
      rw [led]
      split
      · rfl
      · rw [compactEach, space_compact, compacted, compactedAfter_blank isBlank_space,
          compactedAfter_not_loose]
    rw [tightPrelude, tightPrelude, hled, compacted_again]

theorem tidies_content : Tidies tightContent where
  outline ts := (outline_compactedBlock _).trans (outline_compactEach ts)
  again ts := by
    rw [tightContent, tightContent, compactEach_compactedBlock, compactEach_again,
      compactedBlock_again]

theorem arranges_dropBlanks : Arranges dropBlanks where
  mem hm := .inl (List.mem_of_mem_filter hm)
  legible h m hm := h m (List.mem_of_mem_filter hm)
  again ns := by
    rw [dropBlanks, dropBlanks, List.filter_filter]
    simp
  blank ns := by
    rw [dropBlanks, List.all_filter]
    simp
  apart ns := by
    induction ns with
    | nil => exact .nil
    | cons n ns ih =>
      rw [dropBlanks, List.filter_cons]
      cases h : n.isBlank with
      | true => exact ih
      | false =>
        have hspace : n.isWhitespace = false := Bool.eq_false_iff.2 fun hw => by
          rw [Node.blank_of_whitespace hw] at h
          cases h
        refine List.isChain_cons.2 ⟨fun m _ => ?_, ih⟩
        rw [hspace, Bool.false_and]

/-! ## Selectors -/

/-- The delimiters of all places. -/
def marks : List Char := [',', '>', '+', '~', ':']

open Rule.selectors (split)

theorem split_compactEach (ts : List Token) :
    split (compactEach ts) = (split ts).map compactEach := by
  induction ts with
  | nil => rfl
  | cons t ts ih =>
    rw [compactEach, split, split, Token.isLiteral_compact, ih]
    split
    · rfl
    · cases split ts <;> rfl

/-- A comma needs no space beside it, so the parts of a selector list are minified one by one. -/
theorem split_compactedAfter (ts : List Token) (loose blank : Bool) :
    ∃ s more, split ts = s :: more ∧ split (compactedAfter selectorTight loose blank ts) =
      compactedAfter selectorTight loose blank s :: more.map (compacted selectorTight) := by
  induction ts generalizing loose blank with
  | nil => exact ⟨[], [], rfl, rfl⟩
  | cons t ts ih =>
    by_cases hcomma : t.isLiteral "," = true
    · obtain ⟨p, rfl⟩ := Token.eq_of_isLiteral hcomma
      obtain ⟨s, more, hs, hsplit⟩ := ih false false
      refine ⟨[], s :: more, by rw [split, if_pos hcomma, hs], ?_⟩
      have htight : (Token.leaf p (.literal ",".toList)).isTight selectorTight = true := rfl
      rw [compactedAfter_cons rfl, lead, htight, Bool.not_true, Bool.and_false,
        if_neg Bool.false_ne_true, List.nil_append, split, if_pos hcomma, hsplit]
      rfl
    · have hthere {s : List Token} {more : List (List Token)} (h : split ts = s :: more) :
          split (t :: ts) = (t :: s) :: more := by
        rw [split, if_neg hcomma, h]
      cases hblank : t.isBlank with
      | true =>
        obtain ⟨s, more, hs, hsplit⟩ := ih loose true
        refine ⟨t :: s, more, hthere hs, ?_⟩
        rw [compactedAfter_blank hblank, hsplit, compactedAfter_blank hblank]
      | false =>
        obtain ⟨s, more, hs, hsplit⟩ := ih (!t.isTight selectorTight) false
        refine ⟨t :: s, more, hthere hs, ?_⟩
        have hbehind :
            split (t :: compactedAfter selectorTight (!t.isTight selectorTight) false ts) =
            (t :: compactedAfter selectorTight (!t.isTight selectorTight) false s) ::
              more.map (compacted selectorTight) := by
          rw [split, if_neg hcomma, hsplit]
        rw [compactedAfter_cons hblank, compactedAfter_cons hblank]
        rcases lead_cases selectorTight loose blank t with ⟨-, hlead⟩ | ⟨-, hlead⟩
        · rw [hlead, List.singleton_append, split, if_neg (by decide), hbehind,
            List.singleton_append]
        · rw [hlead, List.nil_append, hbehind, List.nil_append]

theorem split_tightSelector (ts : List Token) :
    split (tightSelector ts) = (split ts).map tightSelector := by
  obtain ⟨s, more, hs, hsplit⟩ := split_compactedAfter (compactEach ts) false false
  have heach := split_compactEach ts
  rw [tightSelector, compacted, hsplit]
  rw [hs] at heach
  have hmap : (split ts).map tightSelector =
      ((split ts).map compactEach).map (compacted selectorTight) := by
    rw [List.map_map]
    rfl
  rw [hmap, ← heach]
  rfl

theorem firstPoint_ne_mark {c : Char} (hc : c ∈ marks) (p : Point) (more : Text) :
    Serialize.firstPoint p ++ more ≠ [.char c] := by
  have hescape {text : Text} : .char '\\' :: text ≠ [Point.char c] := fun h => by
    obtain rfl := Point.char.inj (List.cons.inj h).1
    revert hc
    decide
  have hword : (Serialize.isAsciiLetter c || c = '_' || c.toNat > 0x7F) = false := by
    have hall : marks.all (fun c => !(Serialize.isAsciiLetter c || c = '_' || c.toNat > 0x7F)) =
        true := by decide
    exact Bool.not_eq_true' _ ▸ List.all_eq_true.1 hall c hc
  fun_cases Serialize.firstPoint p with
  | case1 d hd =>
    intro h
    obtain rfl := Point.char.inj (List.cons.inj h).1
    rw [hword] at hd
    cases hd
  | case2 => exact hescape
  | case3 d =>
    unfold Serialize.escaped
    split
    · exact hescape
    split
    · exact hescape
    split
    · exact hescape
    · rw [Text.ofString, String.toList_ofList]
      exact hescape
  | case4 => exact fun h => by cases (List.cons.inj h).1

/-- A name is not written as a mark. -/
theorem identifier_ne_mark {c : Char} (hc : c ∈ marks) (name : Text) :
    Serialize.identifier name ≠ [.char c] := by
  have two {p q : Point} {text : Text} : p :: q :: text ≠ [Point.char c] := fun h => by cases h
  fun_cases Serialize.identifier name with
  | case1 => exact fun h => by cases h
  | case2 | case3 => exact two
  | case4 p hp q more hq =>
    have hfirst := Serialize.identifier_ne_nil (List.cons_ne_nil q [])
    rw [Serialize.identifier, if_neg hq] at hfirst
    intro h
    rw [List.cons_append] at h
    exact hfirst (by rw [(List.append_eq_nil_iff.1 (List.cons.inj h).2).1]; rfl)
  | case5 p rest => exact firstPoint_ne_mark hc p _

/-- Delimiters that stand for themselves alone. -/
def OnlyMarks (tight : Tight) : Prop := ∀ c ∈ tight, c ∈ marks

theorem onlyMarks_selector : OnlyMarks selectorTight := by
  intro c hc
  exact List.subset_def.1 (by decide : selectorTight ⊆ marks) hc

theorem onlyMarks_declaration : OnlyMarks declarationTight := by
  intro c hc
  exact List.subset_def.1 (by decide : declarationTight ⊆ marks) hc

theorem onlyMarks_argument : OnlyMarks argumentTight := by
  intro c hc
  exact List.subset_def.1 (by decide : argumentTight ⊆ marks) hc

theorem classNamesOf_tight (h : OnlyMarks tight) (ht : t.isTight tight = true) (dotted : Bool) :
    classNamesOf dotted t = classNamesOf false t := by
  cases t with
  | leaf p l =>
    cases l with
    | ident name =>
      obtain ⟨c, htext, hc⟩ := char_of_isTight ht
      exact absurd htext (identifier_ne_mark (h c hc) name)
    | _ => rfl
  | block | function => cases ht

theorem isTight_dot (h : OnlyMarks tight) (ht : t.isLiteral "." = true) :
    t.isTight tight = false := by
  obtain ⟨p, rfl⟩ := Token.eq_of_isLiteral ht
  refine Bool.eq_false_iff.2 fun hdot => ?_
  have htight : Compact.isTight tight [.char '.'] = true := hdot
  obtain ⟨c, htext, hc⟩ := char_of_isTight htight
  obtain rfl := Point.char.inj (List.cons.inj htext).1
  have hmark := h '.' hc
  revert hmark
  decide

theorem classNamesOf_blank (h : t.isBlank = true) (dotted : Bool) : classNamesOf dotted t = [] := by
  cases t with
  | leaf p l =>
    cases l with
    | ident => cases h
    | _ => rfl
  | block | function => cases h

/-- The blanks that are left out stand behind no dot that a name could follow. -/
theorem classNamesAfter_compactedAfter (h : OnlyMarks tight) (ts : List Token)
    (loose blank dotted : Bool) (hdot : dotted = true → loose = true) :
    classNamesAfter dotted (compactedAfter tight loose blank ts) =
      classNamesAfter (dotted && !blank) ts := by
  induction ts generalizing loose blank dotted with
  | nil => rfl
  | cons t ts ih =>
    cases hblank : t.isBlank with
    | true =>
      rw [compactedAfter_blank hblank, ih loose true dotted hdot, classNamesAfter,
        classNamesOf_blank hblank, Token.isLiteral_of_isBlank hblank, Bool.not_true,
        Bool.and_false, List.nil_append]
    | false =>
      have hrest := ih (!t.isTight tight) false (t.isLiteral ".") fun ht => by
        rw [isTight_dot h ht]
        rfl
      rw [Bool.not_false, Bool.and_true] at hrest
      rw [compactedAfter_cons hblank]
      rcases lead_cases tight loose blank t with ⟨hneeds, hlead⟩ | ⟨hneeds, hlead⟩
      · simp only [Bool.and_eq_true] at hneeds
        rw [hlead, List.singleton_append, classNamesAfter, classNamesAfter, hrest, hneeds.1.1,
          Bool.not_true, Bool.and_false, classNamesAfter, classNamesOf_blank isBlank_space]
        rfl
      · have hname : classNamesOf dotted t = classNamesOf (dotted && !blank) t := by
          cases dotted with
          | false => rfl
          | true =>
            rw [hdot rfl, Bool.and_true] at hneeds
            cases blank with
            | false => rfl
            | true => exact classNamesOf_tight h (by simpa using hneeds) true
        rw [hlead, List.nil_append, classNamesAfter, hrest, classNamesAfter, hname]

theorem classNames_compacted (h : OnlyMarks tight) (ts : List Token) :
    classNamesAfter false (compacted tight ts) = classNamesAfter false ts :=
  classNamesAfter_compactedAfter h ts false false false fun h => h

mutual

theorem classNamesOf_compact : ∀ (t : Token) (dotted : Bool),
    classNamesOf dotted t.compact = classNamesOf dotted t
  | .leaf .., _ => rfl
  | .block _ .paren content _, _ => by
    rw [Token.compact, classNamesOf, classNamesOf, compactedContent, if_neg (by decide),
      classNames_compacted onlyMarks_argument, classNamesAfter_compactEach content]
  | .block _ .square _ _, _ | .block _ .curly _ _, _ => rfl
  | .function _ _ arguments _, _ => by
    rw [Token.compact, classNamesOf, classNamesOf, compactedContent, if_neg (by decide),
      classNames_compacted onlyMarks_argument, classNamesAfter_compactEach arguments]

theorem classNamesAfter_compactEach : ∀ (ts : List Token) (dotted : Bool),
    classNamesAfter dotted (compactEach ts) = classNamesAfter dotted ts
  | [], _ => rfl
  | t :: rest, dotted => by
    rw [compactEach, classNamesAfter, classNamesOf_compact t, Token.isLiteral_compact,
      classNamesAfter_compactEach rest, classNamesAfter]

end

theorem tight_lawful : tightForm.Lawful where
  selector := tidies_selector
  prelude := tidies_prelude
  content := tidies_content
  siblings := arranges_dropBlanks
  starts t ts h := by
    have hlead : lead selectorTight false false t.compact = [] := rfl
    show (compactedAfter selectorTight false false (t.compact :: compactEach ts)).head?.map _ = _
    rw [compactedAfter_cons (by simp [h]), hlead]
    exact congrArg some t.bare_compact
  split := split_tightSelector
  classNames ts :=
    (classNames_compacted onlyMarks_selector _).trans (classNamesAfter_compactEach ts false)

/-! ## Marks among legible tokens -/

open Lexer (isDigit isIdle beside_of_isQuiet beside_of_hasEnd beside_of_isIdle beside_delimiter
  beside_space clash_of_isQuiet startsQuoted)

theorem IsNumber.exists_mem {text : List Char} (h : IsNumber text) :
    ∃ d ∈ text, d ∉ marks := by
  obtain ⟨n, rfl, -⟩ := h
  have hdigit {d : Char} (hd : isDigit d = true) : d ∉ marks := fun hmark => by
    have hall : marks.all (!isDigit ·) = true := by decide
    have := List.all_eq_true.1 hall d hmark
    rw [hd] at this
    cases this
  rcases n.ne_nil with hwhole | hfraction
  · obtain ⟨d, ds, hds⟩ := List.exists_cons_of_ne_nil hwhole
    have hd : d ∈ n.whole := by rw [hds]; exact List.mem_cons_self
    exact ⟨d, by simp [Lexer.Numeral.text, hd], hdigit (List.all_eq_true.1 n.isWhole d hd)⟩
  · rcases n.isFraction with h | ⟨ds, h, -⟩
    · exact absurd h hfraction
    · exact ⟨'.', by simp [Lexer.Numeral.text, h], by decide⟩

/-- All but names and delimiters are written with a character that is no mark. -/
theorem Leaf.exists_mem {l : Leaf} (hg : l.Granted) (hf : l.isFirm = true)
    (hident : ∀ name, l ≠ .ident name) (hliteral : ∀ text, l ≠ .literal text) :
    ∃ d ∉ marks, .char d ∈ Serialize.leaf l := by
  have chars {text : List Char} {d : Char} (h : d ∈ text) : Point.char d ∈ Text.ofChars text :=
    List.mem_map_of_mem h
  cases l with
  | ident name => exact absurd rfl (hident name)
  | literal text => exact absurd rfl (hliteral text)
  | whitespace text =>
    obtain ⟨d, ds, rfl⟩ := List.exists_cons_of_ne_nil hg.1
    refine ⟨d, fun hmark => ?_, chars List.mem_cons_self⟩
    have hall : marks.all (!Lexer.isSpace ·) = true := by decide
    have hspace := List.all_eq_true.1 hall d hmark
    rw [(Bool.and_eq_true_iff.1 hg.2).1] at hspace
    cases hspace
  | comment => exact ⟨'/', by decide, List.mem_cons_self⟩
  | atKeyword => exact ⟨'@', by decide, List.mem_cons_self⟩
  | hash => exact ⟨'#', by decide, List.mem_cons_self⟩
  | string => exact ⟨'"', by decide, List.mem_cons_self⟩
  | url => exact ⟨'u', by decide, List.mem_cons_self⟩
  | unicodeRange => exact ⟨'U', by decide, List.mem_cons_self⟩
  | number text =>
    obtain ⟨d, hd, hmark⟩ := IsNumber.exists_mem hg
    exact ⟨d, hmark, chars hd⟩
  | percentage text =>
    obtain ⟨d, hd, hmark⟩ := IsNumber.exists_mem hg
    exact ⟨d, hmark, chars (List.mem_append_left _ hd)⟩
  | dimension text unit =>
    obtain ⟨d, hd, hmark⟩ := IsNumber.exists_mem hg.1
    exact ⟨d, hmark, List.mem_append_left _ (chars hd)⟩
  | fault f =>
    obtain rfl := beq_iff_eq.1 hf
    exact ⟨'u', by decide, List.mem_cons_self⟩

theorem Leaf.eq_of_mark {l : Leaf} (hg : l.Granted) (hf : l.isFirm = true) {c : Char}
    (hc : c ∈ marks) (h : Serialize.leaf l = [.char c]) : l = .literal [c] := by
  cases l with
  | ident name => exact absurd h (identifier_ne_mark hc name)
  | literal text =>
    have htext : text.map Point.char = [c].map Point.char := h
    rw [(List.map_inj_right fun _ _ hd => Point.char.inj hd).1 htext]
  | _ =>
    obtain ⟨d, hmark, hd⟩ :=
      Leaf.exists_mem hg hf (fun _ => Leaf.noConfusion) fun _ => Leaf.noConfusion
    rw [h] at hd
    obtain rfl := Point.char.inj (List.mem_singleton.1 hd)
    exact absurd hc hmark

theorem Token.eq_of_isTight (hm : OnlyMarks tight) (h : Legible [t]) (ht : t.isTight tight = true) :
    ∃ p, ∃ c ∈ tight, t = .leaf p (.literal [c]) := by
  cases t with
  | leaf p l =>
    obtain ⟨c, htext, hc⟩ := char_of_isTight ht
    obtain ⟨hg, hf⟩ := legible_leaf.1 h
    exact ⟨p, c, hc, by rw [Leaf.eq_of_mark hg hf (hm c hc) htext]⟩
  | block | function => cases ht

theorem isIdle_mark {c : Char} (hc : c ∈ marks) : isIdle (.leaf (.literal [c])) = true := by
  have hall : marks.all (fun c => isIdle (.leaf (.literal [c]))) = true := by decide
  exact List.all_eq_true.1 hall c hc

/-- A mark stands beside what it does not clash with. -/
theorem beside_mark (hm : OnlyMarks tight) {u : Token} (ht : Legible [t]) (hu : Legible [u])
    (htight : t.isTight tight = true ∨ u.isTight tight = true)
    (hclash : t.last.clash u.first = false) : Beside t.last u.first := by
  rcases htight with htight | htight
  · obtain ⟨p, c, hc, rfl⟩ := Token.eq_of_isTight hm ht htight
    have hsub : marks ⊆ [',', ';', ':', '>', '+', '~'] := by decide
    exact beside_delimiter (hsub (hm c hc)) hclash
  · obtain ⟨p, c, hc, rfl⟩ := Token.eq_of_isTight hm hu htight
    obtain ⟨hg, hf⟩ := ht.kept _ (last_mem rfl)
    exact beside_of_isIdle hg hf (isIdle_mark (hm c hc)) (.inr rfl) hclash

/-! ## Legible lists -/

/-- Where blanks are left out beside a mark, neighbours do not clash. -/
def Unclashed (tight : Tight) (ts : List Token) : Prop :=
  (ts.filter (!·.isBlank)).IsChain fun t u =>
    t.isTight tight = true ∨ u.isTight tight = true → t.last.clash u.first = false

theorem Token.isSpace_last (h : t.isBlank = false) : t.last.isSpace = false := by
  cases t with
  | leaf p l =>
    cases l with
    | whitespace => cases h
    | _ => rfl
  | block | function => rfl

theorem Token.isSpace_first (h : t.isBlank = false) : t.first.isSpace = false := by
  cases t with
  | leaf p l =>
    cases l with
    | whitespace => cases h
    | _ => rfl
  | block | function => rfl

theorem legible_space : Legible [space] :=
  legible_leaf.2 ⟨⟨List.cons_ne_nil _ _, by decide⟩, rfl⟩

theorem unclashed_cons (h : t.isBlank = false) {ts : List Token} : Unclashed tight (t :: ts) ↔
    (∀ u ∈ (ts.filter (!·.isBlank)).head?,
      t.isTight tight = true ∨ u.isTight tight = true → t.last.clash u.first = false) ∧
      Unclashed tight ts := by
  rw [Unclashed, List.filter_cons_of_pos (by simp [h]), List.isChain_cons]
  rfl

theorem unclashed_blank (h : t.isBlank = true) {ts : List Token} :
    Unclashed tight (t :: ts) ↔ Unclashed tight ts := by
  rw [Unclashed, List.filter_cons_of_neg (by simp [h])]
  rfl

/-- What the compact form puts behind a token stands beside it. -/
theorem beside_compactedAfter (hm : OnlyMarks tight) (ht : Legible [t]) (hblank : t.isBlank = false)
    {ts : List Token} (hts : Legible ts)
    (hclash : ∀ u ∈ (ts.filter (!·.isBlank)).head?,
      t.isTight tight = true ∨ u.isTight tight = true → t.last.clash u.first = false)
    (hnext : blank = false → ∀ u ∈ ts.head?, Beside t.last u.first) :
    ∀ u ∈ (compactedAfter tight (!t.isTight tight) blank ts).head?, Beside t.last u.first := by
  induction ts generalizing blank with
  | nil => exact fun u hu => by cases hu
  | cons u ts ih =>
    obtain ⟨hu, hrest, -⟩ := legible_cons.1 hts
    cases hu' : u.isBlank with
    | true =>
      rw [List.filter_cons_of_neg (by simp [hu'])] at hclash
      rw [compactedAfter_blank hu']
      exact ih hrest hclash fun h => by cases h
    | false =>
      rw [List.filter_cons_of_pos (by simp [hu'])] at hclash
      rw [compactedAfter_cons hu']
      rcases lead_cases tight (!t.isTight tight) blank u with ⟨-, hlead⟩ | ⟨hneeds, hlead⟩
      · rw [hlead]
        rintro v hv
        obtain rfl := Option.some.inj hv
        obtain ⟨hg, hf⟩ := ht.kept _ (last_mem rfl)
        exact beside_of_isQuiet hg hf rfl (.inl (Token.isSpace_last hblank))
      · rw [hlead]
        rintro v hv
        obtain rfl : u = v := Option.some.inj hv
        cases blank with
        | false => exact hnext rfl u rfl
        | true =>
          have htight : t.isTight tight = true ∨ u.isTight tight = true := by
            simpa only [Bool.true_and, Bool.and_eq_false_iff, Bool.not_eq_false'] using hneeds
          exact beside_mark hm ht hu htight (hclash u rfl htight)

theorem legible_compactedAfter (hm : OnlyMarks tight) {ts : List Token} (loose blank : Bool)
    (hts : Legible ts) (hclash : Unclashed tight ts) :
    Legible (compactedAfter tight loose blank ts) := by
  induction ts generalizing loose blank with
  | nil => exact legible_nil
  | cons t ts ih =>
    obtain ⟨ht, hrest, hbeside⟩ := legible_cons.1 hts
    cases h : t.isBlank with
    | true =>
      rw [compactedAfter_blank h]
      exact ih loose true hrest ((unclashed_blank h).1 hclash)
    | false =>
      obtain ⟨hhead, hclash⟩ := (unclashed_cons h).1 hclash
      have hbehind : Legible (t :: compactedAfter tight (!t.isTight tight) false ts) :=
        legible_cons.2 ⟨ht, ih _ _ hrest hclash,
          beside_compactedAfter hm ht h hrest hhead fun _ => hbeside⟩
      rw [compactedAfter_cons h]
      rcases lead_cases tight loose blank t with ⟨-, hlead⟩ | ⟨-, hlead⟩
      · rw [hlead]
        refine legible_cons.2 ⟨legible_space, hbehind, fun u hu => ?_⟩
        obtain rfl : t = u := Option.some.inj hu
        exact beside_space (Token.isSpace_first h) _
      · rw [hlead]
        exact hbehind

/-- A comma clashes with nothing. -/
theorem unclashed_argument {ts : List Token} (h : Legible ts) : Unclashed argumentTight ts := by
  have comma {t : Token} (h : Legible [t]) (ht : t.isTight argumentTight = true) :
      ∃ p, t = .leaf p (.literal [',']) := by
    obtain ⟨p, c, hc, rfl⟩ := Token.eq_of_isTight onlyMarks_argument h ht
    rw [List.mem_singleton.1 hc]
    exact ⟨p, rfl⟩
  induction ts with
  | nil => exact .nil
  | cons t ts ih =>
    obtain ⟨ht, hts, -⟩ := legible_cons.1 h
    cases hblank : t.isBlank with
    | true => exact (unclashed_blank hblank).2 (ih hts)
    | false =>
      refine (unclashed_cons hblank).2 ⟨fun u hu htight => ?_, ih hts⟩
      rcases htight with htight | htight
      · obtain ⟨p, rfl⟩ := comma ht htight
        rfl
      · have hmem := List.mem_of_mem_filter (List.mem_of_head? hu)
        obtain ⟨p, rfl⟩ := comma (hts.of_mem hmem) htight
        exact clash_of_isQuiet rfl _

/-! ## Legible blocks -/

/-- Neighbours do not clash when the blanks between them are left out. -/
def Apart (ts : List Token) : Prop :=
  (ts.filter (!·.isBlank)).IsChain fun t u => t.last.clash u.first = false

theorem Apart.unclashed {ts : List Token} (h : Apart ts) (tight : Tight) : Unclashed tight ts :=
  List.IsChain.imp (fun _ _ hclash _ => hclash) h

theorem apart_append (ts us : List Token) (h : Apart (ts ++ us)) : Apart ts ∧ Apart us := by
  rw [Apart, List.filter_append, List.isChain_append] at h
  exact ⟨h.1, h.2.1⟩

theorem onlyMarks_before (e : Token) : OnlyMarks (tightBefore e) := by
  rw [tightBefore]
  split
  · exact onlyMarks_declaration
  · exact onlyMarks_selector

/-- The end of a statement may stand behind anything and before anything. -/
theorem beside_ending {e : Token} (he : e.endsStatement = true) :
    (Lexer.isQuiet e.first = true ∧ e.first.isSpace = false) ∧ ∀ b, Beside e.last b := by
  rw [Token.endsStatement, Bool.or_eq_true] at he
  rcases he with he | he
  · obtain ⟨p, rfl⟩ := Token.eq_of_isLiteral he
    exact ⟨⟨rfl, rfl⟩, fun b => beside_delimiter (by decide) rfl⟩
  · cases e with
    | block p b content closed =>
      cases b with
      | curly => exact ⟨⟨rfl, rfl⟩, fun b => beside_of_hasEnd rfl b⟩
      | paren | square => cases he
    | leaf | function => cases he

theorem legible_compactedBlock (ts : List Token) (h : Legible ts) (ha : Apart ts) :
    Legible (compactedBlock [] ts) := by
  induction ts using statements_induction with
  | last ts hlast =>
    rw [compactedBlock_last hlast]
    exact legible_compactedAfter onlyMarks_declaration false false h (ha.unclashed _)
  | next ts e rest hts he ih =>
    obtain ⟨hleft, hright, -⟩ := legible_append.1 h
    obtain ⟨hend, hrest, -⟩ := legible_cons.1 hright
    obtain ⟨haleft, haright⟩ := apart_append _ _ ha
    have harest : Apart rest := (apart_append [e] rest haright).2
    obtain ⟨hquiet, hbehind⟩ := beside_ending he
    rw [compactedBlock_next hts he]
    refine Legible.append_quiet
      (legible_compactedAfter (onlyMarks_before e) false false hleft (haleft.unclashed _))
      (legible_cons.2 ⟨hend, ih hrest harest, fun u _ => hbehind _⟩) fun u hu => ?_
    obtain rfl := Option.some.inj hu
    exact hquiet

/-! ## Tokens at every depth -/

/-- Whether each two neighbours of a list go together. -/
def allNeighbours {α : Type} (r : α → α → Bool) : List α → Bool
  | a :: b :: rest => r a b && allNeighbours r (b :: rest)
  | _ => true

theorem allNeighbours_iff {α : Type} {r : α → α → Bool} {xs : List α} :
    allNeighbours r xs = true ↔ xs.IsChain fun a b => r a b = true := by
  induction xs with
  | nil => exact iff_of_true rfl .nil
  | cons a xs ih =>
    cases xs with
    | nil => exact iff_of_true rfl (.singleton a)
    | cons b xs => rw [allNeighbours, Bool.and_eq_true, ih, List.isChain_cons_cons]

/-- Whether neighbours in a list do not clash when the blanks between them are left out. -/
def isApart (ts : List Token) : Bool :=
  allNeighbours (fun t u => !t.last.clash u.first) (ts.filter (!·.isBlank))

theorem isApart_iff {ts : List Token} : isApart ts = true ↔ Apart ts := by
  rw [isApart, allNeighbours_iff, Apart]
  simp

mutual

/-- Whether in the curly blocks of a token, at any depth, neighbours do not clash when the blanks
between them are left out. -/
def Token.isRoomy : Token → Bool
  | .leaf .. => true
  | .block _ b content _ => (b != .curly || isApart content) && eachRoomy content
  | .function _ _ arguments _ => eachRoomy arguments

def eachRoomy : List Token → Bool
  | [] => true
  | t :: rest => t.isRoomy && eachRoomy rest

end

theorem eachRoomy_iff {ts : List Token} :
    eachRoomy ts = true ↔ ∀ t ∈ ts, t.isRoomy = true := by
  induction ts with
  | nil => simp [eachRoomy]
  | cons t ts ih => rw [eachRoomy, Bool.and_eq_true, ih, List.forall_mem_cons]

theorem apart_compactEach {ts : List Token} (h : Apart ts) : Apart (compactEach ts) := by
  have hblank : (fun t : Token => !t.isBlank) ∘ Token.compact = fun t => !t.isBlank := by
    funext t
    simp
  rw [Apart, compactEach_eq, List.filter_map, hblank, List.isChain_map]
  simp only [Token.last_compact, Token.first_compact]
  exact h

theorem startsQuoted_compacted {ts : List Token} (h : startsQuoted (lexemesOf ts) = true) :
    startsQuoted (lexemesOf (compacted argumentTight (compactEach ts))) = true := by
  have behind {p : Position} {l : Leaf} (rest : List Token)
      (hl : (Lexeme.leaf l).isString = true) :
      startsQuoted (lexemesOf (compacted argumentTight (.leaf p l :: rest))) = true := by
    cases l with
    | string | fault => exact hl
    | _ => cases hl
  rcases ts with _ | ⟨⟨p, l⟩ | _ | _, rest⟩
  · cases h
  · cases l with
    | string | fault => exact behind _ h
    | whitespace text =>
      rcases rest with _ | ⟨⟨q, m⟩ | _ | _, rest⟩
      · cases h
      · rw [compactEach, compacted]
        refine (congrArg (startsQuoted ∘ lexemesOf) (compactedAfter_not_loose _ true)).trans ?_
        exact behind _ h
      · cases h
      · cases h
    | _ => cases h
  · cases h
  · cases h

mutual

theorem Token.legible_compact : ∀ t : Token, Legible [t] → t.isRoomy = true → Legible [t.compact]
  | .leaf .., h, _ => h
  | .block _ b content _, h, hr => by
    obtain ⟨hclosed, hcontent⟩ := legible_block.1 h
    obtain ⟨hapart, heach⟩ := Bool.and_eq_true_iff.1 hr
    have hcompact := legible_compactEach content hcontent heach
    refine legible_block.2 ⟨hclosed, ?_⟩
    rw [compactedContent]
    split
    · rename_i hb
      rw [hb] at hapart
      exact legible_compactedBlock _ hcompact (apart_compactEach (isApart_iff.1 hapart))
    · exact legible_compactedAfter onlyMarks_argument false false hcompact
        (unclashed_argument hcompact)
  | .function _ _ arguments _, h, hr => by
    obtain ⟨hclosed, hname, hquoted, harguments⟩ := legible_function.1 h
    have hcompact := legible_compactEach arguments harguments hr
    exact legible_function.2 ⟨hclosed, hname, fun hurl => startsQuoted_compacted (hquoted hurl),
      legible_compactedAfter onlyMarks_argument false false hcompact (unclashed_argument hcompact)⟩

theorem legible_compactEach : ∀ ts : List Token, Legible ts → eachRoomy ts = true →
    Legible (compactEach ts)
  | [], h, _ => h
  | t :: rest, h, hr => by
    obtain ⟨ht, hrest, hbeside⟩ := legible_cons.1 h
    obtain ⟨hroomy, hroomyrest⟩ := Bool.and_eq_true_iff.1 hr
    refine legible_cons.2 ⟨Token.legible_compact t ht hroomy,
      legible_compactEach rest hrest hroomyrest, ?_⟩
    rw [Token.last_compact]
    cases rest with
    | nil => exact fun u hu => by cases hu
    | cons u rest =>
      rintro v hv
      obtain rfl : u.compact = v := Option.some.inj hv
      rw [Token.first_compact]
      exact hbeside u rfl

end

/-- Tokens whose minified form is legible. -/
structure Roomy (ts : List Token) : Prop where
  legible : Legible ts
  apart : Apart ts
  each : eachRoomy ts = true

theorem hereditary_roomy : Hereditary Roomy where
  left xs ys h := ⟨hereditary_legible.left xs ys h.legible, (apart_append xs ys h.apart).1,
    eachRoomy_iff.2 fun t ht => eachRoomy_iff.1 h.each t (List.mem_append_left _ ht)⟩
  right xs ys h := ⟨hereditary_legible.right xs ys h.legible, (apart_append xs ys h.apart).2,
    eachRoomy_iff.2 fun t ht => eachRoomy_iff.1 h.each t (List.mem_append_right _ ht)⟩
  block h := by
    have hroomy := (Bool.and_eq_true_iff.1 h.each).1
    obtain ⟨hapart, heach⟩ := Bool.and_eq_true_iff.1 hroomy
    exact ⟨hereditary_legible.block h.legible, isApart_iff.1 hapart, heach⟩
  place {p q l ts} h := by
    refine ⟨hereditary_legible.place h.legible, ?_, h.each⟩
    have hblank : (Token.leaf p l).isBlank = (Token.leaf q l).isBlank := by cases l <;> rfl
    have hapart := h.apart
    rw [Apart, List.filter_cons] at hapart ⊢
    rw [← hblank]
    split at hapart
    · rename_i hp
      rw [if_pos hp]
      exact List.isChain_cons.2 (List.isChain_cons.1 hapart)
    · rename_i hp
      rw [if_neg hp]
      exact hapart

theorem Token.text_ne_nil (h : Legible [t]) : t.text ≠ [] := by
  cases t with
  | leaf p l =>
    obtain ⟨hg, hf⟩ := legible_leaf.1 h
    cases l with
    | ident name => exact Serialize.identifier_ne_nil hg.ne_nil
    | literal text =>
      have htext : text ≠ [] := by
        rcases hg with rfl | rfl | rfl | ⟨c, -, rfl⟩ | ⟨c, rfl, -⟩ <;> exact List.cons_ne_nil _ _
      exact fun hnil => htext (List.map_eq_nil_iff.1 hnil)
    | _ =>
      obtain ⟨d, -, hd⟩ :=
        Leaf.exists_mem hg hf (fun _ => Leaf.noConfusion) fun _ => Leaf.noConfusion
      exact List.ne_nil_of_mem hd
  | block p b content closed => exact List.cons_ne_nil _ _
  | function p name arguments closed =>
    simp [Token.text]

/-- Legible tokens of which nothing is written are none. -/
theorem Legible.eq_nil {ts : List Token} (h : Legible ts) (htext : textOf ts = []) : ts = [] := by
  cases ts with
  | nil => rfl
  | cons t ts =>
    exact absurd (List.append_eq_nil_iff.1 htext).1 (Token.text_ne_nil (legible_cons.1 h).1)

/-- The compact form starts with no blank. -/
theorem head?_compacted (tight : Tight) (ts : List Token) :
    ∀ u ∈ (compacted tight ts).head?, u.isBlank = false := by
  induction ts with
  | nil => exact fun u hu => by cases hu
  | cons t ts ih =>
    rw [compacted]
    cases h : t.isBlank with
    | true =>
      rw [compactedAfter_blank h, compactedAfter_not_loose]
      exact ih
    | false =>
      rw [compactedAfter_cons h, lead, Bool.and_false]
      rintro u hu
      obtain rfl : t = u := Option.some.inj hu
      exact h

theorem tight_shows : tightForm.Shows Roomy where
  legible h := h.legible
  selector h :=
    legible_compactedAfter onlyMarks_selector false false (legible_compactEach _ h.legible h.each)
      ((apart_compactEach h.apart).unclashed _)
  content h := legible_compactedBlock _ (legible_compactEach _ h.legible h.each)
    (apart_compactEach h.apart)
  prelude {keyword ts} h := by
    have hts : Roomy ts := hereditary_roomy.right [atKeyword keyword] ts h
    have hkeyword := (legible_cons.1 h.legible).1
    have hcompact := legible_compactEach ts hts.legible hts.each
    have hlegible : Legible (compacted argumentTight (compactEach ts)) :=
      legible_compactedAfter onlyMarks_argument false false hcompact (unclashed_argument hcompact)
    have hhead := head?_compacted argumentTight (compactEach ts)
    show Legible (atKeyword keyword :: led (compacted argumentTight (compactEach ts)))
    rw [led]
    split
    · rename_i hempty
      rw [hlegible.eq_nil (List.isEmpty_iff.1 hempty)]
      exact hkeyword
    · refine legible_cons.2 ⟨hkeyword, legible_cons.2 ⟨legible_space, hlegible, fun v hv => ?_⟩,
        fun v hv => ?_⟩
      · exact beside_space (Token.isSpace_first (hhead v hv)) _
      · obtain rfl := Option.some.inj hv
        obtain ⟨hg, hf⟩ := hkeyword.kept _ (last_mem rfl)
        exact beside_of_isQuiet hg hf rfl (.inl rfl)

/-! ## Texts -/

mutual

theorem piece_stripComments : ∀ t : Token, Compact.piece t.stripComments = Compact.piece t
  | .leaf p l => by cases l <;> rfl
  | .block _ b content _ => by
    have hcontent := pieces_stripTokens content
    cases b with
    | curly => simp only [Token.stripComments, Compact.piece, hcontent]
    | paren | square =>
      rw [Token.stripComments, Compact.piece, Compact.piece, hcontent] <;> exact fun h => by cases h
  | .function _ _ arguments _ => by
    simp only [Token.stripComments, Compact.piece, pieces_stripTokens arguments]

/-- For the compact form comments are blanks like the spaces put for them. -/
theorem pieces_stripTokens : ∀ ts : List Token, Compact.pieces (stripTokens ts) = Compact.pieces ts
  | [] => rfl
  | t :: rest => by
    rw [stripTokens, Compact.pieces, piece_stripComments t, pieces_stripTokens rest, Compact.pieces]

end

theorem textOf_tightSelector (ts : List Token) :
    Compact.tokens selectorTight (stripTokens ts) = textOf (tightSelector ts) := by
  rw [Compact.tokens, pieces_stripTokens]
  exact tokens_eq_textOf selectorTight ts

theorem textOf_tightContent (ts : List Token) :
    Compact.block (stripTokens ts) = textOf (tightContent ts) := by
  rw [Compact.block, pieces_stripTokens, pieces_eq]
  exact joinBlock_pieces (compactEach ts) []

theorem textOf_tightPrelude (keyword : Text) (ts : List Token) :
    atRuleHead true keyword (stripTokens ts) = textOf (atKeyword keyword :: tightPrelude ts) := by
  have htext : Compact.tokens argumentTight (stripTokens ts) =
      textOf (compacted argumentTight (compactEach ts)) := by
    rw [Compact.tokens, pieces_stripTokens]
    exact tokens_eq_textOf argumentTight ts
  rw [atRuleHead, if_pos rfl, htext, tightPrelude, led]
  dsimp only
  split
  · rename_i hempty
    rw [textOf, List.isEmpty_iff.1 hempty, List.append_nil]
    rfl
  · rfl

mutual

theorem Node.generate_tight : ∀ n : Node, n.isBlank = false →
    ((n.removeWhere Node.isComment).stripTokens).generate true = textOf (n.formed tightForm).tokens
  | .whitespace _, hn | .comment _, hn => by cases hn
  | .rule r, _ => by
    rw [Node.formed, Node.tokens, textOf_append, textOf_curly]
    exact congrArg₂ (· ++ braced ·)
      (textOf_tightSelector r.selector) (textOf_tightContent r.content)
  | .statement keyword prelude, _ => by
    rw [Node.formed, Node.tokens, textOf_append]
    exact congrArg (· ++ _) (textOf_tightPrelude keyword prelude)
  | .rawBlock keyword prelude content, _ => by
    rw [Node.formed, Node.tokens, textOf_append, textOf_curly]
    exact congrArg₂ (· ++ braced ·) (textOf_tightPrelude keyword prelude)
      (textOf_tightContent content)
  | .ruleBlock keyword prelude children, _ => by
    rw [Node.formed, Node.tokens, textOf_append, textOf_curly]
    exact congrArg₂ (· ++ braced ·) (textOf_tightPrelude keyword prelude)
      (generateAll_removeWhere children false)

theorem generateAll_removeWhere : ∀ (ns : List Node) (after : Bool),
    generateAll true (stripNodes (removeWhere Node.isComment after ns)) =
      textOf (nodesTokens (dropBlanks (formedEach tightForm ns)))
  | [], _ => rfl
  | n :: rest, after => by
    have ih := generateAll_removeWhere rest
    rw [removeWhere_cons, Node.isComment_removeWhere, formedEach, dropBlanks, List.filter_cons,
      Node.isBlank_formed]
    cases hn : n.isBlank with
    | true =>
      rw [Bool.not_true, if_neg Bool.false_ne_true]
      cases n with
      | whitespace text => cases after <;> exact ih false
      | comment text => cases after <;> exact ih true
      | _ => cases hn
    | false =>
      obtain ⟨hspace, hcomment⟩ : n.isWhitespace = false ∧ n.isComment = false := by
        cases n with
        | whitespace | comment => cases hn
        | _ => exact ⟨rfl, rfl⟩
      rw [hspace, hcomment, Bool.and_false, if_neg Bool.false_ne_true, if_neg Bool.false_ne_true,
        Bool.not_false, if_pos rfl, stripNodes, generateAll, nodesTokens, textOf_append,
        Node.generate_tight n hn, ih false]
      rfl

end

/-- What is written of a tree without its comments, in compact form, is the text of its minified
form. -/
theorem generateAll_tight (ns : List Node) :
    generateAll true (Sheet.stripComments ns) = textOf (nodesTokens (formed tightForm ns)) :=
  generateAll_removeWhere ns false

end StylePrune.Css
