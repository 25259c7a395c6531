import StylePrune.Proofs.Css.Joined
import StylePrune.Proofs.Css.Neighbours

/-!
# Tokens as lexemes

Explicit tokens are nested from the lexemes that they flatten to, and no others
(`tokensOf_lexemesOf`, `lexemesOf_tokensOf`). So explicit tokens that stand side by side are read
back from what is written of them (`tokensOf_written`).
-/

namespace StylePrune.Css

open Lexer (bare Normal)

mutual

/-- A token with its brackets, as it stands in a text. -/
def Token.lexemes : Token → List Lexeme
  | .leaf _ l => [.leaf l]
  | .block _ b content _ => .opening b :: lexemesOf content ++ [.closing b]
  | .function _ name arguments _ => .functionHead name :: lexemesOf arguments ++ [.closing .paren]

def lexemesOf : List Token → List Lexeme
  | [] => []
  | t :: rest => t.lexemes ++ lexemesOf rest

end

theorem lexemesOf_append (ts us : List Token) :
    lexemesOf (ts ++ us) = lexemesOf ts ++ lexemesOf us := by
  induction ts with
  | nil => rfl
  | cons t ts ih => rw [List.cons_append, lexemesOf, ih, lexemesOf, List.append_assoc]

theorem lexemesOf_singleton (t : Token) : lexemesOf [t] = t.lexemes := by
  rw [lexemesOf, lexemesOf, List.append_nil]

mutual

theorem Token.lexemes_unplaced : ∀ t : Token, t.unplaced.lexemes = t.lexemes
  | .leaf .. => rfl
  | .block _ _ content _ => by
    rw [Token.unplaced, Token.lexemes, lexemesOf_unplaced content, Token.lexemes]
  | .function _ _ arguments _ => by
    rw [Token.unplaced, Token.lexemes, lexemesOf_unplaced arguments, Token.lexemes]

theorem lexemesOf_unplaced : ∀ ts : List Token, lexemesOf (unplacedTokens ts) = lexemesOf ts
  | [] => rfl
  | t :: rest => by
    rw [unplacedTokens, lexemesOf, Token.lexemes_unplaced t, lexemesOf_unplaced rest, lexemesOf]

end

/-! ## Nesting -/

namespace Nest

/-- Lexemes read behind others. -/
def reads (s : Nest) (xs : List Lexeme) : Nest :=
  (xs.map fun x => (Position.start, x)).foldl step s

theorem reads_append (s : Nest) (xs ys : List Lexeme) :
    s.reads (xs ++ ys) = (s.reads xs).reads ys := by
  rw [reads, List.map_append, List.foldl_append]
  rfl

theorem reads_cons (s : Nest) (x : Lexeme) (xs : List Lexeme) :
    s.reads (x :: xs) = (s.step (.start, x)).reads xs := rfl

end Nest

/-- What opens a list, as a lexeme. -/
def Head.lexeme : Head → Lexeme
  | bracket b => .opening b
  | function name => .functionHead name

theorem Nest.reads_list (head : Head) (frames : List Frame) (current : List Token)
    (content : List Token) {xs : List Lexeme}
    (h : ∀ outer, (Nest.mk outer []).reads xs = ⟨outer, content.reverse⟩) :
    (Nest.mk frames current).reads (head.lexeme :: xs ++ [.closing head.bracketOf]) =
      ⟨frames, head.toToken .start content true :: current⟩ := by
  have hopen : (Nest.mk frames current).step (.start, head.lexeme) =
      ⟨⟨.start, head, current⟩ :: frames, []⟩ := by
    cases head <;> rfl
  rw [List.cons_append, Nest.reads_cons, hopen, Nest.reads_append, h]
  simp [Nest.reads, Nest.step]

mutual

theorem Token.reads_lexemes : ∀ (t : Token) (frames : List Frame) (current : List Token),
    t.isExplicit = true →
      (Nest.mk frames current).reads t.lexemes = ⟨frames, t.unplaced :: current⟩
  | .leaf .., _, _, _ => rfl
  | .block _ b content closed, frames, current, h => by
    obtain ⟨rfl, hcontent⟩ := Bool.and_eq_true_iff.1 h
    refine Nest.reads_list (.bracket b) frames current (unplacedTokens content) fun outer => ?_
    rw [reads_lexemesOf content outer [] hcontent, List.append_nil]
  | .function _ name arguments closed, frames, current, h => by
    obtain ⟨rfl, hcontent⟩ := Bool.and_eq_true_iff.1 h
    refine Nest.reads_list (.function name) frames current (unplacedTokens arguments)
      fun outer => ?_
    rw [reads_lexemesOf arguments outer [] hcontent, List.append_nil]

/-- Explicit tokens are read from their lexemes. -/
theorem reads_lexemesOf : ∀ (ts : List Token) (frames : List Frame) (current : List Token),
    allExplicit ts = true → (Nest.mk frames current).reads (lexemesOf ts) =
      ⟨frames, (unplacedTokens ts).reverse ++ current⟩
  | [], _, _, _ => rfl
  | t :: rest, frames, current, h => by
    obtain ⟨ht, hrest⟩ := Bool.and_eq_true_iff.1 h
    rw [lexemesOf, Nest.reads_append, Token.reads_lexemes t frames current ht,
      reads_lexemesOf rest frames _ hrest, unplacedTokens, List.reverse_cons, List.append_assoc]
    rfl

end

theorem tokensOf_lexemesOf {ts : List Token} (h : allExplicit ts = true) :
    tokensOf (lexemesOf ts) = unplacedTokens ts := by
  have hreads : nestOf (lexemesOf ts) = _ := reads_lexemesOf ts [] [] h
  rw [tokensOf, hreads, List.append_nil, Nest.tokens, Nesting.finish, List.reverse_reverse]

/-- What was read of the open lists, outermost first. -/
def framesLexemes : List Frame → List Lexeme
  | [] => []
  | frame :: outer =>
    framesLexemes outer ++ lexemesOf frame.before.reverse ++ [frame.head.lexeme]

/-- All that was read so far. -/
def Nest.lexemes (s : Nest) : List Lexeme := framesLexemes s.frames ++ lexemesOf s.current.reverse

theorem lexemes_toToken (head : Head) (p : Position) (content : List Token) (closed : Bool) :
    (head.toToken p content closed).lexemes =
      head.lexeme :: lexemesOf content ++ [.closing head.bracketOf] := by
  cases head <;> rfl

theorem Nest.lexemes_push (frames : List Frame) (current : List Token) (t : Token) :
    (Nest.mk frames (t :: current)).lexemes = (Nest.mk frames current).lexemes ++ t.lexemes := by
  rw [Nest.lexemes, Nest.lexemes, List.reverse_cons, lexemesOf_append, lexemesOf_singleton,
    List.append_assoc]

/-- Nesting keeps all lexemes, if these pair their brackets. -/
theorem Nest.lexemesOf_reads (xs : List Lexeme) (s : Nest)
    (h : pairs List.isEmpty (s.frames.map (·.head.bracketOf)) xs = true) :
    lexemesOf (s.reads xs).tokens = s.lexemes ++ xs := by
  induction xs generalizing s with
  | nil =>
    obtain ⟨frames, current⟩ := s
    cases frames with
    | nil => exact (List.append_nil _).symm
    | cons => cases h
  | cons x xs ih =>
    obtain ⟨frames, current⟩ := s
    have push {t : Token} {frames : List Frame} {current : List Token}
        (h : pairs List.isEmpty (frames.map (·.head.bracketOf)) xs = true) :
        lexemesOf ((Nest.mk frames (t :: current)).reads xs).tokens =
          (Nest.mk frames current).lexemes ++ (t.lexemes ++ xs) := by
      rw [ih ⟨frames, t :: current⟩ h, Nest.lexemes_push, List.append_assoc]
    cases x with
    | leaf l => exact push (Bool.and_eq_true_iff.1 h).2
    | opening b =>
      refine (ih ⟨⟨.start, .bracket b, current⟩ :: frames, []⟩ h).trans ?_
      simp [Nest.lexemes, framesLexemes, lexemesOf, Head.lexeme]
    | functionHead name =>
      refine (ih ⟨⟨.start, .function name, current⟩ :: frames, []⟩ h).trans ?_
      simp [Nest.lexemes, framesLexemes, lexemesOf, Head.lexeme]
    | closing b =>
      cases frames with
      | nil => cases h
      | cons frame outer =>
        obtain ⟨hb, hrest⟩ := Bool.and_eq_true_iff.1 h
        obtain rfl := of_decide_eq_true hb
        have hstep :
            (Nest.mk (frame :: outer) current).step (.start, .closing frame.head.bracketOf) =
            ⟨outer, frame.head.toToken frame.position current.reverse true :: frame.before⟩ := by
          simp [Nest.step]
        rw [Nest.reads_cons, hstep, push hrest, lexemes_toToken]
        simp [Nest.lexemes, framesLexemes]

/-- Tokens without an unmatched bracket flatten to the lexemes they come from. -/
theorem lexemesOf_tokensOf {xs : List Lexeme} (h : allExplicit (tokensOf xs) = true) :
    lexemesOf (tokensOf xs) = xs := by
  have hrun : tokensOf xs = Nesting.run [] [] (xs.map fun x => (.start, x)) :=
    (Nest.run_eq ⟨[], []⟩ _).symm
  rw [hrun, Nesting.allExplicit_run, List.map_map] at h
  have hpairs := (Bool.and_eq_true_iff.1 (Bool.and_eq_true_iff.1 h).1).1
  exact Nest.lexemesOf_reads xs ⟨[], []⟩ (by simpa [Function.comp_def] using hpairs)

/-! ## Addresses in quotes -/

open Lexer (startsQuoted urlsQuoted)

mutual

/-- Whether every function `url` in a token starts with a string. -/
def Token.isQuoted : Token → Bool
  | .leaf .. => true
  | .block _ _ content _ => allQuoted content
  | .function _ name arguments _ =>
    (Lexer.asciiLower name != Text.ofString "url" || startsQuoted (lexemesOf arguments)) &&
      allQuoted arguments

def allQuoted : List Token → Bool
  | [] => true
  | t :: rest => t.isQuoted && allQuoted rest

end

theorem allQuoted_append (ts us : List Token) :
    allQuoted (ts ++ us) = (allQuoted ts && allQuoted us) := by
  induction ts with
  | nil => rfl
  | cons t ts ih => rw [List.cons_append, allQuoted, ih, allQuoted, Bool.and_assoc]

theorem startsQuoted_closing (xs : List Lexeme) (b : Bracket) (rest : List Lexeme) :
    startsQuoted (xs ++ .closing b :: rest) = startsQuoted xs := by
  rcases xs with _ | ⟨x, _ | ⟨y, xs⟩⟩
  · rfl
  · cases x with
    | leaf l => cases l <;> rfl
    | _ => rfl
  · cases x with
    | leaf l => cases l <;> rfl
    | _ => rfl

mutual

theorem Token.urlsQuoted_lexemes : ∀ (t : Token) (rest : List Lexeme),
    urlsQuoted (t.lexemes ++ rest) = (t.isQuoted && urlsQuoted rest)
  | .leaf .., _ => rfl
  | .block _ b content _, rest => by
    rw [Token.lexemes, List.append_assoc, List.cons_append, Lexer.urlsQuoted_cons rfl,
      urlsQuoted_lexemesOf content, List.singleton_append, Lexer.urlsQuoted_cons rfl]
    rfl
  | .function _ name arguments _, rest => by
    rw [Token.lexemes, List.append_assoc, List.cons_append, urlsQuoted,
      urlsQuoted_lexemesOf arguments, List.singleton_append, Lexer.urlsQuoted_cons rfl,
      startsQuoted_closing, ← Bool.and_assoc]
    rfl

theorem urlsQuoted_lexemesOf : ∀ (ts : List Token) (rest : List Lexeme),
    urlsQuoted (lexemesOf ts ++ rest) = (allQuoted ts && urlsQuoted rest)
  | [], _ => rfl
  | t :: ts, rest => by
    rw [lexemesOf, List.append_assoc, Token.urlsQuoted_lexemes t, urlsQuoted_lexemesOf ts,
      allQuoted, Bool.and_assoc]

end

/-! ## Legible tokens -/

/-- Tokens that read back from what is written of them. -/
structure Legible (ts : List Token) : Prop where
  explicit : allExplicit ts = true
  kept : ∀ x ∈ lexemesOf ts, x.Granted ∧ x.isFirm = true
  chain : (lexemesOf ts).IsChain Beside
  quoted : allQuoted ts = true

namespace Token

/-- The lexeme that a token starts with. -/
def first : Token → Lexeme
  | leaf _ l => .leaf l
  | block _ b _ _ => .opening b
  | function _ name _ _ => .functionHead name

/-- The lexeme that a token ends with. -/
def last : Token → Lexeme
  | leaf _ l => .leaf l
  | block _ b _ _ => .closing b
  | function .. => .closing .paren

theorem head?_lexemes (t : Token) : t.lexemes.head? = some t.first := by cases t <;> rfl

theorem getLast?_lexemes (t : Token) : t.lexemes.getLast? = some t.last := by
  cases t with
  | leaf => rfl
  | block | function => exact List.getLast?_concat

end Token

theorem head?_lexemesOf (ts : List Token) : (lexemesOf ts).head? = ts.head?.map Token.first := by
  cases ts with
  | nil => rfl
  | cons t ts => rw [lexemesOf, List.head?_append, t.head?_lexemes]; rfl

theorem getLast?_lexemesOf (ts : List Token) :
    (lexemesOf ts).getLast? = ts.getLast?.map Token.last := by
  rcases ts.eq_nil_or_concat with rfl | ⟨ts, t, rfl⟩
  · rfl
  · rw [List.concat_eq_append, lexemesOf_append, lexemesOf_singleton, List.getLast?_append,
      t.getLast?_lexemes, List.getLast?_concat]
    rfl

theorem legible_nil : Legible [] := ⟨rfl, List.forall_mem_nil _, .nil, rfl⟩

/-- Legible tokens follow each other if the last of the ones goes with the first of the others. -/
theorem legible_append {ts us : List Token} : Legible (ts ++ us) ↔
    Legible ts ∧ Legible us ∧ ∀ t ∈ ts.getLast?, ∀ u ∈ us.head?, Beside t.last u.first := by
  have hexplicit :
      allExplicit (ts ++ us) = true ↔ allExplicit ts = true ∧ allExplicit us = true := by
    simp only [allExplicit_iff, List.forall_mem_append]
  have hquoted : allQuoted (ts ++ us) = true ↔ allQuoted ts = true ∧ allQuoted us = true := by
    rw [allQuoted_append, Bool.and_eq_true]
  have hside : (∀ a ∈ (lexemesOf ts).getLast?, ∀ b ∈ (lexemesOf us).head?, Beside a b) ↔
      ∀ t ∈ ts.getLast?, ∀ u ∈ us.head?, Beside t.last u.first := by
    rw [getLast?_lexemesOf, head?_lexemesOf]
    simp
  constructor
  · rintro ⟨he, hk, hc, hq⟩
    rw [lexemesOf_append] at hk hc
    obtain ⟨hts, hus⟩ := List.forall_mem_append.1 hk
    obtain ⟨hct, hcu, hbeside⟩ := List.isChain_append.1 hc
    exact ⟨⟨(hexplicit.1 he).1, hts, hct, (hquoted.1 hq).1⟩,
      ⟨(hexplicit.1 he).2, hus, hcu, (hquoted.1 hq).2⟩, hside.1 hbeside⟩
  · rintro ⟨ht, hu, hbeside⟩
    refine ⟨hexplicit.2 ⟨ht.explicit, hu.explicit⟩, ?_, ?_, hquoted.2 ⟨ht.quoted, hu.quoted⟩⟩
    · rw [lexemesOf_append]
      exact List.forall_mem_append.2 ⟨ht.kept, hu.kept⟩
    · rw [lexemesOf_append]
      exact List.isChain_append.2 ⟨ht.chain, hu.chain, hside.2 hbeside⟩

theorem legible_cons {t : Token} {ts : List Token} : Legible (t :: ts) ↔
    Legible [t] ∧ Legible ts ∧ ∀ u ∈ ts.head?, Beside t.last u.first := by
  rw [← List.singleton_append, legible_append]
  simp

theorem Legible.of_mem {ts : List Token} (h : Legible ts) {t : Token} (ht : t ∈ ts) :
    Legible [t] := by
  obtain ⟨before, behind, rfl⟩ := List.append_of_mem ht
  exact (legible_cons.1 (legible_append.1 h).2.1).1

theorem legible_leaf {p : Position} {l : Leaf} :
    Legible [.leaf p l] ↔ l.Granted ∧ l.isFirm = true := by
  constructor
  · intro h
    exact h.kept _ List.mem_cons_self
  · intro h
    refine ⟨?_, ?_, .singleton _, rfl⟩
    · cases l with
      | fault f =>
        obtain rfl := beq_iff_eq.1 h.2
        rfl
      | _ => rfl
    · rintro x hx
      obtain rfl := List.mem_singleton.1 hx
      exact h

section

open Lexer (isQuiet hasEnd beside_of_isQuiet beside_of_hasEnd)

/-- A list stands within brackets whatever it holds. -/
theorem isChain_within {x : Lexeme} (hx : hasEnd x = true) {xs : List Lexeme}
    (hkept : ∀ y ∈ xs, y.Granted ∧ y.isFirm = true) (b : Bracket) :
    (x :: xs ++ [Lexeme.closing b]).IsChain Beside ↔ xs.IsChain Beside := by
  rw [List.cons_append, List.isChain_cons, List.isChain_append]
  constructor
  · exact fun h => h.2.1
  · intro h
    refine ⟨fun y _ => beside_of_hasEnd hx y, h, .singleton _, fun a ha c hc => ?_⟩
    obtain rfl := Option.some.inj hc
    obtain ⟨hg, hf⟩ := hkept a (List.mem_of_getLast? ha)
    exact beside_of_isQuiet hg hf rfl (.inr rfl)

theorem legible_block {p : Position} {b : Bracket} {content : List Token} {closed : Bool} :
    Legible [.block p b content closed] ↔ closed = true ∧ Legible content := by
  have hlexemes : lexemesOf [.block p b content closed] =
      .opening b :: lexemesOf content ++ [.closing b] := lexemesOf_singleton _
  have hexplicit : allExplicit [.block p b content closed] =
      (closed && allExplicit content) := Bool.and_true _
  have hquoted : allQuoted [.block p b content closed] = allQuoted content := Bool.and_true _
  constructor
  · rintro ⟨he, hk, hc, hq⟩
    rw [hlexemes] at hk hc
    rw [hexplicit, Bool.and_eq_true] at he
    have hkept := (List.forall_mem_append.1 (List.forall_mem_cons.1 hk).2).1
    exact ⟨he.1, he.2, hkept, (isChain_within (x := .opening b) rfl hkept b).1 hc, hquoted ▸ hq⟩
  · rintro ⟨rfl, h⟩
    refine ⟨hexplicit ▸ h.explicit, ?_, ?_, hquoted ▸ h.quoted⟩
    · rw [hlexemes]
      exact List.forall_mem_cons.2 ⟨⟨trivial, rfl⟩, List.forall_mem_append.2 ⟨h.kept, by
        simp [Lexeme.Granted, Lexeme.isFirm]⟩⟩
    · rw [hlexemes]
      exact (isChain_within (x := .opening b) rfl h.kept b).2 h.chain

theorem legible_function {p : Position} {name : Text} {arguments : List Token} {closed : Bool} :
    Legible [.function p name arguments closed] ↔ closed = true ∧ Named name ∧
      (Lexer.asciiLower name = Text.ofString "url" → startsQuoted (lexemesOf arguments) = true) ∧
        Legible arguments := by
  have hlexemes : lexemesOf [.function p name arguments closed] =
      .functionHead name :: lexemesOf arguments ++ [.closing .paren] := lexemesOf_singleton _
  have hexplicit : allExplicit [.function p name arguments closed] =
      (closed && allExplicit arguments) := Bool.and_true _
  have hquoted : allQuoted [.function p name arguments closed] = true ↔
      (Lexer.asciiLower name = Text.ofString "url" → startsQuoted (lexemesOf arguments) = true) ∧
        allQuoted arguments = true := by
    rw [allQuoted, allQuoted, Bool.and_true, Token.isQuoted, Bool.and_eq_true, Bool.or_eq_true,
      bne_iff_ne, ← Decidable.imp_iff_not_or]
  constructor
  · rintro ⟨he, hk, hc, hq⟩
    rw [hlexemes] at hk hc
    rw [hexplicit, Bool.and_eq_true] at he
    obtain ⟨hname, hk⟩ := List.forall_mem_cons.1 hk
    have hkept := (List.forall_mem_append.1 hk).1
    exact ⟨he.1, hname.1, (hquoted.1 hq).1, he.2, hkept,
      (isChain_within (x := .functionHead name) rfl hkept .paren).1 hc,
      (hquoted.1 hq).2⟩
  · rintro ⟨rfl, hname, hurl, h⟩
    refine ⟨hexplicit ▸ h.explicit, ?_, ?_, hquoted.2 ⟨hurl, h.quoted⟩⟩
    · rw [hlexemes]
      exact List.forall_mem_cons.2 ⟨⟨hname, rfl⟩, List.forall_mem_append.2 ⟨h.kept, by
        simp [Lexeme.Granted, Lexeme.isFirm]⟩⟩
    · rw [hlexemes]
      exact (isChain_within (x := .functionHead name) rfl h.kept .paren).2 h.chain

end

/-! ## Texts of legible tokens -/

mutual

theorem Token.text_eq : ∀ t : Token, t.lexemes.flatMap Lexeme.written = t.text
  | .leaf .. => List.append_nil _
  | .block _ b content _ => by
    rw [Token.lexemes, List.cons_append, List.flatMap_cons, List.flatMap_append,
      textOf_eq content, Token.text]
    rfl
  | .function _ name arguments _ => by
    rw [Token.lexemes, List.cons_append, List.flatMap_cons, List.flatMap_append,
      textOf_eq arguments, Token.text, Lexeme.written, List.append_assoc]
    simp [Lexeme.written, Bracket.closer]

/-- What is written of tokens side by side. -/
theorem textOf_eq : ∀ ts : List Token, (lexemesOf ts).flatMap Lexeme.written = textOf ts
  | [] => rfl
  | t :: rest => by
    rw [lexemesOf, List.flatMap_append, Token.text_eq t, textOf_eq rest, textOf]

end

theorem normal_normalize (cs : List Char) : Normal (normalize cs) := normalChar_of_normalize cs

mutual

theorem Token.isExplicit_unplaced : ∀ t : Token, t.unplaced.isExplicit = t.isExplicit
  | .leaf .. => rfl
  | .block _ _ content closed => congrArg (closed && ·) (allExplicit_unplaced content)
  | .function _ _ arguments closed => congrArg (closed && ·) (allExplicit_unplaced arguments)

theorem allExplicit_unplaced : ∀ ts : List Token,
    allExplicit (unplacedTokens ts) = allExplicit ts
  | [] => rfl
  | t :: rest => by
    rw [unplacedTokens, allExplicit, Token.isExplicit_unplaced t, allExplicit_unplaced rest,
      allExplicit]

end

/-- The tokens of a text with all brackets written, of firm lexemes that do not clash. -/
theorem legible_tokenize {css : List Char} {ts : List Token} (h : tokenize css = .ok ts)
    (hexplicit : allExplicit ts = true) (hfirm : ∀ x ∈ lexemesOf ts, x.isFirm = true)
    (hclash : (lexemesOf ts).IsChain fun a b => a.clash b = false) : Legible ts := by
  obtain ⟨xs, hxs, heq⟩ := tokenize_bare h
  have hlexemes : lexemesOf ts = xs := by
    rw [← lexemesOf_unplaced, heq, lexemesOf_tokensOf]
    rw [← heq, allExplicit_unplaced, hexplicit]
  rw [hlexemes] at hfirm hclash
  obtain ⟨hgranted, hchain, hquoted⟩ :=
    Lexer.beside_of_bare (normal_normalize css) hxs hfirm hclash
  have hall := urlsQuoted_lexemesOf ts []
  rw [List.append_nil, hlexemes, hquoted] at hall
  exact ⟨hexplicit, hlexemes ▸ fun x hx => ⟨hgranted x hx, hfirm x hx⟩, hlexemes ▸ hchain,
    (Bool.and_eq_true_iff.1 hall.symm).1⟩

/-- Legible tokens are read back. -/
theorem bare_legible {ts : List Token} (h : Legible ts) {css : String}
    (htext : textOf ts = Text.ofString css) :
    bare (normalize css.toList) = .ok (lexemesOf ts) := by
  rw [← textOf_eq] at htext
  have hplain : ∀ x ∈ lexemesOf ts, x.written.isPlain = true := by
    have hall := congrArg Text.isPlain htext
    rw [Text.isPlain_ofString, Text.isPlain, List.all_flatMap, List.all_eq_true] at hall
    exact hall
  have hquoted := urlsQuoted_lexemesOf ts []
  rw [List.append_nil, h.quoted] at hquoted
  obtain ⟨text, hwritten, hnormal, hbare⟩ := Lexer.bare_written
    (fun x hx => ⟨(h.kept x hx).1, (h.kept x hx).2, hplain x hx⟩) h.chain hquoted
  rw [hwritten] at htext
  obtain rfl : text = css.toList := (List.map_inj_right fun _ _ hc => Point.char.inj hc).1 htext
  rw [normalize_of_forall hnormal, hbare]

end StylePrune.Css
