import StylePrune.Text.Words

/-!
# Expressions with literals in them

An expression is code, groups in braces, string literals and template literals; the placeholders of
a template hold expressions again. `Expr.text` writes one down, and `Expr.places` lists its literals
at any depth, each with the text before it (`Expr.split_places`).
-/

namespace StylePrune.Content

mutual

/-- An expression, piece by piece. -/
inductive Expr where
  | nil
  | code (text : List Char) (rest : Expr)
  | braces (inside rest : Expr)
  | string (quote : Char) (raw : List Char) (rest : Expr)
  | template (body : Template) (rest : Expr)

/-- What stands between backticks: fixed chunks, with placeholders between them. -/
inductive Template where
  | last (chunk : List Char)
  | hole (chunk : List Char) (inside : Expr) (more : Template)

end

inductive Literal where
  | string (quote : Char) (raw : List Char)
  | template (body : Template)

mutual

def Expr.text : Expr → List Char
  | .nil => []
  | .code text rest => text ++ rest.text
  | .braces inside rest => '\x7b' :: inside.text ++ '\x7d' :: rest.text
  | .string q raw rest => q :: raw ++ q :: rest.text
  | .template body rest => '\x60' :: body.text ++ '\x60' :: rest.text

/-- The text between the backticks. -/
def Template.text : Template → List Char
  | .last chunk => chunk
  | .hole chunk inside more => chunk ++ '$' :: '\x7b' :: inside.text ++ '\x7d' :: more.text

end

def Literal.text : Literal → List Char
  | .string q raw => q :: raw ++ [q]
  | .template body => '\x60' :: body.text ++ ['\x60']

/-- The fixed chunks of a template. -/
def Template.chunks : Template → List (List Char)
  | .last chunk => [chunk]
  | .hole chunk _ more => chunk :: more.chunks

/-- The fixed texts of a literal. -/
def Literal.parts : Literal → List (List Char)
  | .string _ raw => [raw]
  | .template body => body.chunks

/-! ## Well-formed expressions -/

/-- Characters of code: no quote, backtick or brace. -/
def isCode (c : Char) : Bool := !ClassList.isQuote c && c != '\x7b' && c != '\x7d'

/-- The text of a string literal: its quote stands only behind a backslash, and no backslash stands
alone at the end. -/
def IsRaw (quote : Char) : List Char → Prop
  | [] => True
  | '\\' :: [] => False
  | '\\' :: _ :: rest => IsRaw quote rest
  | c :: rest => c ≠ quote ∧ IsRaw quote rest

/-- A chunk of a template literal: a backtick or the start of a placeholder stands only behind a
backslash, and no backslash stands alone at the end. -/
def IsChunk : List Char → Prop
  | [] => True
  | '\\' :: [] => False
  | '\\' :: _ :: rest => IsChunk rest
  | '$' :: '\x7b' :: _ => False
  | c :: rest => c ≠ '\x60' ∧ IsChunk rest

/-- A character that starts no escape and is not alone at the end is no backslash. -/
theorem ne_backslash {c : Char} {rest : List Char} (hend : c = '\\' → rest = [] → False)
    (hescape : ∀ d more, c = '\\' → rest = d :: more → False) : c ≠ '\\' := fun hc => by
  cases rest with
  | nil => exact hend hc rfl
  | cons d more => exact hescape d more hc rfl

theorem isRaw_cons {q c : Char} (h : c ≠ '\\') (rest : List Char) :
    IsRaw q (c :: rest) ↔ c ≠ q ∧ IsRaw q rest := by
  rw [IsRaw]
  · rintro rfl
    exact absurd rfl h
  · rintro d more rfl
    exact absurd rfl h

mutual

def Expr.WellFormed : Expr → Prop
  | .nil => True
  | .code text rest => (∀ c ∈ text, isCode c = true) ∧ rest.WellFormed
  | .braces inside rest => inside.WellFormed ∧ rest.WellFormed
  | .string q raw rest => (q = '\x27' ∨ q = '"') ∧ IsRaw q raw ∧ rest.WellFormed
  | .template body rest => body.WellFormed ∧ rest.WellFormed

def Template.WellFormed : Template → Prop
  | .last chunk => IsChunk chunk
  | .hole chunk inside more => IsChunk chunk ∧ inside.WellFormed ∧ more.WellFormed

end

def Literal.WellFormed : Literal → Prop
  | .string q raw => (q = '\x27' ∨ q = '"') ∧ IsRaw q raw
  | .template body => body.WellFormed

/-! ## The places of literals -/

mutual

/-- The literals of an expression at any depth, each with the text before it. -/
def Expr.places (before : List Char) : Expr → List (List Char × Literal)
  | .nil => []
  | .code text rest => rest.places (before ++ text)
  | .braces inside rest =>
    inside.places (before ++ ['\x7b']) ++
      rest.places (before ++ '\x7b' :: inside.text ++ ['\x7d'])
  | .string q raw rest =>
    (before, .string q raw) :: rest.places (before ++ q :: raw ++ [q])
  | .template body rest =>
    (before, .template body) :: (body.places (before ++ ['\x60']) ++
      rest.places (before ++ '\x60' :: body.text ++ ['\x60']))

def Template.places (before : List Char) : Template → List (List Char × Literal)
  | .last _ => []
  | .hole chunk inside more =>
    inside.places (before ++ chunk ++ ['$', '\x7b']) ++
      more.places (before ++ chunk ++ '$' :: '\x7b' :: inside.text ++ ['\x7d'])

end

/-- The fixed texts of all literals. -/
def Expr.literals (e : Expr) : List (List Char) := (e.places []).flatMap fun x => x.2.parts

/-- A text with a literal in it, behind the text that belongs to its place. -/
def Splits (text : List Char) (x : List Char × Literal) : Prop :=
  ∃ after, text = x.1 ++ x.2.text ++ after

theorem Splits.append {text : List Char} {x : List Char × Literal} (h : Splits text x)
    (more : List Char) : Splits (text ++ more) x := by
  obtain ⟨after, rfl⟩ := h
  exact ⟨after ++ more, List.append_assoc ..⟩

mutual

/-- The places of an expression are places in its text. -/
theorem Expr.split_places : ∀ (e : Expr) (before : List Char), ∀ x ∈ e.places before,
    Splits (before ++ e.text) x
  | .nil, _, _, h => by cases h
  | .code text rest, before, x, h => by
    rw [Expr.text, ← List.append_assoc]
    exact rest.split_places _ x h
  | .braces inside rest, before, x, h => by
    rw [Expr.text]
    rcases List.mem_append.1 h with h | h
    · have := (inside.split_places _ x h).append ('\x7d' :: rest.text)
      simpa using this
    · simpa using rest.split_places _ x h
  | .string q raw rest, before, x, h => by
    rw [Expr.text]
    rcases List.mem_cons.1 h with rfl | h
    · exact ⟨rest.text, by simp [Literal.text]⟩
    · simpa using rest.split_places _ x h
  | .template body rest, before, x, h => by
    rw [Expr.text]
    rcases List.mem_cons.1 h with rfl | h
    · exact ⟨rest.text, by simp [Literal.text]⟩
    rcases List.mem_append.1 h with h | h
    · have := (body.split_places _ x h).append ('\x60' :: rest.text)
      simpa using this
    · simpa using rest.split_places _ x h

theorem Template.split_places : ∀ (t : Template) (before : List Char), ∀ x ∈ t.places before,
    Splits (before ++ t.text) x
  | .last _, _, _, h => by cases h
  | .hole chunk inside more, before, x, h => by
    rw [Template.text]
    rcases List.mem_append.1 h with h | h
    · have := (inside.split_places _ x h).append ('\x7d' :: more.text)
      simpa using this
    · simpa using more.split_places _ x h

end

mutual

theorem Expr.wellFormed_places : ∀ (e : Expr) (before : List Char), e.WellFormed →
    ∀ x ∈ e.places before, x.2.WellFormed
  | .nil, _, _, _, h => by cases h
  | .code _ rest, _, he, x, h => rest.wellFormed_places _ he.2 x h
  | .braces inside rest, _, he, x, h =>
    (List.mem_append.1 h).elim (inside.wellFormed_places _ he.1 x)
      (rest.wellFormed_places _ he.2 x)
  | .string q raw rest, _, he, x, h => by
    rcases List.mem_cons.1 h with rfl | h
    · exact ⟨he.1, he.2.1⟩
    · exact rest.wellFormed_places _ he.2.2 x h
  | .template body rest, _, he, x, h => by
    rcases List.mem_cons.1 h with rfl | h
    · exact he.1
    · exact (List.mem_append.1 h).elim (body.wellFormed_places _ he.1 x)
        (rest.wellFormed_places _ he.2 x)

theorem Template.wellFormed_places : ∀ (t : Template) (before : List Char), t.WellFormed →
    ∀ x ∈ t.places before, x.2.WellFormed
  | .last _, _, _, _, h => by cases h
  | .hole _ inside more, _, ht, x, h =>
    (List.mem_append.1 h).elim (inside.wellFormed_places _ ht.2.1 x)
      (more.wellFormed_places _ ht.2.2 x)

end

end StylePrune.Content
