import StylePrune.Css.Token

/-!
# Brackets in a raw text

Before a style sheet is read, its brackets are paired on the raw characters: brackets in comments
and strings do not count, nor does a character behind a backslash. Lines are counted by `\n`, and a
line end behind a backslash does not count.
-/

namespace StylePrune.Css

inductive Imbalance where
  /-- A closing bracket that does not close the innermost open one. -/
  | unexpected (closer : Char) (line : Nat)
  /-- The innermost bracket still open at the end. -/
  | unclosed (closer : Char) (line : Nat)
deriving DecidableEq, Repr

namespace Balance

/-- Where in a text the pairing stands. -/
inductive Mode where
  | plain
  | string (quote : Char)
  | comment

/-- An open bracket: the closing one it waits for, and the line it stands on. -/
structure Open where
  closer : Char
  line : Nat

/-- The verdict at the end of a text. -/
def atEnd : List Open → Except Imbalance Unit
  | [] => .ok ()
  | innermost :: _ => .error (.unclosed innermost.closer innermost.line)

/-- Pairs brackets with `opened` open, innermost first. A comment that never ends leaves the rest
of the text unread. -/
def run : Mode → List Open → Nat → List Char → Except Imbalance Unit
  | .comment, _, _, [] => .ok ()
  | _, opened, _, [] => atEnd opened
  | .plain, opened, line, '\\' :: rest =>
    match rest with
    | [] => atEnd opened
    | _ :: rest => run .plain opened line rest
  | .plain, opened, line, '/' :: '*' :: rest => run .comment opened line rest
  | .plain, opened, line, c :: rest =>
    if c = '\n' then run .plain opened (line + 1) rest
    else if c = '"' ∨ c = '\x27' then run (.string c) opened line rest
    else
      match Bracket.ofOpener? c with
      | some b => run .plain (⟨b.closer, line⟩ :: opened) line rest
      | none =>
        if (Bracket.ofCloser? c).isSome then
          match opened with
          | innermost :: outer =>
            if innermost.closer = c then run .plain outer line rest
            else .error (.unexpected c line)
          | [] => .error (.unexpected c line)
        else run .plain opened line rest
  | .string quote, opened, line, c :: rest =>
    if c = quote then run .plain opened line rest
    else if c = '\n' then run .plain opened (line + 1) rest
    else if c = '\\' then
      match rest with
      | [] => atEnd opened
      | _ :: rest => run (.string quote) opened line rest
    else run (.string quote) opened line rest
  | .comment, opened, line, '*' :: '/' :: rest => run .plain opened line rest
  | .comment, opened, line, c :: rest =>
    run .comment opened (if c = '\n' then line + 1 else line) rest

end Balance

/-- Accepts a text whose brackets pair up. -/
def checkBalance (css : List Char) : Except Imbalance Unit := Balance.run .plain [] 1 css

end StylePrune.Css
