import StylePrune.Proofs.Css.Leaves

/-!
# How the leaves of a text are spelled

A name that starts with a letter is always read as a name, so white space, delimiters and numbers
start with none (`Spelled`), and an identifier has a name. `spelled_step` has one case for each kind
of lexeme, and `lexemesFrom_spelled` carries it over a text. The classes of a selector are
identifiers among its tokens (`mem_classNamesAfter`), so no rule of a style sheet that was read names
the empty class (`classNames_read`).
-/

namespace StylePrune.Css

/-- What the lexer grants of the text of a leaf. -/
def Spelled : Leaf → Prop
  | .whitespace text => text ≠ [] ∧ ∀ c ∈ text, Lexer.isSpace c = true
  | .ident name => name ≠ []
  | .number text | .percentage text | .dimension text _ =>
    ∃ c, text.head? = some c ∧ Lexer.isNameStart c = false
  | .literal text =>
    text ≠ [] ∧ (∀ c ∈ text, Lexer.isNameStart c = false) ∧ (':' ∈ text → text = [':'])
  | _ => True

namespace Lexer

/-- Only leaves that are spelled as the lexer grants. -/
def AllSpelled (out : List Lexeme) : Prop := ∀ x ∈ out, ∀ l, x = .leaf l → Spelled l

theorem name_ne_nil {cs : List Char} (h : startsIdent cs = true) : (name cs).1 ≠ [] := by
  have named : ∀ c rest, isName c = true → (name (c :: rest)).1 ≠ [] := fun c rest hc => by
    rw [name, if_pos hc]; exact List.cons_ne_nil _ _
  have start : ∀ c, isNameStart c = true → isName c = true := fun c hc => by simp [isName, hc]
  revert h
  fun_cases startsIdent cs with
  | case1 => exact fun _ => named _ _ (by decide)
  | case2 => exact fun _ => named _ _ (by decide)
  | case3 => exact fun _ => named _ _ (by decide)
  | case4 rest =>
    intro h
    rw [name, if_neg (by decide), if_pos (by simpa using h)]
    exact List.cons_ne_nil _ _
  | case5 c rest _ _ _ _ => exact fun h => named _ _ (start _ h)
  | case6 => exact fun h => by cases h

/-- What starts no identifier starts with no letter. -/
theorem isNameStart_of_not_startsIdent {c : Char} {rest : List Char}
    (h : ¬startsIdent (c :: rest) = true) : isNameStart c = false := by
  by_cases hhyphen : c = '-'
  · rw [hhyphen]
    rfl
  by_cases hescape : c = '\\'
  · rw [hescape]
    rfl
  · rw [startsIdent] at h
    · exact Bool.eq_false_iff.2 h
    all_goals simp [hhyphen, hescape]

theorem allSpelled_one {l : Leaf} {k : Nat} {r : List Lexeme × Nat} (hl : Spelled l)
    (h : one (.leaf l) k = .ok r) : AllSpelled r.1 := by
  obtain rfl := Except.ok.inj h
  simpa [AllSpelled] using hl

theorem allSpelled_literal {text : List Char} {k : Nat} {r : List Lexeme × Nat}
    (hl : Spelled (.literal text)) (h : oneLiteral text k = .ok r) : AllSpelled r.1 :=
  allSpelled_one hl h

theorem spelled_literal {c : Char} {more : List Char} (hc : isNameStart c = false)
    (hmore : ∀ d ∈ more, isNameStart d = false ∧ d ≠ ':') (hcolon : c = ':' → more = []) :
    Spelled (.literal (c :: more)) := by
  have hall : ∀ d ∈ c :: more, isNameStart d = false :=
    List.forall_mem_cons.2 ⟨hc, fun d hd => (hmore d hd).1⟩
  refine ⟨List.cons_ne_nil _ _, hall, fun h => ?_⟩
  rcases List.mem_cons.1 h with rfl | h
  · rw [hcolon rfl]
  · exact absurd rfl (hmore _ h).2

theorem allSpelled_url (cs : List Char) : AllSpelled ((url cs).1.map .leaf) := by
  fun_cases url cs <;> simp [AllSpelled, Spelled]

theorem allSpelled_identLike {cs : List Char} (h : startsIdent cs = true) :
    AllSpelled (identLike cs).1 := by
  have hn := name_ne_nil h
  fun_cases identLike cs with
  | case2 value n _ rest _ _ c tail _ _ leaves k hurl | case3 value n _ rest _ _ _ leaves k hurl =>
    have := allSpelled_url rest
    rwa [hurl] at this
  | case5 value n hvalue =>
    rw [hvalue] at hn
    simpa [AllSpelled, Spelled] using hn
  | _ => simp [AllSpelled]

/-- A number has a first character. -/
theorem ne_zero_of_numberLength? {cs : List Char} {n : Nat} {isInteger : Bool}
    (h : numberLength? cs = some (n, isInteger)) : n ≠ 0 := by
  revert h
  fun_cases numberLength? cs with
  | case1 => exact nofun
  | case2 =>
    intro h
    obtain ⟨rfl, -⟩ := Prod.mk.inj (Option.some.inj h)
    omega

theorem allSpelled_numeric {c : Char} {rest : List Char} {n : Nat} {isInteger : Bool}
    {r : List Lexeme × Nat} (hc : isNameStart c = false) (hn : n ≠ 0)
    (h : numeric (c :: rest) n isInteger = .ok r) : AllSpelled r.1 := by
  have hhead : ((c :: rest).take n).head? = some c := by
    rw [List.head?_take, if_neg hn, List.head?_cons]
  revert h
  fun_cases numeric (c :: rest) n isInteger with
  | case1 => exact fun h => by cases h
  | _ => exact allSpelled_one ⟨c, hhead, hc⟩

theorem allSpelled_string (q : Char) (rest : List Char) : AllSpelled (stringLike q rest).1 := by
  fun_cases stringLike q rest <;> simp [AllSpelled, Spelled]

theorem allSpelled_step {c : Char} {rest : List Char} {r : List Lexeme × Nat}
    (h : step c rest = .ok r) : AllSpelled r.1 := by
  revert h
  fun_cases step c rest with
  | case1 =>
    refine allSpelled_one ⟨List.cons_ne_nil _ _, List.forall_mem_cons.2 ⟨‹_›, fun d hd => ?_⟩⟩
    exact List.all_eq_true.1 List.all_takeWhile d hd
  | case3 => exact allSpelled_literal (by simp [Spelled]; decide)
  | case4 =>
    rename_i hi hout
    intro h
    obtain rfl := Except.ok.inj h
    have := allSpelled_identLike hi
    rwa [hout] at this
  | case5 =>
    rename_i n isInteger _ _ hident hlength
    intro h
    cases hn : numeric (c :: rest) n isInteger with
    | error e => rw [hn] at h; cases h
    | ok r' =>
      rw [hn] at h
      obtain rfl := Except.ok.inj h
      exact (allSpelled_numeric (isNameStart_of_not_startsIdent hident)
        (ne_zero_of_numberLength? hlength) hn : AllSpelled r'.1)
  | case11 | case12 =>
    intro h
    obtain rfl := Except.ok.inj h
    simp [AllSpelled]
  | case13 =>
    intro h
    obtain rfl := Except.ok.inj h
    exact allSpelled_string c rest
  | case7 | case9 | case10 | case18 =>
    exact allSpelled_literal
      (spelled_literal (isNameStart_of_not_startsIdent ‹¬startsIdent _ = true›) nofun fun _ => rfl)
  | case15 => exact allSpelled_literal (by simp [Spelled]; decide)
  | case16 | case17 =>
    refine allSpelled_literal (spelled_literal
      (isNameStart_of_not_startsIdent ‹¬startsIdent _ = true›) (by simp; decide) fun hcolon => ?_)
    subst hcolon
    simp at *
  | _ => exact allSpelled_one trivial

/-- Every leaf that the lexer gives is spelled so. -/
theorem lexemesFrom_spelled (p : Position) (cs : List Char) (xs : List (Position × Lexeme))
    (h : lexemesFrom p cs = .ok xs) : AllSpelled (xs.map (·.2)) := by
  fun_induction lexemesFrom p cs generalizing xs with
  | case1 =>
    obtain rfl := Except.ok.inj h
    simp [AllSpelled]
  | case2 | case3 => cases h
  | case4 p c rest out n hstep more hmore ih =>
    obtain rfl := Except.ok.inj h
    rw [List.map_append, List.map_map, AllSpelled]
    refine fun x hx => (List.mem_append.1 hx).elim (fun hx => ?_) (ih more hmore x)
    exact allSpelled_step hstep x (by simpa using hx)

end Lexer

/-- The selectors of a style sheet are spelled as the lexer grants. -/
theorem spelled_selectors {css : List Char} {s : Sheet} (h : read css = .ok s) :
    Selectors Spelled s :=
  selectors_read (fun _ => trivial) (fun xs hxs x hx =>
    Lexer.lexemesFrom_spelled _ _ xs hxs x.2 (List.mem_map_of_mem hx)) h

/-! ## The classes that rules name -/

mutual

theorem mem_classNamesOf {name : Text} : ∀ {t : Token} {dotted : Bool},
    name ∈ classNamesOf dotted t → .ident name ∈ t.leaves
  | .leaf _ l, dotted, h => by
    cases l with
    | ident n =>
      rw [classNamesOf] at h
      split at h
      · rw [Token.leaves, List.mem_singleton.1 h]; exact List.mem_singleton_self _
      · cases h
    | _ => cases h
  | .function _ _ arguments _, _, h => by
    rw [classNamesOf] at h
    exact mem_classNamesAfter h
  | .block _ b content _, _, h => by
    cases b with
    | paren => exact mem_classNamesAfter (by rwa [classNamesOf] at h)
    | _ => cases h

/-- A class that tokens name is an identifier among them. -/
theorem mem_classNamesAfter {name : Text} : ∀ {ts : List Token} {dotted : Bool},
    name ∈ classNamesAfter dotted ts → .ident name ∈ leavesOf ts
  | [], _, h => by rw [classNamesAfter] at h; cases h
  | t :: rest, _, h => by
    rw [classNamesAfter, List.mem_append] at h
    rw [leavesOf, List.mem_append]
    exact h.imp mem_classNamesOf mem_classNamesAfter

end

theorem mem_split {t : Token} : ∀ {ts s : List Token}, s ∈ Rule.selectors.split ts → t ∈ s → t ∈ ts
  | [], s, h, ht => by simp_all [Rule.selectors.split]
  | u :: rest, s, h, ht => by
    rw [Rule.selectors.split] at h
    split at h
    · rcases List.mem_cons.1 h with rfl | h
      · cases ht
      · exact .tail _ (mem_split h ht)
    split at h
    · rename_i first more hsplit
      rcases List.mem_cons.1 h with rfl | h
      · rcases List.mem_cons.1 ht with rfl | ht
        · exact .head _
        · exact .tail _ (mem_split (hsplit ▸ .head _) ht)
      · exact .tail _ (mem_split (hsplit ▸ .tail _ h) ht)
    · obtain rfl := List.mem_singleton.1 h
      exact List.mem_singleton.1 ht ▸ .head _

theorem ident_of_mem_classNames {r : Rule} {name : Text} (h : name ∈ r.classNames) :
    .ident name ∈ leavesOf r.selector := by
  obtain ⟨s, hs, hn⟩ := List.mem_flatMap.1 h
  obtain ⟨t, ht, hl⟩ := mem_leavesOf.1 (mem_classNamesAfter hn)
  exact mem_leavesOf.2 ⟨t, mem_split (List.mem_filter.1 hs).1 ht, hl⟩

/-- No rule of a style sheet names the empty class. -/
theorem classNames_read {css : List Char} {s : Sheet} (h : read css = .ok s) :
    ∀ x ∈ s.placed, ∀ name ∈ x.2.classNames, name ≠ [] := fun x hx _ hn =>
  spelled_selectors h [] x hx _ (ident_of_mem_classNames hn)

end StylePrune.Css
