import StylePrune.Proofs.Json.Keys
import StylePrune.Proofs.Json.Reader
import StylePrune.Proofs.Json.Written

/-!
# What is written as JSON is read back

The text of an exact value, on one line or indented, is one of the grammar in every dialect that has
the words and integers that are written (`Exact.document`), whatever follows it (`Exact.inGrammar`).
So it is standard JSON, and it is read as the value again (`parse_print`).
-/

namespace StylePrune.Json

/-- A dialect has the words and the integers that are written. -/
structure Dialect.Wide (d : Dialect) : Prop where
  null : ("null", .null) ∈ d.words
  yes : ("true", .bool true) ∈ d.words
  no : ("false", .bool false) ∈ d.words
  digits : ∀ n ∈ d.longest, Decimal.maxDigits ≤ n

theorem Dialect.wide_read : Dialect.read.Wide where
  null := .head _
  yes := .tail _ (.head _)
  no := .tail _ (.tail _ (.head _))
  digits _ hn := Nat.le_of_eq (Option.some.inj hn)

variable {d : Dialect}

/-! ## Numbers -/

theorem isDigit_of_isDigit {c : Char} (h : c.isDigit = true) : isDigit c = true := by
  simpa [Char.isDigit, isDigit, Char.le_def] using h

theorem toDigits_eq_cons (n : Nat) : ∃ d ds, Nat.toDigits 10 n = d :: ds ∧
    ∀ c ∈ d :: ds, isDigit c = true := by
  obtain ⟨d, ds, hd⟩ := List.exists_cons_of_ne_nil (Nat.toDigits_ne_nil (n := n) (b := 10))
  refine ⟨d, ds, hd, fun c hc => isDigit_of_isDigit ?_⟩
  exact Nat.isDigit_of_mem_toDigits (by decide) (by decide) (hd ▸ hc)

theorem head_toDigits_eq_zero {n : Nat} {ds : List Char} (h : Nat.toDigits 10 n = '0' :: ds) :
    ds = [] := by
  have head : ∀ n ds, Nat.toDigits 10 n = '0' :: ds → n = 0 := by
    intro n
    induction n using Nat.strongRecOn with
    | ind n ih =>
      intro ds h
      by_cases hn : n < 10
      · rw [Nat.toDigits_of_lt_base hn, List.cons.injEq] at h
        exact (by decide : ∀ n < 10, Nat.digitChar n = '0' → n = 0) n hn h.1
      · rw [Nat.toDigits_of_base_le (by decide) (by omega)] at h
        obtain ⟨d, ds', hd, -⟩ := toDigits_eq_cons (n / 10)
        rw [hd, List.cons_append, List.cons.injEq] at h
        have := ih (n / 10) (by omega) ds' (by rw [hd, h.1])
        omega
  rw [head n ds h] at h
  exact (List.cons.inj h).2.symm

theorem isWhole_toDigits (n : Nat) : IsWhole (Nat.toDigits 10 n) := by
  obtain ⟨d, ds, hd, hdigits⟩ := toDigits_eq_cons n
  rw [hd]
  refine ⟨⟨List.cons_ne_nil d ds, hdigits⟩, fun hzero => ?_⟩
  obtain rfl := Option.some.inj hzero
  rw [head_toDigits_eq_zero hd]

theorem value_int (hd : d.Wide) {n : Int}
    (h : (Nat.toDigits 10 n.natAbs).length ≤ Decimal.maxDigits) (indent : Option Nat)
    (after : List Char) : Value d ((print indent (.int n)).toList ++ after) (.int n) after := by
  have hsign : (if n < 0 then ['-'] else []) = signOf (decide (n < 0)) := by simp [signOf]
  have hnat : natOf (Nat.toDigits 10 n.natAbs) = n.natAbs :=
    Nat.ofDigitChars_toDigits (by decide) (by decide)
  have hn : (if decide (n < 0) then -Int.ofNat n.natAbs else Int.ofNat n.natAbs) = n := by
    by_cases hneg : n < 0
    · rw [decide_eq_true hneg, if_pos rfl]
      exact (Int.eq_neg_natAbs_of_nonpos (Int.le_of_lt hneg)).symm
    · rw [decide_eq_false hneg, if_neg (by decide)]
      exact Int.natAbs_of_nonneg (Int.not_lt.1 hneg)
  have hnumber : Number d (signOf (decide (n < 0)) ++ Nat.toDigits 10 n.natAbs) _ :=
    .int _ (isWhole_toDigits _) fun k hk => Nat.le_trans h (hd.digits k hk)
  rw [hnat, hn] at hnumber
  rw [print_int, hsign]
  exact .number hnumber

/-! ## Items and members -/

theorem isSpace_lineBreak (indent : Option Nat) :
    ∀ c ∈ (lineBreak indent).toList, isSpace c = true := by
  intro c hc
  cases indent with
  | none => simp [lineBreak] at hc
  | some n =>
    simp only [lineBreak, String.toList_append, String.toList_ofList, List.mem_append,
      List.mem_replicate] at hc
    rcases hc with hc | ⟨-, rfl⟩
    · obtain rfl : c = '\n' := by simpa using hc
      rfl
    · rfl

/-- The text between two items: a comma, and blanks. -/
theorem separator_eq (indent : Option Nat) : ∃ blank, (∀ c ∈ blank, isSpace c = true) ∧
    ((if indent.isSome then "," else ", ") ++ lineBreak indent).toList = ',' :: blank := by
  cases indent with
  | none => exact ⟨[' '], by simp [isSpace], rfl⟩
  | some n =>
    refine ⟨(lineBreak (some n)).toList, isSpace_lineBreak _, ?_⟩
    rw [String.toList_append]
    simp

/-- The text of a value is one of the grammar, whatever follows it. -/
def InGrammar (d : Dialect) (v : Json) : Prop :=
  ∀ (indent : Option Nat) (after : List Char),
    Value d ((print indent v).toList ++ after) v after

theorem items_inGrammar (indent : Option Nat) {blank after : List Char}
    (hblank : ∀ c ∈ blank, isSpace c = true) (rest : List Json) :
    ∀ item : Json, (∀ v ∈ item :: rest, InGrammar d v) →
      Items d ((print indent item).toList ++ ((printItems indent rest).toList ++
        (blank ++ ']' :: after))) (item :: rest) after := by
  induction rest with
  | nil =>
    intro item h
    rw [printItems, String.toList_empty, List.nil_append]
    exact .last (h item (.head _) indent _) ⟨blank, hblank, rfl⟩
  | cons next rest ih =>
    intro item h
    obtain ⟨hitem, hrest⟩ := List.forall_mem_cons.1 h
    obtain ⟨between, hbetween, hsep⟩ := separator_eq indent
    have htext : (printItems indent (next :: rest)).toList =
        ',' :: (between ++ ((print indent next).toList ++ (printItems indent rest).toList)) := by
      rw [printItems, String.toList_append, String.toList_append, hsep]
      simp
    rw [htext]
    simp only [List.cons_append, List.append_assoc]
    exact .more (hitem indent _) (.refl _) ⟨between, hbetween, rfl⟩ (ih next hrest)

/-- Members by their texts, as they are written. -/
def memberTexts (members : List (String × Json)) : List (Text × Json) :=
  members.map fun m => (Text.ofString m.1, m.2)

theorem members_inGrammar (indent : Option Nat) {blank after : List Char}
    (hblank : ∀ c ∈ blank, isSpace c = true) (rest : List (String × Json)) :
    ∀ (name : String) (v : Json), (∀ m ∈ (name, v) :: rest, InGrammar d m.2) →
      Members d ((quotedString name).toList ++ (':' :: ' ' :: ((print indent v).toList ++
        ((printMembers indent false rest).toList ++ (blank ++ '\x7d' :: after)))))
        (memberTexts ((name, v) :: rest)) after := by
  have hname (name : String) : StringBody ((Text.ofString name).flatMap escapedPoint)
      (Text.ofString name) := stringBody_ofChars name.toList
  induction rest with
  | nil =>
    intro name v h
    rw [quotedString_toList, printMembers, String.toList_empty, List.nil_append]
    exact .last (hname name) (.refl _) (blanks_space _) (h _ (.head _) indent _)
      ⟨blank, hblank, rfl⟩
  | cons next rest ih =>
    obtain ⟨next, nextValue⟩ := next
    intro name v h
    obtain ⟨hv, hrest⟩ := List.forall_mem_cons.1 h
    obtain ⟨between, hbetween, hsep⟩ := separator_eq indent
    have htext : (printMembers indent false ((next, nextValue) :: rest)).toList =
        ',' :: (between ++ ((quotedString next).toList ++ (':' :: ' ' ::
          ((print indent nextValue).toList ++ (printMembers indent false rest).toList)))) := by
      rw [printMembers, if_neg (by decide)]
      simp only [String.toList_append] at hsep ⊢
      rw [hsep]
      simp
    rw [quotedString_toList, htext]
    simp only [List.cons_append, List.append_assoc]
    exact .more (hname name) (.refl _) (blanks_space _) (hv indent _) (.refl _)
      ⟨between, hbetween, rfl⟩ (ih next nextValue hrest)

theorem setMembers_memberTexts {members read : List (String × Json)}
    (h : ((read ++ members).map Prod.fst).Nodup) :
    setMembers read (memberTexts members) = read ++ members := by
  induction members generalizing read with
  | nil => exact (List.append_nil read).symm
  | cons m rest ih =>
    have hnew : m.1 ∉ read.map Prod.fst := by
      rw [List.map_append, List.nodup_append] at h
      exact fun hm => h.2.2 m.1 hm m.1 (.head _) rfl
    have hset : setMember read (nameOf (Text.ofString m.1)) m.2 = read ++ [m] := by
      rw [nameOf_ofString]
      exact setMember_of_notMem hnew
    have hrest : setMembers (read ++ [m]) (memberTexts rest) = read ++ [m] ++ rest :=
      ih (by simpa using h)
    rw [List.append_assoc, List.singleton_append] at hrest
    rw [← hrest, ← hset]
    rfl

/-- Members under distinct names, and the brace behind them, are an object. -/
theorem Members.object {cs start rest : List Char} {members : List (String × Json)}
    (h : Members d start (memberTexts members) rest) (names : (members.map Prod.fst).Nodup)
    (hblanks : Blanks cs start) : Value d ('\x7b' :: cs) (.obj members) rest := by
  have hset : setMembers [] (memberTexts members) = members := setMembers_memberTexts names
  rw [← hset]
  exact .members hblanks h

/-! ## Values -/

/-- The text of an exact value is one of the grammar for the value. -/
theorem Exact.inGrammar (hd : d.Wide) {v : Json} (h : Exact v) : InGrammar d v := by
  have word {w : String} {v : Json} (h : (w, v) ∈ d.words) (after : List Char) :
      Value d (w.toList ++ after) v after := .word h
  induction h with
  | null =>
    intro indent after
    rw [print]
    exact word hd.null after
  | bool b =>
    intro indent after
    rw [print]
    cases b with
    | true => exact word hd.yes after
    | false => exact word hd.no after
  | int h => exact value_int hd h
  | str s =>
    intro indent after
    rw [print, quotedString_toList]
    have hvalue : Value d _ (ofText (Text.ofString s)) after :=
      .string (stringBody_ofChars s.toList)
    rwa [ofText_ofString] at hvalue
  | @arr items h ih =>
    intro indent after
    cases items with
    | nil =>
      rw [print]
      exact .noItems (.refl _)
    | cons item rest =>
      have htext : (print indent (.arr (item :: rest))).toList ++ after = '[' ::
          ((lineBreak (deeper indent)).toList ++ ((print (deeper indent) item).toList ++
            ((printItems (deeper indent) rest).toList ++
              ((lineBreak indent).toList ++ ']' :: after)))) := by
        rw [print]
        simp
      rw [htext]
      exact .items ⟨_, isSpace_lineBreak _, rfl⟩
        (items_inGrammar _ (isSpace_lineBreak indent) rest item ih)
  | @obj members names h ih =>
    intro indent after
    cases members with
    | nil =>
      rw [print]
      exact .noMembers (.refl _)
    | cons m rest =>
      have htext : (print indent (.obj (m :: rest))).toList ++ after = '\x7b' ::
          ((lineBreak (deeper indent)).toList ++ ((quotedString m.1).toList ++ (':' :: ' ' ::
            ((print (deeper indent) m.2).toList ++
              ((printMembers (deeper indent) false rest).toList ++
                ((lineBreak indent).toList ++ '\x7d' :: after)))))) := by
        rw [print, printMembers, if_pos rfl]
        simp
      rw [htext]
      exact (members_inGrammar _ (isSpace_lineBreak indent) rest m.1 m.2 ih).object names
        ⟨_, isSpace_lineBreak _, rfl⟩

theorem Exact.document (hd : d.Wide) {v : Json} (h : Exact v) (indent : Option Nat) :
    Document d (print indent v).toList v := by
  have hvalue := h.inGrammar hd indent []
  rw [List.append_nil] at hvalue
  exact ⟨_, [], .refl _, hvalue, .refl _⟩

/-- A value that is written and read again is the same. -/
theorem parse_print {v : Json} (h : Exact v) (indent : Option Nat) :
    parse (print indent v).toList = .ok v :=
  parse_iff.2 (h.document Dialect.wide_read indent)

end StylePrune.Json
