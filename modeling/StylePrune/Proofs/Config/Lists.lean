import StylePrune.Config.Plan
import StylePrune.Glob.Resolve
import StylePrune.Proofs.Glob.Alternatives

/-!
# Lists of globs in settings and in arguments

A setting is cut at every comma, an argument only at those outside brace groups. The two agree on a
text just if no comma of it stands within a group (`items_eq_splitList`): a part of an argument then
holds no comma, and else there is one that does. So a text gives the same plan by either way, or two
different lists of globs (`merge_content_iff`).
-/

namespace StylePrune

namespace Glob

variable {depth : Nat} {current cs : List Char} {c : Char}

/-! ## Commas and brace groups -/

/-- How many braces are open behind a character. A closing brace that closes nothing is text. -/
def nextDepth (depth : Nat) (c : Char) : Nat :=
  if c = '\x7b' then depth + 1 else if c = '\x7d' then depth - 1 else depth

/-- No comma stands within a group of a text that starts with `depth` groups open. -/
def CommasOutside (depth : Nat) (cs : List Char) : Prop :=
  ∀ before after, cs = before ++ ',' :: after → before.foldl nextDepth depth = 0

theorem commasOutside_cons : CommasOutside depth (c :: cs) ↔
    (c = ',' → depth = 0) ∧ CommasOutside (nextDepth depth c) cs := by
  constructor
  · refine fun h => ⟨fun hc => h [] cs (by rw [hc]; rfl), fun before after hcs => ?_⟩
    exact h (c :: before) after (by rw [hcs]; rfl)
  · rintro ⟨hc, hrest⟩ before after hcs
    cases before with
    | nil => exact hc (List.cons.inj hcs).1
    | cons d before =>
      obtain ⟨rfl, hcs'⟩ := List.cons.inj hcs
      exact hrest before after hcs'

theorem partsFrom_cons (hcomma : c = ',' → depth ≠ 0) :
    partsFrom depth current (c :: cs) = partsFrom (nextDepth depth c) (c :: current) cs := by
  rw [partsFrom, if_neg (by simpa using hcomma)]
  rfl

/-- Without commas in groups the parts are cut at every comma. -/
theorem partsFrom_outside (h : CommasOutside depth cs) : ∃ first more,
    splitOn ',' cs = first :: more ∧
      partsFrom depth current cs = (current.reverse ++ first) :: more := by
  induction cs generalizing depth current with
  | nil => exact ⟨[], [], rfl, by rw [partsFrom, List.append_nil]⟩
  | cons c cs ih =>
    obtain ⟨hcomma, hrest⟩ := commasOutside_cons.1 h
    by_cases hc : c = ','
    · obtain rfl := hc
      obtain rfl := hcomma rfl
      obtain ⟨first, more, hsplit, hparts⟩ := @ih 0 [] hrest
      refine ⟨[], first :: more, by rw [splitOn, if_pos rfl, hsplit], ?_⟩
      rw [partsFrom, if_pos (by decide), hparts, List.append_nil]
      rfl
    · obtain ⟨first, more, hsplit, hparts⟩ := @ih _ (c :: current) hrest
      refine ⟨c :: first, more, by rw [splitOn, if_neg hc, hsplit], ?_⟩
      rw [partsFrom_cons fun e => absurd e hc, hparts, List.reverse_cons, List.append_assoc]
      rfl

theorem exists_part_of_mem (h : c ∈ current) : ∃ part ∈ partsFrom depth current cs, c ∈ part := by
  induction cs generalizing depth current with
  | nil => exact ⟨_, List.mem_singleton_self _, List.mem_reverse.2 h⟩
  | cons d cs ih =>
    rw [partsFrom]
    split
    · exact ⟨_, List.mem_cons_self, List.mem_reverse.2 h⟩
    · exact ih (List.mem_cons_of_mem d h)

/-- A comma within a group stays in its part. -/
theorem exists_part_of_inside (h : ¬ CommasOutside depth cs) :
    ∃ part ∈ partsFrom depth current cs, ',' ∈ part := by
  induction cs generalizing depth current with
  | nil =>
    refine absurd (fun before after hcs => ?_) h
    cases before <;> cases hcs
  | cons c cs ih =>
    by_cases hcut : c = ',' ∧ depth = 0
    · obtain ⟨rfl, rfl⟩ := hcut
      obtain ⟨part, hpart, hmem⟩ := @ih 0 [] fun hrest =>
        h (commasOutside_cons.2 ⟨fun _ => rfl, hrest⟩)
      rw [partsFrom, if_pos (by decide)]
      exact ⟨part, List.mem_cons_of_mem _ hpart, hmem⟩
    · rw [partsFrom_cons fun hc hdepth => hcut ⟨hc, hdepth⟩]
      by_cases hc : c = ','
      · exact exists_part_of_mem (by rw [hc]; exact List.mem_cons_self)
      · exact ih fun hrest => h (commasOutside_cons.2 ⟨fun e => absurd e hc, hrest⟩)

theorem mem_trimChars (hc : isBlank c = false) (h : c ∈ cs) : c ∈ trimChars cs := by
  obtain ⟨front, back, hfront, hback, hcs⟩ := exists_trimChars cs
  rw [hcs, List.mem_append, List.mem_append] at h
  rcases h with h | h | h
  · exact absurd ((hfront c h).symm.trans hc) (by decide)
  · exact h
  · exact absurd ((hback c h).symm.trans hc) (by decide)

/-- The trimmed parts that are not empty. -/
def kept (parts : List (List Char)) : List String :=
  ((parts.map trimChars).filter fun part => !part.isEmpty).map String.ofList

theorem splitList_eq (value : String) : splitList value = kept (partsFrom 0 [] value.toList) := rfl

theorem items_eq (value : String) : Settings.items value = kept (splitOn ',' value.toList) := by
  have htrim : (trim ∘ String.ofList) = String.ofList ∘ trimChars := by
    funext part
    simp [trim]
  have hempty : ((fun s => decide (s ≠ "")) ∘ String.ofList) = fun part => !part.isEmpty := by
    funext part
    cases part with
    | nil => rfl
    | cons c rest =>
      refine decide_eq_true fun h => ?_
      rw [← String.toList_inj, String.toList_ofList] at h
      cases h
  rw [Settings.items, splitString, kept, List.map_map, htrim, ← List.map_map, List.filter_map,
    hempty]

theorem comma_notMem_items {value item : String} (h : item ∈ Settings.items value) :
    ',' ∉ item.toList := by
  rw [items_eq, kept, List.mem_map] at h
  obtain ⟨trimmed, htrimmed, rfl⟩ := h
  obtain ⟨part, hpart, rfl⟩ := List.mem_map.1 (List.mem_filter.1 htrimmed).1
  rw [String.toList_ofList]
  exact fun hmem => notMem_of_mem_splitOn hpart (mem_of_mem_trimChars hmem)

theorem exists_comma_of_inside {value : String} (h : ¬ CommasOutside 0 value.toList) :
    ∃ item ∈ splitList value, ',' ∈ item.toList := by
  obtain ⟨part, hpart, hmem⟩ := @exists_part_of_inside _ [] _ h
  have htrimmed : ',' ∈ trimChars part := mem_trimChars (by decide) hmem
  refine ⟨String.ofList (trimChars part), ?_, by rwa [String.toList_ofList]⟩
  refine List.mem_map_of_mem (List.mem_filter.2 ⟨List.mem_map_of_mem hpart, ?_⟩)
  simpa using List.ne_nil_of_mem htrimmed

/-- A setting and an argument read a text alike just if no comma stands within a brace group. -/
theorem items_eq_splitList {value : String} :
    Settings.items value = splitList value ↔ CommasOutside 0 value.toList := by
  constructor
  · intro heq
    by_contra hinside
    obtain ⟨item, hitem, hcomma⟩ := exists_comma_of_inside hinside
    exact comma_notMem_items (heq ▸ hitem) hcomma
  · intro houtside
    obtain ⟨first, more, hsplit, hparts⟩ := @partsFrom_outside _ [] _ houtside
    rw [items_eq, splitList_eq, hsplit, hparts]
    rfl

end Glob

/-! ## The two ways to give globs -/

namespace RunPlan

open CommandLine (PruneArguments)
open Glob (CommasOutside splitList)

variable {env : Environment} {value : String} {list : List String} {lists : List (List String)}

theorem firstList_nil : firstList ([] :: lists) = firstList lists := rfl

theorem firstList_cons (h : list ≠ []) : firstList (list :: lists) = list := by
  cases list with
  | nil => exact absurd rfl h
  | cons item rest => rfl

theorem firstList_singleton : firstList [list] = list := by
  cases list <;> rfl

theorem itemsOf_singleton : itemsOf [value] = splitList value := by
  rw [itemsOf, List.flatMap_cons, List.flatMap_nil, List.append_nil]

/-- The globs of a plan, when neither arguments nor a configuration give others. -/
theorem content_merge (cwd : String) {c : Config} (hc : c.content.getD [] = []) (a : PruneArguments)
    (s : Settings) : (merge cwd c a s).options.content = firstList [itemsOf a.content, s.content] := by
  rw [merge]
  simp only [hc]
  by_cases h : itemsOf a.content = []
  · rw [h]
    rfl
  · rw [firstList_cons h, firstList_cons h]

/-- A list of globs in the environment is read as the same list in an argument is, and gives the
same plan, just if no comma of it stands within a brace group. An argument keeps its groups
whole. -/
theorem merge_content_iff (h : env.lookup "BONSAI_CONTENT" = some value) (cwd : String) :
    ((Settings.ofEnvironment env).1.content = splitList value ↔ CommasOutside 0 value.toList) ∧
      (∀ (c : Config) (a : PruneArguments) (s : Settings), splitList value ≠ [] →
        (merge cwd c { a with content := [value] } s).options.content = splitList value) ∧
      ∀ (c : Config) (a : PruneArguments), c.content.getD [] = [] → a.content = [] →
        (merge cwd c { a with content := [value] } (Settings.ofEnvironment env).1 =
          merge cwd c a (Settings.ofEnvironment env).1 ↔ CommasOutside 0 value.toList) := by
  have hcontent : (Settings.ofEnvironment env).1.content = Settings.items value := by
    simp only [Settings.ofEnvironment, Settings.listOf, h, Option.getD_some]
  refine ⟨by rw [hcontent, Glob.items_eq_splitList], fun c a s hne => ?_, fun c a hc ha => ?_⟩
  · rw [merge]
    simp only
    rw [itemsOf_singleton, firstList_cons hne]
  generalize (Settings.ofEnvironment env).1 = s at hcontent
  constructor
  · intro hsame
    by_contra hinside
    obtain ⟨item, hitem, hcomma⟩ := Glob.exists_comma_of_inside hinside
    have hplans := congrArg (fun plan => plan.options.content) hsame
    simp only [content_merge cwd hc] at hplans
    rw [itemsOf_singleton, firstList_cons (List.ne_nil_of_mem hitem), ha,
      show itemsOf [] = [] from rfl, firstList_nil, firstList_singleton, hcontent] at hplans
    exact Glob.comma_notMem_items (hplans ▸ hitem) hcomma
  · intro houtside
    have hsame : firstList [itemsOf [value], c.content.getD [], s.content] =
        firstList [itemsOf a.content, c.content.getD [], s.content] := by
      rw [hc, ha, hcontent, Glob.items_eq_splitList.2 houtside, itemsOf_singleton]
      by_cases hempty : splitList value = []
      · rw [hempty]
        rfl
      · rw [firstList_cons hempty]
        exact firstList_singleton.symm
    simp only [merge, hsame]
    rfl

/-! ## Pages with two endings -/

/-- Groups without commas are read alike. -/
theorem merge_content_iff_single :
    let env : Environment := [("BONSAI_CONTENT", "src/*.\x7bhtml\x7d, lib/*.js,")]
    (Settings.ofEnvironment env).1.content = ["src/*.\x7bhtml\x7d", "lib/*.js"] ∧
      merge "/p" {} { content := ["src/*.\x7bhtml\x7d, lib/*.js,"] } (Settings.ofEnvironment env).1 =
        merge "/p" {} {} (Settings.ofEnvironment env).1 := by
  intro env
  obtain ⟨hread, -, hplan⟩ :=
    @merge_content_iff env "src/*.\x7bhtml\x7d, lib/*.js," rfl "/p"
  exact ⟨by decide, (hplan {} {} rfl rfl).2 (hread.1 (by decide))⟩

/-- A group of two endings is cut in a setting, and then stands for no page. -/
theorem content_group_cut :
    let group := "*.\x7bhtml,tsx\x7d"
    let settings := (Settings.ofEnvironment [("BONSAI_CONTENT", group)]).1
    let disk : Disk := { files := [(["p", "a.html"], ⟨[], 1⟩)], directories := [["p"]] }
    settings.content = ["*.\x7bhtml", "tsx\x7d"] ∧ splitList group = ["*.\x7bhtml,tsx\x7d"] ∧
      Glob.resolve disk "/p" "" (merge "/p" {} {} settings).options.content = [] ∧
      Glob.resolve disk "/p" "" (merge "/p" {} { content := [group] } settings).options.content =
        ["/p/a.html"] := by
  decide +kernel

end RunPlan

end StylePrune
