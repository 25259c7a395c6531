import StylePrune.CommandLine.Arguments
import StylePrune.Config.Basic
import StylePrune.Glob.Basic
import StylePrune.Project.Options
import StylePrune.Settings

/-!
# Plans of runs

What a run does is settled by its arguments, its configuration and the settings of the environment,
in this order: an argument counts before a configuration, and a configuration before a setting.
-/

namespace StylePrune

open CommandLine (PruneArguments)

/-- The options of a run, and what to do with its result. -/
structure RunPlan where
  options : ProjectOptions
  /-- The directory of the project, an absolute path. -/
  base : String
  out : Option String := none
  verbose : Bool := false
  stats : Bool := false
  budgets : Budgets := {}
  configPath : Option String := none
deriving Inhabited

namespace RunPlan

/-- The first list that is not empty. -/
def firstList (lists : List (List String)) : List String :=
  (lists.find? fun l => !l.isEmpty).getD []

/-- The items of all lists that arguments give. -/
def itemsOf (arguments : List String) : List String := arguments.flatMap Glob.splitList

/-- A report that arguments ask for; an empty path asks for none. -/
def askedOutput : Option Output → Output
  | none => .off
  | some output => if output.isOn then output else .off

/-- If arguments ask for any report, they alone count. -/
def reportsOf (a : PruneArguments) (c : Config) : ReportOutputs :=
  if [a.reportJson, a.reportHtml, a.reportCi].any Option.isSome then
    ⟨askedOutput a.reportJson, askedOutput a.reportHtml, askedOutput a.reportCi⟩
  else c.reports

def dynamicOf (a : PruneArguments) (c : Config) (s : Settings) : DynamicPatterns :=
  if !a.dynamicPatterns.isEmpty then .given (a.dynamicPatterns.map .text)
  else if a.keepDynamicPatterns then .collect
  else c.dynamicPatterns.getD (if s.keepDynamicPatterns then .collect else .drop)

/-- The first of some choices, in which a flag that is not set gives none. -/
def flagOf (flag : Bool) (config : Option Bool) (setting : Bool) : Bool :=
  if flag then true else config.getD setting

def cacheDirectoryOf (a : PruneArguments) (c : Config) (s : Settings) : Option String :=
  if a.noCache then none else c.cacheDirectory <|> s.effectiveCacheDir?

/-- The plan of a run whose working directory is `cwd`. -/
def merge (cwd : String) (c : Config) (a : PruneArguments) (s : Settings) : RunPlan :=
  let base := Path.absolute cwd ((a.cwd <|> c.cwd).getD s.cwd)
  let safelist := firstList [itemsOf a.safelist, c.safelist.getD [], s.safelist]
  let patterns := firstList [a.safelistPatterns, c.safelistPatterns.getD [], s.safelistPatterns]
  { options :=
      { safelist := safelist.map .text
        safelistPatterns := patterns.map .text
        dynamicPatterns := dynamicOf a c s
        minify := flagOf a.minify c.minify s.minify
        extractors := c.extractors
        content := firstList [itemsOf a.content, c.content.getD [], s.content]
        css := .files (firstList [itemsOf a.css, c.css.getD [], s.css])
        directory := some base
        analysis := (a.analyze <|> c.analysis).getD .off
        reports := reportsOf a c
        cacheDirectory := cacheDirectoryOf a c s }
    base
    out := a.out <|> c.out
    verbose := flagOf a.verbose c.verbose false
    stats := flagOf a.stats c.stats false
    budgets :=
      ⟨(a.maxUnusedPercent.map Limit.number) <|> c.maxUnusedPercent,
        (a.maxFinalKb.map Limit.number) <|> c.maxFinalKb⟩
    configPath := a.config }

/-- The paths of the style sheets. -/
def cssPaths (plan : RunPlan) : List String :=
  match plan.options.css with
  | .files paths => paths.map (Path.join plan.base)
  | .text path => [Path.join plan.base path]

/-- Accepts a plan with content and style sheets that are there. -/
def validate (plan : RunPlan) (disk : Disk) : Except ConfigError Unit :=
  if plan.options.content.isEmpty then .error .noContent
  else if plan.cssPaths.isEmpty then .error .noStyles
  else
    match plan.cssPaths.find? fun path => !disk.isFile path with
    | some path => .error (.stylesNotFound path)
    | none => .ok ()

/-- The options of a project that settings alone give. -/
def ofSettings (cwd : String) (s : Settings) : ProjectOptions where
  safelist := s.safelist.map .text
  safelistPatterns := s.safelistPatterns.map .text
  dynamicPatterns := if s.keepDynamicPatterns then .collect else .drop
  minify := s.minify
  content := s.content
  css := .files s.css
  directory := some (Path.absolute cwd s.cwd)
  cacheDirectory := s.effectiveCacheDir?

end RunPlan

end StylePrune
