import StylePrune.CommandLine.Arguments
import StylePrune.Config.Plan
import StylePrune.Json.Shown
import StylePrune.Report.Output

/-!
# Commands and configurations as data

A command and a resolved configuration as values, for tools that drive the program.
-/

namespace StylePrune

/-!
## Commands as data

A command as a value, for tools that drive the program. An argument that is not given is null.
-/

open Json (ofOption)

def Output.toJson : Output → Json
  | off => .bool false
  | usual => .bool true
  | path p => .str p

namespace CommandLine

/-- A flag that counts only when it is given. -/
def flagJson (b : Bool) : Json := if b then .bool true else .null

def PruneArguments.toJson (a : PruneArguments) : Json :=
  .obj [("command", .str "prune"), ("content", Json.strings a.content),
    ("css", Json.strings a.css), ("config", ofOption .str a.config), ("out", ofOption .str a.out),
    ("cwd", ofOption .str a.cwd), ("safelist", Json.strings a.safelist),
    ("safelist_pattern", Json.strings a.safelistPatterns),
    ("keep_dynamic_patterns", flagJson a.keepDynamicPatterns),
    ("dynamic_pattern", Json.strings a.dynamicPatterns), ("minify", flagJson a.minify),
    ("analyze", ofOption Output.toJson a.analyze),
    ("report_json", ofOption Output.toJson a.reportJson),
    ("report_html", ofOption Output.toJson a.reportHtml),
    ("report_ci", ofOption Output.toJson a.reportCi), ("no_cache", .bool a.noCache),
    ("verbose", flagJson a.verbose), ("stats", flagJson a.stats),
    ("max_unused_percent", ofOption Json.ofFloat a.maxUnusedPercent),
    ("max_final_kb", ofOption Json.ofFloat a.maxFinalKb), ("log_level", ofOption .str a.logLevel)]

def ServeArguments.toJson (a : ServeArguments) : Json :=
  .obj [("command", .str "serve"), ("host", ofOption .str a.host), ("port", ofOption .int a.port),
    ("log_level", ofOption .str a.logLevel)]

def Command.toJson : Command → Json
  | prune a => a.toJson
  | serve a => a.toJson

end CommandLine

/-!
## Settings and plans as data

The settings of the environment and the plan of a run as values, for tools that drive the program.
-/

open Json (ofOption)

def Settings.toJson (s : Settings) : Json :=
  .obj [("cwd", .str s.cwd), ("content", Json.strings s.content), ("css", Json.strings s.css),
    ("safelist", Json.strings s.safelist), ("safelist_patterns", Json.strings s.safelistPatterns),
    ("keep_dynamic_patterns", .bool s.keepDynamicPatterns), ("minify", .bool s.minify),
    ("cache_dir", .str s.cacheDir), ("persist_cache", .bool s.persistCache),
    ("log_level", .str s.logLevel), ("server_host", .str s.serverHost),
    ("server_port", .int s.serverPort),
    ("effective_cache_dir", ofOption .str s.effectiveCacheDir?)]

def Limit.toJson : Limit → Json
  | whole n => .int n
  | number f => .float f

def SafelistEntry.toJson : SafelistEntry → Json
  | text s => .str s
  | other v => v

def PatternEntry.toJson : PatternEntry → Json
  | text s => .str s
  | pattern p => .str p.written
  | other v => v

def DynamicPatterns.toJson : DynamicPatterns → Json
  | drop => .bool false
  | collect => .bool true
  | given entries => .arr (entries.map PatternEntry.toJson)

def StyleSource.toJson : StyleSource → Json
  | text s => .str s
  | files paths => Json.strings paths

def ReportOutputs.toJson (r : ReportOutputs) : Json :=
  .obj [("json", r.json.toJson), ("html", r.html.toJson), ("ci", r.ci.toJson)]

/-- An extractor of a configuration; one that is given in code has no value. -/
def Extractor.Definition.toJson : Definition → Json
  | configured v => v
  | _ => .null

def ProjectOptions.toJson (o : ProjectOptions) : Json :=
  .obj [("safelist", .arr (o.safelist.map SafelistEntry.toJson)),
    ("safelist_patterns", .arr (o.safelistPatterns.map PatternEntry.toJson)),
    ("keep_dynamic_patterns", o.dynamicPatterns.toJson), ("minify", .bool o.minify),
    ("extractors", .arr (o.extractors.map Extractor.Definition.toJson)),
    ("content", Json.strings o.content), ("css", o.css.toJson),
    ("cwd", ofOption .str o.directory), ("analyze", o.analysis.toJson),
    ("report", o.reports.toJson), ("cache_dir", ofOption .str o.cacheDirectory)]

def RunPlan.toJson (p : RunPlan) : Json :=
  .obj [("options", p.options.toJson), ("out", ofOption .str p.out), ("verbose", .bool p.verbose),
    ("stats", .bool p.stats),
    ("max_unused_percent", ofOption Limit.toJson p.budgets.maxUnusedPercent),
    ("max_final_kb", ofOption Limit.toJson p.budgets.maxFinalKb),
    ("config_path", ofOption .str p.configPath)]

end StylePrune
