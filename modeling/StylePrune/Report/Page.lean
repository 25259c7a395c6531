import StylePrune.Decimal.Exact
import StylePrune.Report.Basic

/-!
# The report page

A report as a page of HTML. Everything that comes from content, style sheet or extractors is
escaped, so that it stands between the tags and never adds one.
-/

namespace StylePrune.Report.Page

/-- The text that shows a character on a page. -/
def escapePoint (p : Point) : Text :=
  match p with
  | .char '&' => Text.ofString "&amp;"
  | .char '<' => Text.ofString "&lt;"
  | .char '>' => Text.ofString "&gt;"
  | .char '"' => Text.ofString "&quot;"
  | .char '\x27' => Text.ofString "&#x27;"
  | p => [p]

def escape (t : Text) : Text := t.flatMap escapePoint

def escapeString (s : String) : Text := escape (Text.ofString s)

/-- Texts with a separator between any two. -/
def joined (separator : String) : List Text → Text
  | [] => []
  | [t] => t
  | t :: rest => t ++ Text.ofString separator ++ joined separator rest

/-- `usual` in place of an empty text. -/
def orElse (usual : String) (t : Text) : Text := if t.isEmpty then Text.ofString usual else t

def entryRow (e : ReportEntry) : Text :=
  Text.ofString "      <tr><td>" ++ escape e.name ++ Text.ofString "</td><td>" ++
    escapeString e.status.word ++ Text.ofString "</td><td>" ++
    orElse "-" (joined "<br/>" (e.origins.map escapeString)) ++ Text.ofString "</td></tr>"

def warningItem (warning : String) : Text :=
  Text.ofString "<li>" ++ escapeString warning ++ Text.ofString "</li>"

/-- The page up to the time of the report. -/
def opening : String :=
  "<!doctype html>\n<html lang=\"en\">\n<head>\n  <meta charset=\"utf-8\" />\n" ++
  "  <meta name=\"viewport\" content=\"width=device-width,initial-scale=1\" />\n" ++
  "  <title>BonsaiCSS Report</title>\n  <style>\n" ++
  "    body \x7b font-family: ui-sans-serif, system-ui, sans-serif; margin: 24px; " ++
  "color: #0f172a; \x7d\n" ++
  "    table \x7b border-collapse: collapse; width: 100%; margin-top: 12px; \x7d\n" ++
  "    th, td \x7b border: 1px solid #cbd5e1; text-align: left; padding: 8px; font-size: 14px; " ++
  "vertical-align: top; \x7d\n" ++
  "    th \x7b background: #f1f5f9; \x7d\n" ++
  "    .grid \x7b display: grid; grid-template-columns: repeat(2, minmax(0, 1fr)); " ++
  "gap: 8px 16px; max-width: 680px; \x7d\n" ++
  "    .muted \x7b color: #475569; \x7d\n" ++
  "  </style>\n</head>\n<body>\n  <h1>BonsaiCSS Report</h1>\n  <p class=\"muted\">Generated at "

/-- One figure of the page. -/
def figure (label value unit : String) : String :=
  "    <div>" ++ label ++ ": <strong>" ++ value ++ unit ++ "</strong></div>\n"

def figures (s : ReportStats) : String :=
  figure "Files scanned" (toString s.filesScanned) "" ++
  figure "Classes detected" (toString s.classesDetected) "" ++
  figure "Classes kept" (toString s.classesKept) "" ++
  figure "Classes removed" (toString s.classesRemoved) "" ++
  figure "Rules removed" (toString s.removedRules) "" ++
  figure "Reduction" (Decimal.fixed 2 (s.reductionRatio * 100)) "%" ++
  figure "Size before" (toString s.sizeBefore) " bytes" ++
  figure "Size after" (toString s.sizeAfter) " bytes" ++
  figure "Total time" (Decimal.fixed 2 s.durationMs) " ms"

/-- The page of a report. -/
def render (r : Report) : Text :=
  Text.ofString opening ++ escapeString r.generatedAt ++
    Text.ofString ("</p>\n  <h2>Stats</h2>\n  <div class=\"grid\">\n" ++ figures r.stats ++
      "  </div>\n  <h2>Warnings</h2>\n  <ul>") ++
    orElse "<li>None</li>" (joined "\n" (r.warnings.map warningItem)) ++
    Text.ofString ("</ul>\n  <h2>Class Matrix</h2>\n  <table>\n" ++
      "    <thead><tr><th>Class</th><th>Status</th><th>Why</th></tr></thead>\n    <tbody>\n") ++
    joined "\n" (r.entries.map entryRow) ++
    Text.ofString "\n    </tbody>\n  </table>\n</body>\n</html>\n"

end StylePrune.Report.Page
