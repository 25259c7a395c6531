import StylePrune.Decimal.Exact
import StylePrune.Json.Printer
import StylePrune.Report.Basic

/-!
# Reports for programs

A report and an analysis as data, and the summary of a report for scripts.
-/

namespace StylePrune.Report

/-!
## Reports as data

The members of a report and of an analysis, in the order in which they are written.
-/

def natJson (n : Nat) : Json := .int n

def statsJson (s : ReportStats) : Json :=
  .obj [("filesScanned", natJson s.filesScanned), ("classesDetected", natJson s.classesDetected),
    ("classesKept", natJson s.classesKept), ("classesRemoved", natJson s.classesRemoved),
    ("totalRules", natJson s.totalRules), ("removedRules", natJson s.removedRules),
    ("keptRules", natJson s.keptRules), ("sizeBefore", natJson s.sizeBefore),
    ("sizeAfter", natJson s.sizeAfter), ("reductionRatio", .float s.reductionRatio),
    ("durationMs", .float s.durationMs)]

def entryJson (e : ReportEntry) : Json :=
  .obj [("className", Json.ofText e.name), ("status", .str e.status.word),
    ("origins", Json.strings e.origins)]

def toJson (r : Report) : Json :=
  .obj [("reportVersion", natJson version), ("generatedAt", .str r.generatedAt),
    ("cwd", .str r.cwd), ("contentGlobs", Json.strings r.contentGlobs),
    ("stats", statsJson r.stats), ("classes", .arr (r.entries.map entryJson)),
    ("warnings", Json.strings r.warnings)]

def analysisJson (origins : Origins) : Json :=
  .obj ((analysis origins).map fun (name, places) => (name, Json.strings places))

/-!
## The summary for scripts

The figures of a report, one on each line as a name and a value.
-/

def summaryLines (r : Report) : List (String × String) :=
  let s := r.stats
  [("report_version", toString version),
    ("files_scanned", toString s.filesScanned),
    ("classes_detected", toString s.classesDetected),
    ("classes_removed", toString s.classesRemoved),
    ("rules_removed", toString s.removedRules),
    ("size_before", toString s.sizeBefore),
    ("size_after", toString s.sizeAfter),
    ("size_after_kb", Decimal.fixed 2 (quotient s.sizeAfter 1024)),
    ("reduction_ratio", Decimal.fixed 6 s.reductionRatio),
    ("unused_css_percent", Decimal.fixed 2 (s.reductionRatio * 100)),
    ("duration_ms", Decimal.fixed 3 s.durationMs)]

def summary (r : Report) : String :=
  String.join ((summaryLines r).map fun (name, value) => name ++ "=" ++ value ++ "\n")

end StylePrune.Report
