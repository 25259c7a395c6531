import StylePrune.Disk
import StylePrune.Report.Data
import StylePrune.Report.Output
import StylePrune.Report.Page

/-!
# The files of reports

An analysis and the reports go to files below the directory of the project, or to absolute paths. A
file that cannot be written is left out.
-/

namespace StylePrune.Report

def analysisFile : String := "bonsai-analysis.json"

def dataFile : String := "bonsai-report.json"

def pageFile : String := "bonsai-report.html"

def summaryFile : String := "bonsai-ci-stats.txt"

/-- Writes a text, if that can be done. -/
def tryWrite (disk : Disk) (path text : String) : Disk :=
  match disk.writeText path text with
  | .ok disk => disk
  | .error _ => disk

/-- Writes a text to an output, if it is on. -/
def writeOutput (disk : Disk) (directory : String) (output : Output) (usualName text : String) :
    Disk :=
  match output.name? usualName with
  | none => disk
  | some name => tryWrite disk (Path.absolute directory name) text

def writeAnalysis (disk : Disk) (directory : String) (output : Output) (origins : Origins) : Disk :=
  writeOutput disk directory output analysisFile (analysisJson origins).pretty

/-- Writes the page, if its output is on. A page that holds a surrogate leaves an empty file. -/
def writePage (disk : Disk) (directory : String) (output : Output) (page : Text) :
    Except Text.Unencodable Unit × Disk :=
  match output.name? pageFile with
  | none => (.ok (), disk)
  | some name =>
    let path := Path.absolute directory name
    match page.toString? with
    | .ok text => (.ok (), tryWrite disk path text)
    | .error fault =>
      match disk.writeText path "" with
      | .ok disk => (.error fault, disk)
      | .error _ => (.ok (), disk)

/-- Writes a report as data, as a page and as a summary, to the outputs that are on. -/
def writeAll (r : Report) (disk : Disk) (directory : String) (outputs : ReportOutputs) :
    Except Text.Unencodable Unit × Disk :=
  let disk := writeOutput disk directory outputs.json dataFile r.toJson.pretty
  match writePage disk directory outputs.html (Page.render r) with
  | (.error fault, disk) => (.error fault, disk)
  | (.ok (), disk) => (.ok (), writeOutput disk directory outputs.ci summaryFile r.summary)

end StylePrune.Report
