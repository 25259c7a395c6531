/-!
# Where reports go

A report is not written, goes to the file of its usual name, or to a given file.
-/

namespace StylePrune

inductive Output where
  | off
  | usual
  | path (path : String)
deriving DecidableEq, Repr, Inhabited

namespace Output

/-- The file name, unless nothing is written; an empty path writes nothing. -/
def name? (o : Output) (usualName : String) : Option String :=
  match o with
  | off => none
  | usual => some usualName
  | path p => if p = "" then none else some p

def isOn (o : Output) : Bool := (o.name? "").isSome

end Output

/-- The outputs of a report: as data, as a page, and as a summary for scripts. -/
structure ReportOutputs where
  json : Output := .off
  html : Output := .off
  ci : Output := .off
deriving DecidableEq, Repr, Inhabited

end StylePrune
