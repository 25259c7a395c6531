import StylePrune.Extractor.Run
import StylePrune.Content.Heuristics
import StylePrune.Prune

/-!
# Options of scanning and pruning

What a user may choose: classes and patterns to keep, what to do about classes that are put together
at run time, whether to write compactly, and extractors.
-/

namespace StylePrune

/-- An entry of a safelist: a class list, or a value that is no text. -/
inductive SafelistEntry where
  | text (text : String)
  | other (value : Json)
deriving Inhabited

def SafelistEntry.shown : SafelistEntry → String
  | text s => s
  | other value => value.shown

/-- Whether patterns for classes put together at run time are collected, or given. -/
inductive DynamicPatterns where
  | drop
  | collect
  | given (entries : List PatternEntry)
deriving Inhabited

namespace DynamicPatterns

/-- Whether scanning collects patterns; a list that is not empty asks for it too. -/
def collects : DynamicPatterns → Bool
  | drop => false
  | collect => true
  | given entries => !entries.isEmpty

end DynamicPatterns

structure Options where
  safelist : List SafelistEntry := []
  safelistPatterns : List PatternEntry := []
  dynamicPatterns : DynamicPatterns := .drop
  minify : Bool := false
  extractors : List Extractor.Definition := []
deriving Inhabited

def Options.pruning (o : Options) : PruneOptions :=
  ⟨o.safelist.map SafelistEntry.shown, o.safelistPatterns, o.minify⟩

/-- Why content cannot be scanned. -/
inductive ScanError where
  | config (error : Extractor.ConfigError)
  | run (error : Extractor.RunError)
  | safelist (kind : String)
  | pattern (error : Regex.PatternError)

def ScanError.message : ScanError → String
  | config e => e.message
  | run e => e.message
  | safelist kind => (Extractor.Fault.notText kind).message
  | pattern e => e.message ""

/-- Scans a text with extractors if there are any, and else with the recognisers. -/
def scanText (o : Options) (extractors : List Extractor) (content : String)
    (label : Option String) (cwd : String) : Except ScanError Scan :=
  if extractors.isEmpty then .ok (Content.scan o.dynamicPatterns.collects label content.toList)
  else (Extractor.run extractors content label cwd).mapError .run

/-- Scans one text. -/
def scanContent (o : Options) (content : String) (label : Option String) (cwd : String) :
    Except ScanError Scan :=
  match Extractor.checkAll o.extractors with
  | .error e => .error (.config e)
  | .ok extractors => scanText o extractors content label cwd

end StylePrune
