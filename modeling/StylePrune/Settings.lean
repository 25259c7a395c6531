import StylePrune.Decimal.Read
import StylePrune.Text.Basic
import StylePrune.Text.LetterCase

/-!
# Settings of the environment

Variables of the environment give the values that neither a configuration nor an argument gives. A
port that is no number is replaced by the usual one, with a warning.
-/

namespace StylePrune

/-- The variables of an environment. -/
abbrev Environment := List (String × String)

structure Settings where
  cwd : String := "."
  content : List String := []
  css : List String := []
  safelist : List String := []
  safelistPatterns : List String := []
  keepDynamicPatterns : Bool := false
  minify : Bool := false
  cacheDir : String := ".cache/bonsaicss"
  persistCache : Bool := false
  logLevel : String := "WARNING"
  serverHost : String := "127.0.0.1"
  serverPort : Int := 8100
deriving DecidableEq, Repr, Inhabited

namespace Settings

def usualPort : Int := 8100

def portVariable : String := "BONSAI_SERVER_PORT"

/-- The variables that count. -/
def variableNames : List String :=
  ["BONSAI_CWD", "BONSAI_CONTENT", "BONSAI_CSS", "BONSAI_SAFELIST", "BONSAI_SAFELIST_PATTERNS",
    "BONSAI_KEEP_DYNAMIC_PATTERNS", "BONSAI_MINIFY", "BONSAI_CACHE_DIR", "BONSAI_PERSIST_CACHE",
    "BONSAI_LOG_LEVEL", "BONSAI_SERVER_HOST", portVariable]

/-- The items between commas, without the blanks around them and without empty ones. -/
def items (value : String) : List String :=
  ((splitString ',' value).map trim).filter (· ≠ "")

def listOf (env : Environment) (name : String) : List String :=
  items ((env.lookup name).getD "")

/-- The words that switch a flag on. -/
def flagWords : List String := ["1", "true", "yes", "on"]

def flagOf (env : Environment) (name : String) : Bool :=
  flagWords.contains (lowerCase ((env.lookup name).getD "false"))

def textOf (env : Environment) (name usual : String) : String := (env.lookup name).getD usual

def portWarning (value : String) : String :=
  s!"Invalid value '{value}' for {portVariable}, using default {usualPort}"

/-- The port of an environment, and a warning if its value is no integer. -/
def portOf (env : Environment) : Int × List String :=
  match env.lookup portVariable with
  | none => (usualPort, [])
  | some value =>
    match Decimal.readInt? value with
    | some port => (port, [])
    | none => (usualPort, [portWarning value])

/-- The settings of an environment, and the warnings about them. -/
def ofEnvironment (env : Environment) : Settings × List String :=
  let (port, warnings) := portOf env
  ({ cwd := textOf env "BONSAI_CWD" "."
     content := listOf env "BONSAI_CONTENT"
     css := listOf env "BONSAI_CSS"
     safelist := listOf env "BONSAI_SAFELIST"
     safelistPatterns := listOf env "BONSAI_SAFELIST_PATTERNS"
     keepDynamicPatterns := flagOf env "BONSAI_KEEP_DYNAMIC_PATTERNS"
     minify := flagOf env "BONSAI_MINIFY"
     cacheDir := textOf env "BONSAI_CACHE_DIR" ".cache/bonsaicss"
     persistCache := flagOf env "BONSAI_PERSIST_CACHE"
     logLevel := textOf env "BONSAI_LOG_LEVEL" "WARNING"
     serverHost := textOf env "BONSAI_SERVER_HOST" "127.0.0.1"
     serverPort := port }, warnings)

/-- The cache directory, if scans are kept in files. -/
def effectiveCacheDir? (s : Settings) : Option String :=
  if s.persistCache && s.cacheDir ≠ "" then some s.cacheDir else none

end Settings

end StylePrune
