import StylePrune.Text.Basic
import StylePrune.Text.CharClass
import StylePrune.Text.Quoted

/-!
# Options on a command line

A command has options, each with one or more names, that take no argument, one, or at most one. An
argument follows its option, or is attached to it: after an equals sign, or right after a short
name. A long name may be cut short as long as only one option begins so. Words that belong to no
option are left over. Two hyphens alone end the options.
-/

namespace StylePrune.CommandLine

/-- What an option does to the values read so far. -/
inductive Effect (σ : Type) where
  | flag (set : σ → σ)
  | text (set : σ → String → σ)
  /-- An argument that must be of a kind. -/
  | checked (kind : String) (set? : σ → String → Option σ)
  | optional (set : σ → Option String → σ)
  /-- Asks for help instead of a run. -/
  | help
  /-- Asks for the version instead of a run. -/
  | version

structure Opt (σ : Type) where
  names : List String
  effect : Effect σ

/-- Why a command line is refused. -/
inductive Fault where
  | ambiguous (given : String) (candidates : List String)
  | expectedOne (option : String)
  | ignoredArgument (option value : String)
  | invalidValue (option kind value : String)
  | unrecognized (words : List String)
deriving DecidableEq, Repr

def Fault.message : Fault → String
  | ambiguous given candidates =>
    s!"ambiguous option: {given} could match " ++ String.intercalate ", " candidates
  | expectedOne option => s!"argument {option}: expected one argument"
  | ignoredArgument option value =>
    s!"argument {option}: ignored explicit argument {Quoted.string value}"
  | invalidValue option kind value =>
    s!"argument {option}: invalid {kind} value: {Quoted.string value}"
  | unrecognized words => "unrecognized arguments: " ++ String.intercalate " " words

/-- Why no values are read: a fault, or a request for something else. -/
inductive Stop where
  | fault (fault : Fault)
  | help
  | version
deriving DecidableEq, Repr

namespace Opt

variable {σ : Type}

/-- All names of an option, as messages show them. -/
def title (o : Opt σ) : String := String.intercalate "/" o.names

def takesArgument (o : Opt σ) : Bool :=
  match o.effect with
  | .text _ | .checked .. | .optional _ => true
  | .flag _ | .help | .version => false

/-- Applies an option with the argument it was given. -/
def apply (o : Opt σ) (values : σ) (argument : Option String) : Except Stop σ :=
  match o.effect with
  | .flag set => .ok (set values)
  | .text set =>
    match argument with
    | some text => .ok (set values text)
    | none => .error (.fault (.expectedOne o.title))
  | .checked kind set? =>
    match argument with
    | some text =>
      match set? values text with
      | some values => .ok values
      | none => .error (.fault (.invalidValue o.title kind text))
    | none => .error (.fault (.expectedOne o.title))
  | .optional set => .ok (set values argument)
  | .help => .error .help
  | .version => .error .version

end Opt

/-- An argument attached to an option, after an equals sign or not. -/
structure Attached where
  afterEquals : Bool
  text : List Char

/-- A word of a command line. -/
inductive Word (σ : Type) where
  /-- No option. -/
  | plain (text : String)
  /-- The two hyphens that end the options. -/
  | separator
  | option (option : Opt σ) (name : String) (attached : Option Attached)
  /-- A word that looks like an option and is none. -/
  | unknown (text : String)

section Reading

variable {σ : Type}

def named? (options : List (Opt σ)) (name : String) : Option (Opt σ) :=
  options.find? fun o => o.names.contains name

/-- The options some name of which starts with `start`, each with that name. -/
def startingWith (options : List (Opt σ)) (start : List Char) : List (Opt σ × String) :=
  options.flatMap fun o =>
    (o.names.filter fun n => start.isPrefixOf n.toList).map fun n => (o, n)

/-- Digits after a minus, with a point or not. One line end may follow them. -/
def isNegativeNumber (word : List Char) : Bool :=
  let digits (cs : List Char) : Bool := !cs.isEmpty && cs.all fun c => isDecimal c.toNat
  match word with
  | '-' :: rest =>
    let rest := if rest.getLast? = some '\n' then rest.dropLast else rest
    digits rest ||
      match rest.dropWhile fun c => isDecimal c.toNat with
      | '.' :: fraction => digits fraction
      | _ => false
  | _ => false

/-- The name and the attached argument of a word with an equals sign. -/
def cutAtEquals (word : List Char) : List Char × Option Attached :=
  match word.dropWhile (· ≠ '=') with
  | [] => (word, none)
  | _ :: value => (word.takeWhile (· ≠ '='), some ⟨true, value⟩)

/-- What a word could be short for. -/
def candidates (options : List (Opt σ)) (word : List Char) :
    List (Opt σ × String × Option Attached) :=
  match word with
  | '-' :: '-' :: _ =>
    let (start, attached) := cutAtEquals word
    (startingWith options start).map fun (o, n) => (o, n, attached)
  | '-' :: c :: rest =>
    let short := String.ofList ['-', c]
    options.flatMap fun o => o.names.filterMap fun n =>
      if n = short then some (o, n, some ⟨false, rest⟩)
      else if word.isPrefixOf n.toList then some (o, n, none)
      else none
  | _ => []

/-- What a word before the end of the options is. -/
def readWord (options : List (Opt σ)) (text : String) : Except Fault (Word σ) :=
  let word := text.toList
  match word with
  | '-' :: _ :: _ =>
    match named? options text with
    | some o => .ok (.option o text none)
    | none =>
      let (start, attached) := cutAtEquals word
      match (if attached.isSome then named? options (String.ofList start) else none) with
      | some o => .ok (.option o (String.ofList start) attached)
      | none =>
        match candidates options word with
        | [(o, n, attached)] => .ok (.option o n attached)
        | [] =>
          if isNegativeNumber word || word.contains ' ' then .ok (.plain text)
          else .ok (.unknown text)
        | many => .error (.ambiguous text (many.map fun (_, n, _) => n))
  | _ => .ok (.plain text)

/-- The words of a command line. -/
def readWords (options : List (Opt σ)) : List String → Except Fault (List (Word σ))
  | [] => .ok []
  | text :: rest =>
    if text = "--" then .ok (.separator :: rest.map .plain)
    else
      match readWord options text with
      | .error fault => .error fault
      | .ok word => (readWords options rest).map (word :: ·)

/-- What one word asks for: options with their arguments, how many of the next words are arguments,
and a word left over. -/
structure Request (σ : Type) where
  uses : List (Opt σ × Option String)
  taken : Nat := 0
  left : List String := []

/-- An option with nothing attached takes the next word if it is plain. -/
def requestFrom (o : Opt σ) (next : Option (Word σ)) : Except Fault (Request σ) :=
  if o.takesArgument then
    match next, o.effect with
    | some (.plain text), _ => .ok { uses := [(o, some text)], taken := 1 }
    | _, .optional _ => .ok { uses := [(o, none)] }
    | _, _ => .error (.expectedOne o.title)
  else .ok { uses := [(o, none)] }

/-- An option with something attached. If it takes no argument, a short name is followed by the
names of further short options. -/
def requestAttached (options : List (Opt σ)) (next : Option (Word σ)) (o : Opt σ) (name : String)
    (afterEquals : Bool) (text : List Char) : Except Fault (Request σ) :=
  if o.takesArgument then .ok { uses := [(o, some (String.ofList text))] }
  else if "--".toList.isPrefixOf name.toList then
    .error (.ignoredArgument o.title (String.ofList text))
  else
    match text with
    | [] => .error (.ignoredArgument o.title "")
    | c :: more =>
      if afterEquals || c = '-' then .error (.ignoredArgument o.title (String.ofList text))
      else
        let name := String.ofList ['-', c]
        match named? options name with
        | none => .ok { uses := [(o, none)], left := [String.ofList ('-' :: text)] }
        | some other =>
          let request :=
            match more with
            | [] => requestFrom other next
            | '=' :: value => requestAttached options next other name true value
            | more => requestAttached options next other name false more
          request.map fun r => { r with uses := (o, none) :: r.uses }
termination_by text.length
decreasing_by all_goals (simp only [List.length_cons]; omega)

/-- Applies options in order. -/
def applyAll (values : σ) : List (Opt σ × Option String) → Except Stop σ
  | [] => .ok values
  | (o, argument) :: rest =>
    match o.apply values argument with
    | .error stop => .error stop
    | .ok values => applyAll values rest

/-- Reads words, of which the first `skip` are arguments already taken; gives the values and the
words left over. -/
def readFrom (options : List (Opt σ)) (values : σ) (skip : Nat) :
    List (Word σ) → Except Stop (σ × List String)
  | [] => .ok (values, [])
  | word :: rest =>
    match skip with
    | skip + 1 => readFrom options values skip rest
    | 0 =>
      let leftOver (text : String) : Except Stop (σ × List String) :=
        (readFrom options values 0 rest).map fun (v, left) => (v, text :: left)
      match word with
      | .plain text | .unknown text => leftOver text
      | .separator => leftOver "--"
      | .option o name attached =>
        let request := match attached with
          | none => requestFrom o rest.head?
          | some a => requestAttached options rest.head? o name a.afterEquals a.text
        match request with
        | .error fault => .error (.fault fault)
        | .ok r =>
          match applyAll values r.uses with
          | .error stop => .error stop
          | .ok values =>
            (readFrom options values r.taken rest).map fun (v, left) => (v, r.left ++ left)

/-- Reads the words of a command. -/
def readOptions (options : List (Opt σ)) (usual : σ) (words : List String) :
    Except Stop (σ × List String) :=
  match readWords options words with
  | .error fault => .error (.fault fault)
  | .ok words => readFrom options usual 0 words

end Reading

end StylePrune.CommandLine
