import Organism.Named
import Organism.Number.Numeral
import Organism.Text.Basic

/-!
# The command line

The options of the program.  An option may be shortened as long as only one begins that way, and its
argument follows it or is joined to it by `=`.  The first mistake ends the reading; arguments that
belong to no option are only complained about at the end.

* `Options.parse`          the options of a command line;
* `OptionError.message`    what is wrong with it.
-/

namespace Organism

inductive Flag where
  | help
  | config
  | stateFile
  | logLevel
  | simLevel
  | logFilter
  | telemetry
  | ticks
  | noShell
deriving DecidableEq

namespace Flag

instance : Named Flag where
  all := [help, config, stateFile, logLevel, simLevel, logFilter, telemetry, ticks, noShell]
  label
    | help => "--help"
    | config => "--config"
    | stateFile => "--state-file"
    | logLevel => "--log-level"
    | simLevel => "--sim-level"
    | logFilter => "--log-filter"
    | telemetry => "--telemetry"
    | ticks => "--ticks"
    | noShell => "--no-shell"

def title (f : Flag) : String := if f = help then "-h/--help" else Named.label f

def hasArgument (f : Flag) : Bool := f ≠ help && f ≠ noShell

def choices? : Flag → Option (List String)
  | logLevel => some ["DEBUG", "INFO", "WARNING", "ERROR"]
  | simLevel => some ((Named.all (α := SimLevel)).map SimLevel.label)
  | logFilter => some ((Named.all (α := Verbosity)).map Verbosity.label)
  | telemetry => some ["sim", "real"]
  | _ => none

end Flag

inductive OptionError where
  | ambiguous (word : String) (flags : List Flag)
  | noArgument (flag : Flag)
  | superfluous (flag : Flag) (argument : String)
  | notWhole (flag : Flag) (argument : String)
  | notChoice (flag : Flag) (argument : String) (choices : List String)
  | unrecognized (words : List String)

def OptionError.message : OptionError → String
  | ambiguous word flags =>
    s!"ambiguous option: {word} could match " ++ ", ".intercalate (flags.map Named.label)
  | noArgument flag => s!"argument {flag.title}: expected one argument"
  | superfluous flag argument =>
    s!"argument {flag.title}: ignored explicit argument {Text.quoted argument}"
  | notWhole flag argument => s!"argument {flag.title}: invalid int value: {Text.quoted argument}"
  | notChoice flag argument choices =>
    s!"argument {flag.title}: invalid choice: {Text.quoted argument} " ++
      "(choose from " ++ ", ".intercalate (choices.map Text.quoted) ++ ")"
  | unrecognized words => "unrecognized arguments: " ++ " ".intercalate words

/-- what the options say -/
structure Options where
  config : Option String := none
  stateFile : Option String := none
  logLevel : Option String := none
  simLevel : Option SimLevel := none
  verbosity : Option Verbosity := none
  telemetry : Option String := none
  ticks : Option Int := none
  noShell : Bool := false
  help : Bool := false

namespace Options

/-! ## single words -/

def splitJoined (cs : List Char) : List Char × Option (List Char) :=
  (cs.takeWhile (· ≠ '='), ((cs.dropWhile (· ≠ '=')).tail?))

/-- digits, perhaps with a point, after a minus sign -/
def isNegativeNumber (cs : List Char) : Bool :=
  match cs with
  | '-' :: body =>
    let whole := body.takeWhile Text.isDigit
    match body.dropWhile Text.isDigit with
    | [] => !whole.isEmpty
    | '.' :: part => !part.isEmpty && part.all Text.isDigit
    | _ => false
  | _ => false

/-- what a word is -/
inductive Word where
  /-- an argument, or nothing of use -/
  | plain
  /-- an option, with an argument joined to it -/
  | flag (f : Flag) (joined : Option String)
  /-- something that looks like an option -/
  | stranger
  /-- the mark after which there are only arguments -/
  | mark

/-- the options that begin like a word -/
def beginning (word : List Char) : List Flag :=
  (Named.all (α := Flag)).filter fun f => word.isPrefixOf (Named.label f).toList

/-- the options that a word may mean, each with the argument joined to it -/
def candidates (cs : List Char) : List (Flag × Option String) :=
  match cs with
  | '-' :: '-' :: _ =>
    let (name, joined) := splitJoined cs
    match Named.find? (String.ofList name) with
    | some f => [(f, joined.map .ofList)]
    | none => (beginning name).map fun f => (f, joined.map .ofList)
  | '-' :: 'h' :: rest =>
    let (name, joined) := splitJoined rest
    let argument := if name.isEmpty then joined else some rest
    [(.help, argument.map .ofList)]
  | _ => []

def classify (word : String) : Except OptionError Word :=
  let cs := word.toList
  match cs with
  | ['-', '-'] => .ok .mark
  | '-' :: _ :: _ =>
    match candidates cs with
    | [(f, joined)] => .ok (.flag f joined)
    | [] => .ok (if isNegativeNumber cs || cs.contains ' ' then .plain else .stranger)
    | many => .error (.ambiguous word (many.map (·.1)))
  | _ => .ok .plain

/-! ## the whole line -/

def put (o : Options) (f : Flag) (argument : String) : Except OptionError Options :=
  match f.choices? with
  | some choices =>
    if choices.contains argument then
      match f with
      | .logLevel => .ok { o with logLevel := some argument }
      | .simLevel => .ok { o with simLevel := Named.find? argument }
      | .logFilter => .ok { o with verbosity := Named.find? argument }
      | _ => .ok { o with telemetry := some argument }
    else .error (.notChoice f argument choices)
  | none =>
    match f with
    | .ticks =>
      match wholeOfText? argument with
      | some n => .ok { o with ticks := some n }
      | none => .error (.notWhole f argument)
    | .stateFile => .ok { o with stateFile := some argument }
    | _ => .ok { o with config := some argument }

/-- the words with what each of them is; after the mark there are only arguments -/
def classifyAll : List String → Except OptionError (List (String × Word))
  | [] => .ok []
  | w :: ws => do
    match ← classify w with
    | .mark => return (w, .mark) :: ws.map fun w => (w, .plain)
    | c => return (w, c) :: (← classifyAll ws)

/-- reads on, with the words so far that belong to no option -/
def read (o : Options) (extra : List String) : List (String × Word) → Except OptionError Options
  | [] => if extra.isEmpty then .ok o else .error (.unrecognized extra)
  | (_, .flag f joined) :: rest =>
    if f.hasArgument then
      match joined with
      | some argument => do read (← o.put f argument) extra rest
      | none =>
        match rest with
        | (argument, .plain) :: rest => do read (← o.put f argument) extra rest
        | _ => .error (.noArgument f)
    else
      match joined with
      | some argument => .error (.superfluous f argument)
      | none =>
        if f = .help then .ok { o with help := true }
        else read { o with noShell := true } extra rest
  | (w, _) :: rest => read o (extra ++ [w]) rest

def usage : String :=
  let shown := (Named.all (α := Flag)).map fun f =>
    s!"  {f.title}" ++
      match f.choices? with
      | some words => " " ++ "|".intercalate words
      | none => if f.hasArgument then " VALUE" else ""
  "\n".intercalate ("usage: aion-kernel [options]" :: shown)

/-- the options of a command line -/
def parse (argv : List String) : Except OptionError Options := do
  read {} [] (← classifyAll argv)

end Options
end Organism
