import Organism.Named
import Organism.Text.Basic
import Organism.Text.Utf8

/-!
# Errors

What can be wrong with the things that the organism reads and writes, each with its wording.

* `FileError`       a file operation is refused, by the system or for the path itself;
* `DocumentError`   a text is no document;
* `SettingsError`   a document has not the shape of settings, or a setting is out of its range;
* `StateError`      a state file cannot be used;
* `RequestError`    a request is refused.
-/

namespace Organism

/-! ## files -/

inductive OsReason where
  | notFound
  | busy
  | exists
  | notDirectory
  | isDirectory
  | nameTooLong
deriving DecidableEq

namespace OsReason

def number : OsReason → Nat
  | notFound => 2
  | busy => 16
  | .exists => 17
  | notDirectory => 20
  | isDirectory => 21
  | nameTooLong => 36

def text : OsReason → String
  | notFound => "No such file or directory"
  | busy => "Device or resource busy"
  | .exists => "File exists"
  | notDirectory => "Not a directory"
  | isDirectory => "Is a directory"
  | nameTooLong => "File name too long"

end OsReason

inductive FileError where
  /-- refused for the path, or on the way from it to the target -/
  | os (reason : OsReason) (path : String) (target : Option String)
  | nulInPath
deriving DecidableEq

def FileError.message : FileError → String
  | os reason path target =>
    let paths :=
      match target with
      | none => Text.quoted path
      | some t => s!"{Text.quoted path} -> {Text.quoted t}"
    s!"[Errno {reason.number}] {reason.text}: {paths}"
  | nulInPath => "embedded null byte"

/-! ## documents -/

inductive DocumentError where
  | forbidden
  /-- characters that are no scalar, mark or key -/
  | illFormed
  /-- a scalar, mark or key in a place where another is expected -/
  | misplaced
  | unknownName
  | secondDocument
  | collectionKey
  | unknownSort
deriving DecidableEq

namespace DocumentError

def message : DocumentError → String
  | forbidden => "special characters are not allowed"
  | illFormed => "found characters that cannot start any token"
  | misplaced => "did not find expected token"
  | unknownName => "found undefined alias"
  | secondDocument => "expected a single document in the stream"
  | collectionKey => "found unhashable key"
  | unknownSort => "could not determine a constructor for the tag"

/-- the class of an error, by the stage of reading that finds it -/
def label : DocumentError → String
  | forbidden => "ReaderError"
  | illFormed => "ScannerError"
  | misplaced => "ParserError"
  | unknownName | secondDocument => "ComposerError"
  | collectionKey | unknownSort => "ConstructorError"

end DocumentError

/-! ## settings -/

inductive SettingsError where
  /-- the document that was read from the path holds no settings -/
  | topLevel (path : String)
  | unknownSetting (name : String)
  | unknownSettings (part : String) (names : List String)
  | notASection (part : String)
  /-- the item at the place has this length, not two, where entries are expected -/
  | notPairs (place length : Nat)
  | tickInterval
  | interval (daemon : String)
  | maxStep
  | recoveryStep
  | faultProbability (level : String)
  | damageRange (level : String)
deriving DecidableEq

def SettingsError.message : SettingsError → String
  | topLevel path => s!"{path}: top level must be a mapping"
  | unknownSetting name => s!"unknown config key '{name}'"
  | unknownSettings part names => s!"unknown keys in '{part}': " ++ ", ".intercalate names
  | notASection part => s!"config section '{part}' must be a mapping"
  | notPairs place length =>
    s!"dictionary update sequence element #{place} has length {length}; 2 is required"
  | tickInterval => "scheduler.tick_interval_sec must be >= 0"
  | interval daemon => s!"scheduler.{daemon}_interval must be >= 1"
  | maxStep => "health.max_step must be in (0, 1]"
  | recoveryStep => "health.recovery_step must be in [0, max_step]"
  | faultProbability level => s!"simulation.{level}.fault_probability must be in [0, 1]"
  | damageRange level => s!"simulation.{level} damage range is invalid"

/-! ## state files -/

inductive StateCause where
  | notText (e : Utf8.DecodeError)
  | noSeparator (line : String)
  | secondVersion
  | unsupportedVersion (value : String)
  | unknownOrgan (key : String)
  | secondRecord (organ : OrganKind)
  | notDecimal (value : String) (organ : OrganKind)
  | notFinite (organ : OrganKind)
  | absentOrgans (organs : List OrganKind)
deriving DecidableEq

def StateCause.message : StateCause → String
  | notText e => s!"state is not valid UTF-8: {e.message}"
  | noSeparator line => s!"missing '=' in record {Text.quoted line}"
  | secondVersion => "duplicate version record"
  | unsupportedVersion value => s!"unsupported state version {Text.quoted value}"
  | unknownOrgan key => s!"unknown organ {Text.quoted key}"
  | secondRecord organ => s!"duplicate record for {organ.label}"
  | notDecimal value organ => s!"invalid health value {Text.quoted value} for {organ.label}"
  | notFinite organ => s!"non-finite health value for {organ.label}"
  | absentOrgans organs =>
    "organ(s) not present in topology: " ++ ", ".intercalate (organs.map OrganKind.label)

/-- a cause, with the number of its line from 1 -/
structure StateError where
  line : Option Nat
  cause : StateCause
deriving DecidableEq

def StateError.message (e : StateError) : String :=
  match e.line with
  | none => e.cause.message
  | some n => s!"line {n}: {e.cause.message}"

/-! ## requests -/

/-- a complaint about one field, or about all of them together -/
inductive FieldError where
  | operation (choices : String)
  | unknownOrgan (word : String)
  | organ
  | notNumeral
  | notNumber
  | notFinite
  | notText
  | notUnicode
  | usage (form : String)
deriving DecidableEq

def FieldError.message : FieldError → String
  | operation choices => s!"Input should be {choices}"
  | unknownOrgan word => s!"Value error, unknown organ '{word}'"
  | organ => "Input should be 'cortex', 'memory' or 'io_bridge'"
  | notNumeral => "Input should be a valid number, unable to parse string as a number"
  | notNumber => "Input should be a valid number"
  | notFinite => "Value error, amount must be a finite number"
  | notText => "Input should be a valid string"
  | notUnicode =>
    "Input should be a valid string, unable to parse raw data as a unicode string"
  | usage form => s!"Value error, usage: {form}"

inductive RequestError where
  | emptyLine
  | unknownCommand (head : String)
  | usage (form : String)
  | fields (errors : List FieldError)
  | simLevel (word : String)
  | verbosity (word : String)
deriving DecidableEq

def RequestError.message : RequestError → String
  | emptyLine => "empty command"
  | unknownCommand head => s!"unknown command '{head}' (try 'help')"
  | usage form => s!"usage: {form}"
  | fields errors => "; ".intercalate (errors.map FieldError.message)
  | simLevel word => s!"invalid sim level '{word}'"
  | verbosity word => s!"invalid log filter '{word}'"

end Organism
