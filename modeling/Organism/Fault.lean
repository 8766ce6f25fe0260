import Organism.Error
import Organism.Value.Basic

/-!
# Faults

Everything that can stop an operation, by cause.  `Fault.message` words it and `Fault.label` names
its class, as results and warnings do; `Fault.isExpected` holds for the failures that a command
reports as its result, while all others abort the operation that they occur in.
-/

namespace Organism

inductive Fault where
  /-- the readings of an organ could not be taken -/
  | unavailable (organ reason : String)
  | refused (e : RequestError)
  | malformed (e : StateError)
  | notWritten (path : String) (e : FileError)
  | notRead (path : String) (e : FileError)
  /-- a file operation outside of saving and loading -/
  | file (e : FileError)
  | notUtf8 (e : Utf8.DecodeError)
  | settings (e : SettingsError)
  | document (e : DocumentError)
  | notNumeral (shown : String)
  | notNumber (kind : Kind)
  | tooLarge
  | divisionByZero
  | quotientTooLarge
  | notFinite (number : String)
  | incomparable (comparison : String) (left right : Kind)
  | notOperand (operator : String) (left right : Kind)
  | notPlaces (kind : Kind)
  | noAttribute (kind : Kind) (name : String)
  | wrongType (expected : String) (kind : Kind)
  | unknownName (shown sort : String)
  | unknownOrgan (word : String)
  | noOrgan (organ : OrganKind)
  | noTiers
  | attachedElsewhere (device : String) (organ : Int)
  | secondNode (id : Int)
  | secondOrgan (organ : OrganKind)
  | noNode (organ : OrganKind) (node : Int)
  | unsupportedEntry (kind : Kind)
  | wrongFamily (organ expected found : String)
  | unknownSignal (family name : String)
  | unknownProvider (name : String)
  | intervalTooShort (daemon : String)
  | negativeHistory
  | negativeSeed
  | noDraws
  | badTemplate (template : String)
  /-- a part outside of the organism broke down -/
  | breakdown (text : String)

namespace Fault

def message : Fault → String
  | unavailable organ reason =>
    s!"telemetry unavailable for {organ}" ++ if reason.isEmpty then "" else s!": {reason}"
  | refused e => e.message
  | malformed e => e.message
  | notWritten path e => s!"could not write state to {path}: {e.message}"
  | notRead path e => s!"could not read state from {path}: {e.message}"
  | file e => e.message
  | notUtf8 e => e.message
  | settings e => e.message
  | document e => e.message
  | notNumeral shown => s!"could not convert string to float: {shown}"
  | notNumber kind => s!"float() argument must be a string or a real number, not '{kind.label}'"
  | tooLarge => "int too large to convert to float"
  | divisionByZero => "division by zero"
  | quotientTooLarge => "integer division result too large for a float"
  | notFinite number => s!"expected a finite value, got {number}"
  | incomparable comparison left right =>
    s!"'{comparison}' not supported between instances of '{left.label}' and '{right.label}'"
  | notOperand operator left right =>
    s!"unsupported operand type(s) for {operator}: '{left.label}' and '{right.label}'"
  | notPlaces .text => "Unknown format code 'f' for object of type 'str'"
  | notPlaces kind => s!"unsupported format string passed to {kind.label}.__format__"
  | noAttribute kind name => s!"'{kind.label}' object has no attribute '{name}'"
  | wrongType expected kind => s!"expected {expected}, not {kind.label}"
  | unknownName shown sort => s!"{shown} is not a valid {sort}"
  | unknownOrgan word => s!"unknown organ '{word}'"
  | noOrgan organ => s!"<OrganKind.{organ.label.toUpper}: '{organ.label}'>"
  | noTiers => "max() arg is an empty sequence"
  | attachedElsewhere device organ => s!"peripheral {device} already belongs to organ {organ}"
  | secondNode id => s!"duplicate node id {id}"
  | secondOrgan organ => s!"duplicate organ kind {organ.label}"
  | noNode organ node => s!"organ {organ.label} references unknown node {node}"
  | unsupportedEntry kind => s!"unsupported memory value type: {kind.label}"
  | wrongFamily organ expected found => s!"{organ} expects {expected}, got {found}"
  | unknownSignal family name =>
    s!"{family}.__init__() got an unexpected keyword argument '{name}'"
  | unknownProvider name =>
    s!"unknown telemetry provider '{name}' (expected one of ('sim', 'real'))"
  | intervalTooShort daemon => s!"{daemon}: interval must be >= 1"
  | negativeHistory => "maxlen must be non-negative"
  | negativeSeed => "expected non-negative integer"
  | noDraws => "draws exhausted"
  | badTemplate template => s!"Invalid format '{template}' for '%' style"
  | breakdown text => text

/-- the class of a fault, as it is named in results and warnings -/
def label : Fault → String
  | unavailable .. => "TelemetryUnavailable"
  | refused _ => "InvalidRequest"
  | malformed _ => "ParseError"
  | notWritten .. => "PersistenceWriteError"
  | notRead .. => "PersistenceReadError"
  | file (.os .notFound ..) => "FileNotFoundError"
  | file (.os .isDirectory ..) => "IsADirectoryError"
  | file (.os .notDirectory ..) => "NotADirectoryError"
  | file (.os .exists ..) => "FileExistsError"
  | file (.os ..) => "OSError"
  | file .nulInPath | notPlaces .text => "ValueError"
  | notUtf8 _ => "UnicodeDecodeError"
  | document e => e.label
  | notNumber _ | incomparable .. | notOperand .. | notPlaces _ | wrongType .. | unsupportedEntry _
  | wrongFamily .. | unknownSignal .. => "TypeError"
  | tooLarge | quotientTooLarge => "OverflowError"
  | divisionByZero => "ZeroDivisionError"
  | noAttribute .. => "AttributeError"
  | noOrgan _ => "KeyError"
  | noDraws | breakdown _ => "RuntimeError"
  | settings _ | notNumeral _ | notFinite _ | unknownName .. | unknownOrgan _
  | noTiers | attachedElsewhere .. | secondNode _ | secondOrgan _ | noNode .. | unknownProvider _
  | intervalTooShort _ | negativeHistory | negativeSeed | badTemplate _ => "ValueError"

/-- the failures that are part of the organism's business -/
def isExpected : Fault → Bool
  | unavailable .. | refused _ | malformed _ | notWritten .. | notRead .. => true
  | _ => false

end Fault
end Organism
