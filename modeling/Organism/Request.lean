import Organism.Fault
import Organism.Named
import Organism.Number.Basic
import Organism.Number.Numeral

/-!
# Requests

A request asks the organism for one operation: to report something, or to change something.

The fields of a request may hold any values.  Every field that is not what it should be adds a
complaint, in the order of the fields; only if there is none is it checked that the operation has
what it needs.

A line of the shell is a command word and its arguments, separated by blanks.  The command word is
read in any case, and some operations have shorter names.
-/

namespace Organism

/-- what can be asked for -/
inductive Operation where
  | help
  | status
  | topology
  | nodes
  | organs
  | peripherals
  | health
  | alerts
  | awareness
  | metrics
  | capabilities
  | memory
  | damage
  | heal
  | setSim
  | setLogs
  | save
  | load
deriving DecidableEq, Inhabited

namespace Operation

instance : Named Operation where
  all :=
    [help, status, topology, nodes, organs, peripherals, health, alerts, awareness, metrics,
      capabilities, memory, damage, heal, setSim, setLogs, save, load]
  label
    | help => "help"
    | status => "status"
    | topology => "topology"
    | nodes => "nodes"
    | organs => "organs"
    | peripherals => "peripherals"
    | health => "health"
    | alerts => "alerts"
    | awareness => "awareness"
    | metrics => "metrics"
    | capabilities => "capabilities"
    | memory => "memory"
    | damage => "damage"
    | heal => "heal"
    | setSim => "set_sim"
    | setLogs => "set_logs"
    | save => "save"
    | load => "load"

def label (op : Operation) : String := Named.label op

def needsOrgan (op : Operation) : Bool := op == damage || op == heal

def needsLevel (op : Operation) : Bool := op == setSim || op == setLogs

end Operation

structure Request where
  operation : Operation
  organ : Option OrganKind := none
  amount : Option Number := none
  level : Option String := none
  /-- the state file to save to or load from, if it is not the configured one -/
  path : Option String := none
deriving DecidableEq

/-! ## fields -/

/-- the fields of a request; a field that is absent holds nothing -/
structure RequestFields where
  operation : Value := .none
  organ : Value := .none
  amount : Value := .none
  level : Value := .none
  path : Value := .none

namespace RequestFields

/-- the names of the operations, as a complaint lists them -/
def choices : String :=
  let names := (Named.all (α := Operation)).map fun op => "\x27" ++ op.label ++ "\x27"
  ", ".intercalate names.dropLast ++ " or " ++ (names.getLast?.getD "")

/-- the text of bytes, if they are one -/
def textOfBytes? (bs : List UInt8) : Option String := (Utf8.decode bs).toOption.map .ofList

def readOperation : Value → Except FieldError Operation
  | .text s => (Named.find? s).elim (.error (.operation choices)) .ok
  | .bytes bs => ((textOfBytes? bs).bind Named.find?).elim (.error (.operation choices)) .ok
  | _ => .error (.operation choices)

/-- a word stands for an organ, bytes only if they are its name -/
def readOrgan : Value → Except FieldError (Option OrganKind)
  | .none => .ok none
  | .text s => (OrganKind.ofWord? s).elim (.error (.unknownOrgan s)) fun k => .ok (some k)
  | .bytes bs =>
    ((textOfBytes? bs).bind Named.find?).elim (.error .organ) fun k => .ok (some k)
  | _ => .error .organ

def readText : Value → Except FieldError (Option String)
  | .none => .ok none
  | .text s => .ok (some s)
  | .bytes bs => (textOfBytes? bs).elim (.error .notUnicode) fun s => .ok (some s)
  | _ => .error .notText

section
variable [Rounding]

def amountNumber : Value → Except FieldError (Option Number)
  | .none => .ok none
  | .flag b => .ok (some (.finite (if b then 1 else 0)))
  | .whole n =>
    let x := Rounding.round n
    if x.isFinite then .ok (some x) else .error .notNumber
  | .real x => .ok (some x)
  | .text s => (Number.ofField? s).elim (.error .notNumeral) fun x => .ok (some x)
  | .bytes bs =>
    ((textOfBytes? bs).bind Number.ofField?).elim (.error .notNumeral) fun x => .ok (some x)
  | _ => .error .notNumber

def readAmount (v : Value) : Except FieldError (Option Number) := do
  match ← amountNumber v with
  | none => return none
  | some x => if x.isFinite then return some x else throw .notFinite

end

def complaint {α : Type} : Except FieldError α → List FieldError
  | .ok _ => []
  | .error e => [e]

/-- the request lacks something that its operation needs -/
def missing (r : Request) : List FieldError :=
  if r.operation.needsOrgan && (r.organ.isNone || r.amount.isNone) then
    [.usage s!"{r.operation.label} <organ> <amount>"]
  else if r.operation.needsLevel && (r.level.getD "").isEmpty then
    [.usage s!"{r.operation.label} <level>"]
  else []

/-- the request that the fields make, or all that is wrong with them -/
def request [Rounding] (f : RequestFields) : Except RequestError Request :=
  match readOperation f.operation, readOrgan f.organ, readAmount f.amount, readText f.level,
    readText f.path with
  | .ok operation, .ok organ, .ok amount, .ok level, .ok path =>
    let r := { operation, organ, amount, level, path }
    if (missing r).isEmpty then .ok r else .error (.fields (missing r))
  | operation, organ, amount, level, path =>
    .error (.fields
      (complaint operation ++ complaint organ ++ complaint amount ++ complaint level ++
        complaint path))

end RequestFields

/-! ## lines -/

namespace Request

def operation? (head : String) : Option Operation :=
  if head = "sim" then some .setSim
  else if head = "logs" || head = "log" then some .setLogs
  else if head = "caps" then some .capabilities
  else Named.find? head

/-- the word that stands for the configured state file -/
def isDefaultPath (word : String) : Bool := Text.toLower word == "state"

def lineFields (op : Operation) (head : String) (args : List String) :
    Except RequestError RequestFields :=
  let base : RequestFields := { operation := .text op.label }
  if op.needsOrgan then
    match args with
    | [organ, amount] => .ok { base with organ := .text organ, amount := .text amount }
    | _ => .error (.usage s!"{op.label} <organ> <amount>")
  else if op.needsLevel then
    match args with
    | [level] => .ok { base with level := .text level }
    | _ => .error (.usage s!"{head} <level>")
  else if op = .save || op = .load then
    match args with
    | path :: _ => .ok (if isDefaultPath path then base else { base with path := .text path })
    | [] => .ok base
  else .ok base

def ofLine [Rounding] (line : String) : Except RequestError Request :=
  match (Text.words line.toList).map String.ofList with
  | [] => .error .emptyLine
  | word :: args =>
    let head := Text.toLower word
    match operation? head with
    | none => .error (.unknownCommand head)
    | some op => do (← lineFields op head args).request

end Request

end Organism
