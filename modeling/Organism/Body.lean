import Organism.Anatomy.Registry
import Organism.Files
import Organism.Health.Alert
import Organism.Journal
import Organism.Memory
import Organism.Dice
import Organism.Sense.Senses
import Organism.Settings.Basic
import Organism.Signal.Bus
import Organism.State.Record

/-!
# The body

A `Body` is the whole state of an organism, and an `Act` is something that happens to it: it ends
with a result or a fault, and what it did before a fault stays done.

* `Act.refreshAwareness`   the awareness on the bus made that of the healths;
* `Act.evaluate`           the alerts since the last evaluation, noted;
* `Act.saveState`          the healths written to a file, as a whole or not at all;
* `Act.loadState`          the healths of a file taken over; a missing file changes nothing;
* `Act.restore`            the same before the first tick, where a file that cannot be used is only
                           noted.
-/

namespace Organism

structure Body where
  topology : Topology
  bus : Bus := {}
  memory : Memory := {}
  registry : Registry := {}
  files : FileSystem := {}
  senses : Senses
  dice : Dice
  /-- the last complete set of readings -/
  readings : Option Readings := none
  beats : Nat := 0
  /-- someone asked for an end of the ticks -/
  stopped : Bool := false
  journal : List LogRecord := []
  /-- the lines of all recorders -/
  seen : List String := []
  /-- the lines written to the terminal -/
  console : List String := []

/-- what is fixed when an organism is put together -/
structure Setup where
  limits : Limits
  simulation : SimulationSettings
  statePath : FilePath
  /-- the daemons write into the working memory -/
  remembers : Bool := true

/-- something that happens to a body -/
abbrev Act (α : Type) := ExceptT Fault (StateM Body) α

namespace Body

def note (b : Body) (level : LogLevel) (source : LogSource) (text : String) : Body :=
  { b with journal := b.journal ++ [⟨level, source, text⟩] }

def publish (b : Body) (m : Message) : Body := { b with bus := b.bus.publish m }

def print (b : Body) (line : String) : Body := { b with console := b.console ++ [line] }

/-! ## observers -/

/-- one pulse shown to one observer; the terminal leaves out what its own commands did -/
def notify (b : Body) (shown : Observer × Pulse) : Body :=
  match shown.1 with
  | .recorder tag => { b with seen := b.seen ++ [tag ++ shown.2.line] }
  | .broken reason => b.note .error .bus s!"Pulse subscriber error: {reason}"
  | .console => if shown.2.kind = .command then b else b.print shown.2.line

/-- the next tick begins: pending pulses are delivered, and observers see those that surface -/
def advance (b : Body) (tick : Int) : Body :=
  let b := { b with bus := b.bus.advance tick }
  b.bus.surfaced.foldl notify b

/-! ## settings on the bus -/

def setSimLevel (b : Body) (level : SimLevel) : Body :=
  let noted :=
    if level = b.bus.simLevel then b
    else b.note .info .bus s!"Simulation level {b.bus.simLevel.label} -> {level.label}"
  { noted with bus := { noted.bus with simLevel := level } }

def setVerbosity (b : Body) (v : Verbosity) : Body :=
  { b with bus := { b.bus with verbosity := v } }

def setPolicy (b : Body) (p : Policy) : Body := { b with bus := { b.bus with policy := p } }

def setAwareness (b : Body) (x : Number) : Body := { b with bus := b.bus.setAwareness x }

end Body

namespace Act

def update (f : Body → Body) : Act Unit := modify f

def note (level : LogLevel) (source : LogSource) (text : String) : Act Unit :=
  update fun b => b.note level source text

def publish (m : Message) : Act Unit := update fun b => b.publish m

def ofExcept {α : Type} : Except Fault α → Act α
  | .ok a => pure a
  | .error e => throw e

/-- a change of the topology that may fail, and then leaves it as it is -/
def onTopology {α : Type} (f : Topology → Except Fault (Topology × α)) : Act α := do
  let (topology, a) ← ofExcept (f (← get).topology)
  update fun b => { b with topology }
  return a

end Act

/-! ## awareness and alerts -/

section
variable [Rounding]

def Alert.record (a : Alert) : LogRecord :=
  if a.isEscalating then
    ⟨.warning, .health,
      s!"{a.subject.name} entered {a.label} ({a.value.fixed 2}, was {Named.label a.previous})"⟩
  else ⟨.info, .health, s!"{a.subject.name} recovered to {a.label} ({a.value.fixed 2})"⟩

/-- the alerts of organs, then of awareness; what they report counts as seen -/
def Body.evaluate (b : Body) : Body × List Alert :=
  let (topology, organs) := b.topology.evaluate
  let (bus, awareness) := b.bus.evaluate
  let alerts := organs ++ awareness
  ({ b with topology, bus, journal := b.journal ++ alerts.map Alert.record }, alerts)

namespace Act

def evaluate : Act (List Alert) := do
  let (b, alerts) := (← get).evaluate
  set b
  return alerts

/-- the awareness of the healths, put on the bus -/
def refreshAwareness : Act Number := do
  let x ← ofExcept (← get).topology.awareness
  update fun b => b.setAwareness x
  return x

end Act
end

/-! ## healths in files -/

namespace Act

section
variable [Rounding]

def saveState (path : FilePath) : Act Unit := do
  let b ← get
  let (files, outcome) := b.files.replace path (Utf8.encode (State.write b.topology))
  update fun b => { b with files }
  match outcome with
  | .ok () => note .info .storage s!"Saved organism state to {path.text}"
  | .error .nulInPath => throw (.file .nulInPath)
  | .error e => throw (.notWritten path.text e)

def restoreBytes (bytes : List UInt8) : Act (List (OrganKind × Number)) :=
  onTopology fun t => (t.loadBytes bytes).mapError Fault.malformed

/-- the healths that were loaded, if there is a file -/
def loadState (path : FilePath) : Act (Option (List (OrganKind × Number))) := do
  match (← get).files.read path with
  | .error .nulInPath => throw (.file .nulInPath)
  | .error (.os .notFound _ _) =>
    note .info .storage s!"No saved state at {path.text}"
    return none
  | .error e => throw (.notRead path.text e)
  | .ok bytes =>
    let values ← restoreBytes bytes
    note .info .storage s!"Loaded organism state from {path.text} ({values.length} organ(s))"
    return some values

/-- the failures of saving and loading -/
def isStorageFault : Fault → Bool
  | .malformed _ | .notWritten .. | .notRead .. => true
  | _ => false

def takeOver (path : FilePath) : Act Bool := do
  let values ← loadState path
  let _ ← refreshAwareness
  return values.isSome

/-- a file taken over if it can be used; true if it was -/
def restore (path : FilePath) : Act Bool :=
  tryCatch (takeOver path) fun e => do
    if isStorageFault e then
      note .warning .shell s!"Failed to restore state from {path.text}: {e.message}"
      return false
    else throw e

end
end Act

end Organism
