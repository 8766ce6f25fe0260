import Organism.Body
import Organism.Command.Query
import Organism.Health.Change

/-!
# Commands

The one way in which a request changes a body.

* `Command.perform`   what each operation does;
* `Command.execute`   the same, with the pulse that reports it;
* `Command.handle`    the same, with the failures that are to be expected reported as results.  All
                      other faults abort the command.
-/

namespace Organism.Command

section
variable [Rounding]

def target (r : Request) : Except Fault (OrganKind × Number) :=
  match r.organ, r.amount with
  | some organ, some amount => .ok (organ, amount)
  | _, _ => .error (.wrongType "an organ and an amount" .none)

def changed (op : Operation) (verb : String) (amount : Number) (c : HealthChange)
    (awareness : Number) : CommandResult :=
  .success op
    (s!"{verb} {c.organ.label} by {amount.abs.fixed 2}, " ++
      s!"new health {c.health.fixed 2} (awareness {awareness.fixed 2})")
    [("organ", .text c.organ.label), ("health", .real c.health), ("awareness", .real awareness)]

/-- one health changed by an amount, and the awareness after it -/
def change (r : Request) (verb : String)
    (f : Topology → OrganKind → Number → Except Fault (Topology × HealthChange)) :
    Act CommandResult := do
  let (organ, amount) ← Act.ofExcept (target r)
  let c ← Act.onTopology fun t => f t organ amount
  let awareness ← Act.refreshAwareness
  return changed r.operation verb amount c awareness

def setSim (r : Request) : Act CommandResult := do
  let word := r.level.getD ""
  match SimLevel.ofWord? word with
  | none => throw (.refused (.simLevel word))
  | some level =>
    Act.update fun b => b.setSimLevel level
    return .success .setSim s!"simulation: {level.label}" [("sim_level", .text level.label)]

def setLogs (r : Request) : Act CommandResult := do
  let word := r.level.getD ""
  match Verbosity.ofWord? word with
  | none => throw (.refused (.verbosity word))
  | some v =>
    Act.update fun b => b.setVerbosity v
    return .success .setLogs s!"logging: {v.label}" [("log_filter", .text v.label)]

/-- the state file of a request, or the configured one -/
def statePath (setup : Setup) (r : Request) : FilePath :=
  match r.path with
  | none => setup.statePath
  | some p => if p.isEmpty then setup.statePath else .ofString p

def save (setup : Setup) (r : Request) : Act CommandResult := do
  let path := statePath setup r
  Act.saveState path
  return .success .save s!"state saved to {path.text}" [("path", .text path.text)]

def load (setup : Setup) (r : Request) : Act CommandResult := do
  let path := statePath setup r
  let values ← Act.loadState path
  let awareness ← Act.refreshAwareness
  match values with
  | none =>
    return .success .load s!"no saved state at {path.text}; keeping current health"
      [("path", .text path.text), ("loaded", .flag false), ("awareness", .real awareness)]
  | some values =>
    return .success .load s!"state loaded from {path.text} (awareness {awareness.fixed 2})"
      [("path", .text path.text), ("loaded", .flag true), ("awareness", .real awareness),
        ("health", healthsValue values)]

def perform (setup : Setup) (r : Request) : Act CommandResult := do
  let b ← get
  match r.operation with
  | .help => return Query.help
  | .status => Query.status
  | .topology => return Query.topology b.topology
  | .nodes => return Query.nodes b.topology
  | .organs => return Query.organs b.topology
  | .peripherals => return Query.peripherals b.topology
  | .health => return Query.health b.topology
  | .alerts => Act.ofExcept (Query.alerts b.topology)
  | .awareness => Query.awareness
  | .metrics => return Query.metrics b.readings
  | .capabilities => return Query.capabilities b.registry
  | .memory => return Query.memory b.memory
  | .damage => change r "damaged" Topology.damage
  | .heal => change r "healed" Topology.heal
  | .setSim => setSim r
  | .setLogs => setLogs r
  | .save => save setup r
  | .load => load setup r

def report (op : Operation) (text : String) (payload : List (String × Value)) : Message :=
  { kind := .command, source := "command", text, payload := ("op", .text op.label) :: payload }

/-- one request carried out and reported -/
def execute (setup : Setup) (r : Request) : Act CommandResult := do
  let result ← perform setup r
  Act.publish (report r.operation result.message [])
  return result

/-- a failure that is to be expected, reported -/
def fail (r : Request) (e : Fault) : Act CommandResult := do
  Act.note .warning .commands s!"Command {r.operation.label} failed: {e.message}"
  Act.publish (report r.operation s!"{r.operation.label} failed: {e.message}"
    [("error", .text e.label)])
  return .failure r.operation e

/-- one request carried out and reported, even if it fails -/
def handle (setup : Setup) (r : Request) : Act CommandResult :=
  tryCatch (execute setup r) fun e => if e.isExpected then fail r e else throw e

end
end Organism.Command
