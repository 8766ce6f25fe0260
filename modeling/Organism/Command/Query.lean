import Organism.Anatomy.Registry
import Organism.Body
import Organism.Number.Decimal
import Organism.Request
import Organism.Sense.Reading

/-!
# Queries

A result says in words what a command did, and carries the same as data.

Queries are the commands that report on a body.  They leave it as it is, but for the awareness on
the bus: the reports that tell it bring it up to date first.
-/

namespace Organism

/-! ## results -/

structure CommandResult where
  ok : Bool
  operation : Operation
  message : String
  data : List (String × Value) := []
  /-- the class of the failure -/
  error : Option String := none

namespace CommandResult

def success (op : Operation) (message : String) (data : List (String × Value)) : CommandResult :=
  { ok := true, operation := op, message, data }

def failure (op : Operation) (e : Fault) : CommandResult :=
  { ok := false, operation := op, message := e.message, error := some e.label }

end CommandResult

def Request.toValue (r : Request) : Value :=
  .record
    [("op", .text r.operation.label), ("organ", r.organ.elim .none fun k => .text k.label),
      ("amount", r.amount.elim .none .real), ("level", r.level.elim .none .text),
      ("path", r.path.elim .none .text)]

def CommandResult.toValue (r : CommandResult) : Value :=
  .record
    [("ok", .flag r.ok), ("op", .text r.operation.label), ("message", .text r.message),
      ("data", .record r.data), ("error", r.error.elim .none .text)]

/-! ## the parts of an organism as data -/

def Device.toValue (d : Device) : Value :=
  .record
    [("id", .text d.id), ("kind", .text (Named.label d.kind)),
      ("status", .text (Named.label d.status)),
      ("organ_id", d.organId.elim .none .whole)]

def Node.toValue (n : Node) : Value :=
  .record
    [("id", .whole n.id), ("label", .text n.label), ("role", .text n.role),
      ("organ_ids", .list (n.organIds.map .whole))]

def Organ.toValue [Rounding] (o : Organ) : Value :=
  .record
    [("id", .whole o.id), ("kind", .text o.kind.label), ("node_id", .whole o.nodeId),
      ("health", .real o.health), ("tier", .text (Named.label o.tier)),
      ("capabilities", .list (o.sortedAbilities.map fun a => .text (Named.label a))),
      ("peripherals", .list (o.devices.map Device.toValue))]

def Topology.fields [Rounding] (t : Topology) : List (String × Value) :=
  [("nodes", .list (t.nodes.map Node.toValue)), ("organs", .list (t.organs.map Organ.toValue))]

def Capability.toValue (c : Capability) : Value :=
  .record
    [("id", .whole c.id), ("organ", .text c.organ.label), ("kind", .text (Named.label c.ability)),
      ("label", .text c.label), ("description", .text c.description), ("enabled", .flag c.enabled),
      ("priority", .real c.priority)]

def healthsValue (healths : List (OrganKind × Number)) : Value :=
  .record (healths.map fun (k, x) => (k.label, .real x))

/-! ## queries -/

namespace Query

def linesText (ls : List String) : String := "\n".intercalate ls

def helpText : String :=
  "commands: help, status, topology, nodes, organs, peripherals, health, " ++
    "awareness, alerts, metrics, capabilities, memory, save, load, " ++
    "damage <organ> <amount>, heal <organ> <amount>, sim <off|low|high>, " ++
    "logs <all|commands|silent>"

def help : CommandResult :=
  .success .help helpText
    [("ops", .list ((Named.all (α := Operation)).map fun op => .text op.label))]

def nodeLine (n : Node) : String := s!" - Node {n.id} [{n.label}]: {n.role}"

def nodes (t : Topology) : CommandResult :=
  .success .nodes (linesText ("Nodes:" :: t.nodes.map nodeLine))
    [("nodes", .list (t.nodes.map Node.toValue))]

def deviceLine (d : Device) : String :=
  s!"    - {Named.label d.kind}: {d.id} ({Named.label d.status})"

def peripherals (t : Topology) : CommandResult :=
  let blocks := t.devices.flatMap fun (k, ds) =>
    s!" - Organ {k.label}:" :: ds.map deviceLine
  let listed := if blocks.isEmpty then [" (no peripherals registered)"] else blocks
  .success .peripherals (linesText ("Peripherals by organ:" :: listed))
    [("peripherals",
      .record (t.devices.map fun (k, ds) => (k.label, .list (ds.map Device.toValue))))]

def capabilityLine (c : Capability) : String :=
  let state := if c.enabled then "enabled" else "disabled"
  s!" - #{c.id} organ={c.organ.label} kind={Named.label c.ability} " ++
    s!"[{state}] prio={c.priority.fixed 2} :: {c.label}"

def capabilities (r : Registry) : CommandResult :=
  .success .capabilities (linesText ("Capabilities:" :: r.records.map capabilityLine))
    [("capabilities", .list (r.records.map Capability.toValue))]

/-- the last complete readings; without any the query fails -/
def metrics (readings : Option Readings) : CommandResult :=
  match readings with
  | none =>
    { ok := false, operation := .metrics, message := "metrics not yet available"
      error := some "TelemetryUnavailable" }
  | some r => .success .metrics s!"metrics from tick {r.tick}" r.fields

section
variable [Rounding]

def topology (t : Topology) : CommandResult :=
  let organLine := fun (o : Organ) =>
    s!"   - Organ {o.kind.label} (health {o.health.fixed 2})"
  let blocks := t.nodes.flatMap fun n => nodeLine n :: (t.organsOn n.id).map organLine
  .success .topology (linesText ("Topology detail:" :: blocks)) t.fields

def organLine (o : Organ) : String :=
  s!" - Organ {o.kind.label} on Node {o.nodeId} (health {o.health.fixed 2})"

def organs (t : Topology) : CommandResult :=
  .success .organs (linesText ("Organs:" :: t.organs.map organLine))
    [("organs", .list (t.organs.map Organ.toValue))]

def healthLine (o : Organ) : String :=
  s!" - {o.kind.label}: {o.health.fixed 2} ({o.tier.healthLabel})"

def health (t : Topology) : CommandResult :=
  .success .health (linesText ("Organ health:" :: t.organs.map healthLine))
    [("health", healthsValue t.healths)]

/-- the organs whose tier is an alert -/
def alarming (t : Topology) : List Organ := t.organs.filter fun o => o.tier.isAlert

def alertLine (o : Organ) : String :=
  s!" - {o.kind.label}: {o.health.fixed 2} [{o.tier.healthLabel}]"

def alerts (t : Topology) : Except Fault CommandResult := do
  let worst ← t.worstTier
  let active := alarming t
  let listed :=
    if active.isEmpty then [" (no active alerts; all organs healthy)"]
    else active.map alertLine ++ [s!"overall: {worst.healthLabel}"]
  return .success .alerts (linesText ("Alerts:" :: listed))
    [("alerts", .record (active.map fun o => (o.kind.label, .text o.tier.healthLabel))),
      ("overall", .text worst.healthLabel)]

def memory (m : Memory) : CommandResult :=
  .success .memory m.dump [("memory", m.toValue)]

/-! ## reports that tell the awareness -/

def awarenessLabel (x : Number) : String := (Tier.ofNumber x).awarenessLabel

def awareness : Act CommandResult := do
  let score ← Act.refreshAwareness
  let label := awarenessLabel score
  return .success .awareness s!"awareness index: {score.fixed 2} :: {label}"
    [("awareness", .real score), ("label", .text label)]

def status : Act CommandResult := do
  let score ← Act.refreshAwareness
  let b ← get
  let lowest := b.topology.minHealth
  let worst ← Act.ofExcept b.topology.worstTier
  return .success .status
    (s!"{b.topology.describe} :: health {lowest.fixed 2} ({worst.healthLabel}) " ++
      s!":: awareness {score.fixed 2}")
    [("min_health", .real lowest), ("health_label", .text worst.healthLabel),
      ("awareness", .real score), ("awareness_label", .text (awarenessLabel score)),
      ("policy", .text (Named.label b.bus.policy)), ("sim_level", .text b.bus.simLevel.label)]

end
end Query

end Organism
