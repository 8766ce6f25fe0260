import Organism.Body
import Organism.Health.Change
import Organism.Number.Decimal

/-!
# Daemons

A daemon acts on the body once in a while: when as many ticks as its interval have passed since it
ran last.  A daemon that fails is counted and reported, and has run all the same.

* `Duty.heartbeat`   a numbered beat;
* `Duty.status`      readings into healths, healths into awareness, and what is new as alerts;
* `Duty.policy`      awareness into a policy, and no simulation while the core has to be protected;
* `Duty.simulation`  faults and recovery, while the simulation is on.
-/

namespace Organism

/-- what is counted of a daemon -/
structure Runs where
  lastRun : Nat := 0
  runs : Nat := 0
  errors : Nat := 0
deriving DecidableEq

def Runs.mark (r : Runs) (tick : Nat) : Runs := { r with lastRun := tick, runs := r.runs + 1 }

def Runs.toValue (r : Runs) (interval : Value) : Value :=
  .record
    [("interval", interval), ("last_run", .whole r.lastRun), ("runs", .whole r.runs),
      ("errors", .whole r.errors)]

structure Daemon where
  name : String
  /-- ticks between two runs -/
  interval : Quantity
  act : Nat → Act Unit
  count : Runs := {}

namespace Daemon

/-- a daemon with an interval of at least one tick -/
def create (name : String) (interval : Value) (act : Nat → Act Unit) : Except Fault Daemon :=
  match interval.quantity? with
  | none => .error (.incomparable "<" interval.kind .whole)
  | some q =>
    if q.exact < 1 then .error (.intervalTooShort name) else .ok { name, interval := q, act }

def toValue (d : Daemon) : Value := d.count.toValue d.interval.value

/-- the interval has passed -/
def isDue (d : Daemon) (tick : Nat) : Bool :=
  d.interval.exact ≤ .finite (((tick : Int) - d.count.lastRun : Int) : Rat)

def failure (d : Daemon) (e : Fault) : Message where
  kind := .warning
  source := "scheduler"
  text := s!"daemon {d.name} failed: {e.message}"
  payload := [("daemon", .text d.name), ("error", .text e.label)]

def report (d : Daemon) (tick : Nat) (e : Fault) (b : Body) : Body :=
  (b.note .error .scheduler s!"Daemon {d.name} failed at tick {tick}: {e.message}").publish
    (d.failure e)

/-- the daemon run once; true if it failed -/
def run (d : Daemon) (tick : Nat) (b : Body) : Daemon × Body × Bool :=
  match (d.act tick).run b with
  | (.ok _, b) => ({ d with count := d.count.mark tick }, b, false)
  | (.error e, b) =>
    ({ d with count := Runs.mark { d.count with errors := d.count.errors + 1 } tick },
      d.report tick e b, true)

end Daemon

/-! ## duties -/

namespace Duty

def heartbeat : Act Unit := do
  Act.update fun b => { b with beats := b.beats + 1 }
  let beats := (← get).beats
  Act.publish
    { kind := .heartbeat, source := "heartbeat", text := s!"beat #{beats}"
      payload := [("beat", .whole beats)] }

section
variable [Rounding]

/-! ## status -/

def unavailable (k : OrganKind) (reason : String) (e : Fault) : Act Unit := do
  let why := if reason.isEmpty then e.message else reason
  Act.note .warning .daemons s!"Telemetry unavailable for {k.label}: {why}"
  Act.publish
    { kind := .warning, source := "status", text := e.message
      payload := [("organ", .text k.label)] }

/-- an act of which the result is missing if readings are unavailable -/
def attempt {α : Type} (k : OrganKind) (act : Act α) : Act (Option α) :=
  tryCatch (act.map some) fun e => do
    match e with
    | .unavailable _ reason =>
      unavailable k reason e
      return none
    | e => throw e

def sense (f : Family) : Act Reading := do
  let (reading, senses) := (← get).senses.read f
  Act.update fun b => { b with senses }
  Act.ofExcept reading

def feel (setup : Setup) (k : OrganKind) (r : Reading) : Act Unit := do
  let c ← Act.onTopology fun t => t.feel setup.limits k r
  Act.note .debug .daemons s!"{k.label}: {c.previous.fixed 3} -> {c.health.fixed 3}"

/-- a reading applied if there is one and the organ exists; what is left of it -/
def apply (setup : Setup) (k : OrganKind) (reading : Option Reading) : Act (Option Reading) := do
  match reading with
  | none => return none
  | some r =>
    if (← get).topology.has k then
      let felt ← attempt k (feel setup k r)
      return felt.map fun _ => r
    else return some r

def remember (tick : Nat) (cpu memory io : Option Reading) : Act Unit :=
  if cpu.isSome && memory.isSome && io.isSome then
    Act.update fun b => { b with readings := some { tick, cpu, memory, io } }
  else pure ()

def alertMessage (a : Alert) : Message where
  kind := .alert
  source := "status"
  text := s!"{a.subject.name} -> {a.label} ({a.value.fixed 2})"
  payload := a.fields

def statusMessage (t : Topology) (awareness : Number) : Message :=
  let lowest := t.minHealth
  { kind := .status
    source := "status"
    text :=
      s!"{t.describe} :: min health {lowest.fixed 2} ({(Tier.ofNumber lowest).healthLabel}) " ++
        s!":: awareness {awareness.fixed 2} ({(Tier.ofNumber awareness).awarenessLabel})"
    payload := [("min_health", .real lowest), ("awareness", .real awareness)] }

def status (setup : Setup) (tick : Nat) : Act Unit := do
  Act.update fun b => { b with senses := b.senses.setLevel b.bus.simLevel }
  let cpu ← attempt .cortex (sense .cpu)
  let memory ← attempt .memory (sense .memory)
  let io ← attempt .ioBridge (sense .io)
  let cpu ← apply setup .cortex cpu
  let memory ← apply setup .memory memory
  let io ← apply setup .ioBridge io
  remember tick cpu memory io
  let awareness ← Act.refreshAwareness
  let alerts ← Act.evaluate
  alerts.forM fun a => Act.publish (alertMessage a)
  Act.publish (statusMessage (← get).topology awareness)

/-! ## policy -/

def store (setup : Setup) (scope : Scope) (key : String) (v : Value) : Act Unit :=
  if setup.remembers then Act.update fun b => { b with memory := b.memory.put scope key v }
  else pure ()

/-- the policy set; a change is noted -/
def adopt (p : Policy) (awareness : Number) : Act Unit := do
  let before := (← get).bus.policy
  if p ≠ before then
    Act.note .info .daemons
      s!"Policy {Named.label before} -> {Named.label p} (awareness {awareness.fixed 2})"
  Act.update fun b => b.setPolicy p

/-- no simulation while the core has to be protected -/
def protect (p : Policy) : Act Unit := do
  if p = .protectCore && (← get).bus.simLevel ≠ .off then
    Act.update fun b => b.setSimLevel .off

def policyMessage (p : Policy) (awareness : Number) : Message where
  kind := .ai
  source := "ai_cortex"
  text :=
    s!"awareness {awareness.fixed 2} ({(Tier.ofNumber awareness).awarenessLabel}) -> " ++
      Named.label p
  payload := [("policy", .text (Named.label p)), ("awareness", .real awareness)]

def policy (setup : Setup) : Act Unit := do
  let awareness := (← get).bus.awareness
  let p := Policy.ofAwareness awareness
  adopt p awareness
  protect p
  store setup .everywhere "ai.policy" (.text (Named.label p))
  store setup .everywhere "ai.awareness" (.real awareness)
  Act.publish (policyMessage p awareness)

/-! ## simulation -/

def roll {α : Type} (draw : Dice → Except Fault α × Dice) : Act α := do
  let (x, dice) := draw (← get).dice
  Act.update fun b => { b with dice }
  Act.ofExcept x

/-- what a synthetic event says -/
structure Event where
  text : String
  payload : List (String × Value)

/-- damage to one organ, by an amount within the bounds of the intensity -/
def fault (setup : Setup) (i : Intensity) : Act Event := do
  let organs := (← get).topology.organs
  let place ← roll (Dice.below organs.length)
  match organs[place]? with
  | none => throw (.breakdown "there are no organs")
  | some organ =>
    let low ← Act.ofExcept (i.damageMin.operand "+")
    let high ← Act.ofExcept (i.damageMax.operand "-")
    let amount ← roll (Dice.between low high)
    let c ← Act.onTopology fun t => t.damage organ.kind amount
    store setup (.organ organ.id) "sim.last_fault" (.real amount)
    return {
      text := s!"fault on {organ.kind.label}: -{amount.fixed 3} (health {c.health.fixed 2})"
      payload := [("organ", .text organ.kind.label), ("amount", .real amount)] }

def recovery (i : Intensity) : Act Event := do
  let b ← get
  let (topology, outcome) := b.topology.recoverBy i.recovery (b.topology.organs.map (·.kind))
  Act.update fun b => { b with topology }
  let _ ← Act.ofExcept outcome
  let amount ← Act.ofExcept (i.recovery.fixed 3)
  return { text := s!"recovery +{amount} on all organs", payload := [("amount", i.recovery)] }

def event (setup : Setup) (i : Intensity) : Act Event := do
  let x ← roll Dice.unit
  let p ← Act.ofExcept (i.faultProbability.compared "<" .real true)
  if x < p then fault setup i else recovery i

def simulation (setup : Setup) : Act Unit := do
  match setup.simulation.intensity? (← get).bus.simLevel with
  | none => return ()
  | some i =>
    let e ← event setup i
    let _ ← Act.refreshAwareness
    let level := (← get).bus.simLevel
    Act.publish
      { kind := .simulation, source := "simulation", text := e.text
        payload := ("level", .text level.label) :: e.payload }

end
end Duty

end Organism
