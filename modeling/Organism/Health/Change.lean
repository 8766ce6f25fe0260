import Organism.Anatomy.Topology
import Organism.Sense.Reading
import Organism.Value.Quantity

/-!
# Changes of health

A signal is one value of a reading that may be adverse.  Its rule says from which threshold on it
is, over which span it gets worse, and what it may cost at most.

Health moves gradually.  The penalties of one reading are summed and capped at the greatest step;
only when there are none does the health recover, by a capped step as well.  Damage and recovery
are changes by a given amount.

* `Limits`               how fast a health may change, and what the single signals may cost: numbers
                         if the settings were checked, but the rules hold for any value;
* `Rule.severity`        how adverse a value is, from 0 to 1;
* `Reading.signals`      the signals of a reading with their rules;
* `Reading.penalties`    what the adverse signals of a reading cost;
* `Limits.next`          the health after a reading;
* `Topology.feel`        a reading applied to its organ;
* `Topology.damage`, `Topology.heal`  one organ lower or higher by an amount;
* `Topology.recover`, `Topology.recoverBy`  several organs higher by an amount.
-/

namespace Organism

/-! ## limits -/

structure Limits where
  /-- greatest change of one health in one reading -/
  maxStep : Value
  /-- recovery when no signal is adverse -/
  recoveryStep : Value
  /-- greatest penalties by the names of signals, where they differ from those of the rules -/
  maxPenalties : Value

namespace Limits

def standard [Rounding] : Limits where
  maxStep := .real 0.05
  recoveryStep := .real 0.005
  maxPenalties := .map []

def maxPenalty (l : Limits) (signal : String) (default : Value) : Except Fault Value :=
  match l.maxPenalties with
  | .map entries => .ok ((Value.field? entries signal).getD default)
  | v => .error (.noAttribute v.kind "get")

end Limits

/-! ## signals -/

structure Rule where
  name : String
  threshold : Number
  span : Number
  maxPenalty : Number

section
variable [Rounding]

namespace Rule

/-- place of the value between the threshold and the end of the span, brought into `[0, 1]` -/
def severity (r : Rule) (x : Number) : Number := ((x - r.threshold) / r.span).clipUnit

def cpuTemperature : Rule := ⟨"cpu_temp_c", 60, 40, 0.03⟩
def cpuLoad : Rule := ⟨"cpu_load", 0.90, 0.10, 0.01⟩
def throttling : Rule := ⟨"throttling_events", 0, 5, 0.02⟩
def gpuMemory : Rule := ⟨"gpu_mem_util", 0.90, 0.10, 0.01⟩
def ramUsed : Rule := ⟨"ram_used_ratio", 0.75, 0.25, 0.03⟩
def swapUsed : Rule := ⟨"swap_used_ratio", 0.25, 0.75, 0.02⟩
def pageFaults : Rule := ⟨"major_page_faults", 5, 20, 0.01⟩
def diskLatency : Rule := ⟨"disk_latency_ms", 20, 80, 0.01⟩
def packetLoss : Rule := ⟨"net_packet_loss", 0, 0.10, 0.03⟩
def netLatency : Rule := ⟨"net_latency_ms", 100, 400, 0.01⟩
def queueDepth : Rule := ⟨"io_queue_depth", 0.80, 0.20, 0.01⟩
def errorRate : Rule := ⟨"io_error_rate", 0, 0.05, 0.02⟩

def all : List Rule :=
  [cpuTemperature, cpuLoad, throttling, gpuMemory, ramUsed, swapUsed, pageFaults, diskLatency,
    packetLoss, netLatency, queueDepth, errorRate]

def find? (name : String) : Option Rule := all.find? (·.name == name)

/-- severity times the greatest penalty, which counts as 0 where it is negative -/
def penalty (r : Rule) (l : Limits) (severity : Number) : Except Fault Number := do
  let v ← l.maxPenalty r.name (.real r.maxPenalty)
  let x ← v.compared ">" .real false
  let most := if 0 < x then v else .real 0
  return severity * (← most.operand "*")

end Rule

namespace Reading

def signals : Reading → List (Rule × Value)
  | cpu r =>
    [(.cpuTemperature, r.temperature), (.cpuLoad, r.load), (.throttling, r.throttling),
      (.gpuMemory, r.gpuMemory)]
  | memory r =>
    [(.ramUsed, r.ramUsed), (.swapUsed, r.swapUsed), (.pageFaults, r.pageFaults),
      (.diskLatency, r.diskLatency)]
  | io r =>
    [(.packetLoss, r.packetLoss), (.netLatency, r.latency), (.queueDepth, r.queueDepth),
      (.errorRate, r.errorRate)]

def signalPenalty (l : Limits) (organ : OrganKind) (rule : Rule) (v : Value) :
    Except Fault (List (String × Number)) := do
  let x ← v.toNumber
  if !x.isFinite then throw (.unavailable organ.label s!"non-finite {rule.name} reading")
  let severity := rule.severity x
  if 0 < severity then return [(rule.name, ← rule.penalty l severity)] else return []

/-- the penalties of the adverse signals, in the order of the rules -/
def penalties (r : Reading) (l : Limits) (organ : OrganKind) :
    Except Fault (List (String × Number)) := do
  if r.organ ≠ organ then
    throw (.wrongFamily organ.label organ.family.sort r.family.sort)
  let found ← r.signals.mapM fun (rule, v) => signalPenalty l organ rule v
  return found.flatten

end Reading
end

/-! ## changes -/

/-- what a calculation on values makes of the smaller of two: the second only if it is strictly
smaller -/
def Value.smaller (a b : Value) : Except Fault Value :=
  match b.quantity?, a.quantity? with
  | some q, some p => .ok (if q.exact < p.exact then b else a)
  | _, _ => .error (.incomparable "<" b.kind a.kind)

section
variable [Rounding]

namespace Limits

/-- the change that the penalties of a reading make; without penalties there is recovery -/
def change (l : Limits) (penalties : List (String × Number)) : Except Fault Number :=
  if penalties.isEmpty then do
    (← l.recoveryStep.smaller l.maxStep).operand "+"
  else do
    let step ← (Value.real (Number.total (penalties.map (·.2)))).smaller l.maxStep
    return -(← step.operand "+")

/-- the health of an organ after a reading, `nan` for a current health that is none -/
def next (l : Limits) (organ : OrganKind) (r : Reading) (current : Number) :
    Except Fault Number := do
  let penalties ← r.penalties l organ
  let change ← l.change penalties
  return (current + change).clipUnit

end Limits

namespace Topology

def feel (t : Topology) (l : Limits) (k : OrganKind) (r : Reading) :
    Except Fault (Topology × HealthChange) := do
  let o ← t.organ k
  t.setHealth k (← l.next k r o.health)

def damage (t : Topology) (k : OrganKind) (amount : Number) :
    Except Fault (Topology × HealthChange) :=
  t.addHealth k (-amount.abs)

def heal (t : Topology) (k : OrganKind) (amount : Number) :
    Except Fault (Topology × HealthChange) :=
  t.addHealth k amount.abs

/-- the organs raised by an amount one after the other, up to the first failure -/
def recover (t : Topology) (amount : Number) :
    List OrganKind → Topology × Except Fault (List HealthChange)
  | [] => (t, .ok [])
  | k :: ks =>
    match t.heal k amount with
    | .error e => (t, .error e)
    | .ok (t, change) =>
      let (t, changes) := recover t amount ks
      (t, changes.map (change :: ·))

def recoverBy (t : Topology) (amount : Value) (ks : List OrganKind) :
    Topology × Except Fault (List HealthChange) :=
  if ks.isEmpty then (t, .ok [])
  else
    match amount.toNumber with
    | .error e => (t, .error e)
    | .ok x => t.recover x ks

end Topology
end

end Organism
