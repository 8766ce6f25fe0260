import Organism.Command.Handle
import Organism.Daemon
import Organism.Settings.Basic
import Organism.Snapshot

/-!
# The scheduler

The scheduler drives the organism one tick at a time: pulses are delivered, the daemons that are due
run in their order, the waiting commands are carried out, and a new snapshot is taken.

Requests from outside wait in a queue until the end of a tick.  Each has a ticket, numbered in the
order of submission, on which its outcome appears; a request may be cancelled as long as it waits.

* `Queue.submit`, `cancel`, `outcome?`   from outside;
* `Queue.drain`          all that waits is carried out, in order;
* `Scheduler.step`       one tick;
* `Scheduler.run`        several, until someone asks for an end;
* `Senses.configured`    the source of readings that settings name;
* `Scheduler.build`      a topology, its senses and the standard daemons, as settings say.
-/

namespace Organism

/-! ## the queue -/

/-- what has become of a request -/
inductive Ticket where
  | waiting
  | cancelled
  | done (r : CommandResult)
  /-- its command was aborted -/
  | crashed (e : Fault)

structure Queue where
  tickets : List Ticket := []
  waiting : List (Nat × Request) := []
  /-- count of the commands that had a result -/
  executed : Nat := 0

namespace Queue

/-- the request at the end of the queue, and the number of its ticket -/
def submit (q : Queue) (r : Request) : Queue × Nat :=
  let id := q.tickets.length
  ({ q with tickets := q.tickets ++ [.waiting], waiting := q.waiting ++ [(id, r)] }, id)

def outcome? (q : Queue) (id : Nat) : Option Ticket := q.tickets[id]?

/-- a request withdrawn; false if it was carried out before -/
def cancel (q : Queue) (id : Nat) : Queue × Bool :=
  match q.outcome? id with
  | some .waiting => ({ q with tickets := q.tickets.set id .cancelled }, true)
  | some .cancelled => (q, true)
  | _ => (q, false)

def isCancelled (q : Queue) (id : Nat) : Bool :=
  match q.outcome? id with
  | some .cancelled => true
  | _ => false

/-- a request carried out, and its outcome put on the ticket -/
def serve (handle : Request → Act CommandResult) (q : Queue) (id : Nat) (r : Request) (b : Body) :
    Queue × Body :=
  match (handle r).run b with
  | (.ok result, b) =>
    ({ q with tickets := q.tickets.set id (.done result), executed := q.executed + 1 }, b)
  | (.error e, b) =>
    ({ q with tickets := q.tickets.set id (.crashed e) },
      b.note .error .daemons s!"Command {r.operation.label} crashed: {e.message}")

/-- requests carried out in order, but for those that were withdrawn -/
def serveAll (handle : Request → Act CommandResult) :
    List (Nat × Request) → Queue → Body → Queue × Body
  | [], q, b => (q, b)
  | (id, r) :: rest, q, b =>
    if q.isCancelled id then serveAll handle rest q b
    else
      let (q, b) := serve handle q id r b
      serveAll handle rest q b

/-- all that waits is carried out -/
def drain (handle : Request → Act CommandResult) (q : Queue) (b : Body) : Queue × Body :=
  serveAll handle q.waiting { q with waiting := [] } b

end Queue

/-! ## ticks -/

structure Scheduler where
  setup : Setup
  body : Body
  daemons : List Daemon
  queue : Queue := {}
  commandRuns : Runs := {}
  clock : Nat := 0
  errors : Nat := 0
  snapshot : Snapshot
  /-- seconds between two ticks -/
  tickInterval : Value

namespace Scheduler

/-- the daemons that are due run in order; with the count of those that failed -/
def runDue (tick : Nat) : List Daemon → Body → List Daemon × Body × Nat
  | [], b => ([], b, 0)
  | d :: ds, b =>
    if d.isDue tick then
      let (d, b, failed) := d.run tick b
      let (ds, b, n) := runDue tick ds b
      (d :: ds, b, if failed then n + 1 else n)
    else
      let (ds, b, n) := runDue tick ds b
      (d :: ds, b, n)

def daemon? (s : Scheduler) (name : String) : Option Daemon :=
  s.daemons.find? fun d => d.name == name

def commandStatistics (s : Scheduler) : Value := s.commandRuns.toValue (.whole 1)

/-- the runs of the daemons by name; of two with one name the later counts -/
def daemonStatistics (s : Scheduler) : Value :=
  .map (s.daemons.foldl (fun es d => Value.overwrite es (.text d.name) d.toValue) [])

def statistics (s : Scheduler) : Value :=
  .record
    [("logical_time", .whole s.clock), ("errors", .whole s.errors),
      ("commands_executed", .whole s.queue.executed), ("daemons", s.daemonStatistics),
      ("command", s.commandStatistics)]

def submit (s : Scheduler) (r : Request) : Scheduler × Nat :=
  let (queue, id) := s.queue.submit r
  ({ s with queue }, id)

def cancel (s : Scheduler) (id : Nat) : Scheduler × Bool :=
  let (queue, cancelled) := s.queue.cancel id
  ({ s with queue }, cancelled)

def insert (s : Scheduler) (place : Nat) (d : Daemon) : Scheduler :=
  { s with daemons := s.daemons.take place ++ d :: s.daemons.drop place }

section
variable [Rounding]

/-- one tick -/
def step (s : Scheduler) : Scheduler :=
  let tick := s.clock + 1
  let (daemons, body, failed) := runDue tick s.daemons (s.body.advance tick)
  let (queue, body) := s.queue.drain (Command.handle s.setup) body
  { s with
    clock := tick
    daemons
    queue
    body
    commandRuns := s.commandRuns.mark tick
    errors := s.errors + failed
    snapshot := .take body.topology body.bus tick }

def steps : Nat → Scheduler → Scheduler
  | 0, s => s
  | n + 1, s => steps n s.step

/-- at most `limit` ticks, up to the one in which someone asks for an end; with the count of them -/
def ticks : (limit : Nat) → (done : Nat) → Scheduler → Scheduler × Nat
  | 0, done, s => (s, done)
  | limit + 1, done, s => if s.body.stopped then (s, done) else ticks limit (done + 1) s.step

def note (s : Scheduler) (level : LogLevel) (source : LogSource) (text : String) : Scheduler :=
  { s with body := s.body.note level source text }

def begin (s : Scheduler) : Scheduler :=
  Scheduler.note { s with body := { s.body with stopped := false } } .info .scheduler
    s!"Scheduler running (tick {s.tickInterval.inText}s)"

def close (s : Scheduler) (done : Nat) : Scheduler :=
  s.note .info .scheduler s!"Scheduler stopped after {done} tick(s) (logical time {s.clock})"

def refuse (s : Scheduler) : Scheduler := s.note .warning .scheduler "Scheduler already running"

/-- at most `limit` ticks, noted at both ends -/
def run (s : Scheduler) (limit : Nat) : Scheduler × Nat :=
  let (s, done) := ticks limit 0 s.begin
  (s.close done, done)

/-- something that happens to the body between two ticks -/
def act {α : Type} (s : Scheduler) (a : Act α) : Except Fault α × Scheduler :=
  let (result, body) := a.run s.body
  (result, { s with body })

end
end Scheduler

/-! ## building -/

section
variable [Rounding]

def HostCounters.absent : HostCounters where
  load := .error "no host counters"
  temperatures := .ok []
  ram := .error "no host counters"
  swap := .error "no host counters"
  disk := .ok none
  net := .ok none

/-- the temperature that stands for an unknown one -/
def Host.standardFallback : Value := .real 50.0

def Simulated.seeded (level : SimLevel) (seed : List UInt32) : Simulated :=
  { level, jitter := 0.01, deviate := Organism.deviate seed }

/-- the source of readings that settings name -/
def Senses.configured (s : Settings) (counters : Nat → HostCounters) : Except Fault Senses := do
  match s.telemetry with
  | .text word =>
    match ← Provider.ofWord word with
    | .simulation => return .simulated (.seeded s.simLevel (← Seed.ofValue s.simulation.seed))
    | .host => return .host { fallback := Host.standardFallback } counters 0
  | v => throw (.noAttribute v.kind "strip")

/-- the greatest length of the history that a setting asks for -/
def capacity (v : Value) : Except Fault (Option Nat) :=
  match v with
  | .none => .ok none
  | .flag b => .ok (some (if b then 1 else 0))
  | .whole n =>
    if n < 0 then .error .negativeHistory
    else if 9223372036854775808 ≤ n then .error .tooLarge
    else .ok (some n.toNat)
  | v => .error (.wrongType "a length" v.kind)

def setupOf (s : Settings) : Setup where
  limits := s.health
  simulation := s.simulation
  statePath := s.storage.statePath

def standardDaemons (setup : Setup) (s : SchedulerSettings) : Except Fault (List Daemon) := do
  let status ← Daemon.create "status" s.statusInterval (Duty.status setup)
  let heartbeat ← Daemon.create "heartbeat" s.heartbeatInterval fun _ => Duty.heartbeat
  let policy ← Daemon.create "ai_cortex" s.aiInterval fun _ => Duty.policy setup
  let simulation ← Daemon.create "simulation" s.simulationInterval fun _ => Duty.simulation setup
  return [heartbeat, status, policy, simulation]

def bodyOf (s : Settings) (topology : Topology) (senses : Senses) (files : FileSystem) :
    Except Fault Body := do
  let capacity ← capacity s.scheduler.historySize
  let bus : Bus := { capacity, verbosity := s.verbosity, simLevel := s.simLevel }
  let awareness ← topology.awareness
  let seed ← Seed.ofValue s.simulation.seed
  return {
    topology
    bus := bus.setAwareness awareness
    registry := .ofTopology topology
    files
    senses
    dice := .seeded (.ofSeed seed) }

/-- an organism before its first tick -/
def Scheduler.build (s : Settings) (setup : Setup) (topology : Topology) (senses : Senses)
    (files : FileSystem) : Except Fault Scheduler := do
  let body ← bodyOf s topology senses files
  let daemons ← standardDaemons setup s.scheduler
  return {
    setup
    body
    daemons
    snapshot := .take body.topology body.bus 0
    tickInterval := s.scheduler.tickInterval }

end

end Organism
