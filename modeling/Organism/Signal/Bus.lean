import Organism.Named
import Organism.Tier
import Organism.Value.Basic

/-!
# The bus

A mailbox with a few shared settings.  A pulse is one event on it, which never changes once it is
published.  What is published during a tick waits until `advance` opens the next one; then it is
delivered in the order of publication, and kept in a history of bounded length.

* `publish`, `advance`           the two operations on pulses;
* `inbox`, `pending`, `history`  delivered last, not yet delivered, delivered so far;
* `surfaced`                     the delivered pulses that observers get to see;
* `setAwareness`                 the only way to change the awareness, which stays in `[0, 1]`.
-/

namespace Organism

/-! ## pulses -/

inductive PulseKind where
  | heartbeat
  | status
  | command
  | ai
  | simulation
  | alert
  | warning
deriving DecidableEq, Inhabited

instance : Named PulseKind where
  all := [.heartbeat, .status, .command, .ai, .simulation, .alert, .warning]
  label
    | .heartbeat => "heartbeat"
    | .status => "status"
    | .command => "command"
    | .ai => "ai"
    | .simulation => "simulation"
    | .alert => "alert"
    | .warning => "warning"

/-- what a part of the organism publishes -/
structure Message where
  kind : PulseKind
  source : String
  text : String := ""
  payload : List (String × Value) := []

/-- a message on the bus: numbered, and stamped with the tick in which it was published -/
structure Pulse extends Message where
  id : Nat
  tick : Int

namespace Pulse

def toValue (p : Pulse) : Value :=
  .record
    [("id", .whole p.id), ("kind", .text (Named.label p.kind)), ("source", .text p.source),
      ("tick", .whole p.tick), ("message", .text p.text), ("payload", .record p.payload)]

def line (p : Pulse) : String :=
  s!"[{Named.label p.kind}] pulse#{p.id} from {p.source} => {p.text}"

end Pulse

/-! ## the bus -/

/-- someone outside who is shown the pulses that surface -/
inductive Observer where
  /-- keeps a list of the lines, each with the tag in front -/
  | recorder (tag : String)
  /-- breaks down at every pulse -/
  | broken (reason : String)
  /-- the terminal of the shell -/
  | console
deriving DecidableEq

structure Bus where
  /-- count of the pulses published so far -/
  published : Nat := 0
  tick : Int := 0
  pending : List Pulse := []
  inbox : List Pulse := []
  history : List Pulse := []
  /-- greatest length of the history -/
  capacity : Option Nat := some 256
  observers : List Observer := []
  verbosity : Verbosity := .commands
  simLevel : SimLevel := .off
  awareness : Number := 1
  /-- the tier of awareness that the last evaluation of alerts saw -/
  awarenessTier : Tier := .ok
  policy : Policy := .pushCapacity

def lastOf {α : Type} (n : Nat) (xs : List α) : List α := xs.drop (xs.length - n)

@[simp] theorem lastOf_nil {α : Type} (n : Nat) : lastOf n ([] : List α) = [] := by simp [lastOf]

theorem length_lastOf {α : Type} (n : Nat) (xs : List α) :
    (lastOf n xs).length = Nat.min n xs.length := by
  simp only [lastOf, List.length_drop, Nat.min_def]
  split <;> omega

namespace Bus

/-! ## pulses -/

/-- the pulse that a message becomes when it is published next -/
def stamp (b : Bus) (m : Message) : Pulse := { m with id := b.published + 1, tick := b.tick }

/-- the message queued for the next tick -/
def publish (b : Bus) (m : Message) : Bus :=
  { b with published := b.published + 1, pending := b.pending ++ [b.stamp m] }

def retained (b : Bus) (ps : List Pulse) : List Pulse :=
  match b.capacity with
  | none => ps
  | some n => lastOf n ps

/-- what was pending is delivered, and the given tick begins -/
def advance (b : Bus) (tick : Int) : Bus :=
  { b with
    tick
    inbox := b.pending
    pending := []
    history := b.retained (b.history ++ b.pending) }

@[simp] theorem inbox_advance (b : Bus) (tick : Int) : (b.advance tick).inbox = b.pending := rfl

@[simp] theorem pending_advance (b : Bus) (tick : Int) : (b.advance tick).pending = [] := rfl

/-- the last delivered pulses, at most `limit` of them -/
def recent (b : Bus) (limit : Int) : List Pulse :=
  if 0 < limit then lastOf limit.toNat b.history else []

/-- the verbosity lets the pulse through to the observers -/
def surfaces (b : Bus) (p : Pulse) : Bool :=
  match b.verbosity with
  | .all => true
  | .commands => p.kind == .command || p.kind == .alert || p.kind == .warning
  | .silent => false

/-- what the observers are shown of the delivered pulses, in the order in which they are shown it -/
def surfaced (b : Bus) : List (Observer × Pulse) :=
  (b.inbox.filter b.surfaces).flatMap fun p => b.observers.map fun o => (o, p)

/-! ## shared settings -/

def toValue (b : Bus) : Value :=
  .record
    [("tick", .whole b.tick), ("awareness", .real b.awareness),
      ("awareness_tier", .text (Named.label b.awarenessTier)),
      ("sim_level", .text b.simLevel.label), ("log_filter", .text b.verbosity.label),
      ("policy", .text (Named.label b.policy))]

/-- the awareness, brought into `[0, 1]` -/
def setAwareness (b : Bus) (x : Number) : Bus := { b with awareness := x.toUnit }

end Bus

end Organism
