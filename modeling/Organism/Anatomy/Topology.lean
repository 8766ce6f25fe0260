import Organism.Named
import Organism.Tier
import Organism.Value.Quantity

/-!
# Topology

An organ lives on a node, offers abilities, has a health between 0 and 1 and lists the devices that
are attached to it.  `observed` is the tier in which the last evaluation of alerts saw it.

A device belongs to at most one organ: attaching marks it with the organ's id, and a device marked
otherwise is refused.  A device equal to one that is listed already is not listed again.

The nodes and organs of one organism are a topology.  The set of organs is fixed when it is built;
after that only healths and observed tiers change.

* `Topology.build`       checks the parts and puts every organ on the list of its node;
* `organs`, `nodes`      the parts in the order of reports;
* `setHealth`, `addHealth`, `setHealthTo`, `addHealthOf`
                         the only ways to change a health, all through `write`;
* `HealthChange`         what such a change did.
-/

namespace Organism

/-! ## organs -/

structure Device where
  id : String
  kind : DeviceKind
  status : DeviceStatus := .online
  organId : Option Int := none
deriving DecidableEq

structure Organ where
  id : Int
  kind : OrganKind
  nodeId : Int
  abilities : List Ability
  health : Number
  devices : List Device
  observed : Tier

namespace Organ

section
variable [Rounding]

/-- a new organ, observed in the tier of its health -/
def create (id : Int) (kind : OrganKind) (nodeId : Int) (abilities : List Ability)
    (health : Number) : Organ :=
  { id, kind, nodeId, abilities, health, devices := [], observed := .ofNumber health }

def tier (o : Organ) : Tier := .ofNumber o.health

end

def offers (o : Organ) (a : Ability) : Bool := o.abilities.contains a

def sortedAbilities (o : Organ) : List Ability :=
  [Ability.actuation, .compute, .learning, .networking, .perception, .planning, .storage].filter
    o.offers

/-- the organ with the device on its list, unless an equal one is there -/
def list (o : Organ) (d : Device) : Organ :=
  if d ∈ o.devices then o else { o with devices := o.devices ++ [d] }

/-- the organ with the device attached, and the device marked with its organ -/
def attach (o : Organ) (d : Device) : Except Fault (Organ × Device) :=
  match d.organId with
  | some owner =>
    if owner = o.id then .ok (o.list d, d) else .error (.attachedElsewhere d.id owner)
  | none =>
    let d := { d with organId := some o.id }
    .ok (o.list d, d)

end Organ

/-- a place that organs live on -/
structure Node where
  id : Int
  label : String
  role : String := ""
  organIds : List Int := []
deriving DecidableEq

namespace Node

def isActive (n : Node) : Bool := !n.organIds.isEmpty

def host (n : Node) (organ : Int) : Node :=
  if organ ∈ n.organIds then n else { n with organIds := n.organIds ++ [organ] }

end Node

/-! ## topologies -/

/-- a topology; the organs stand in the order in which they were added -/
structure Topology where
  nodeList : List Node
  organList : List Organ

/-- what a change of one health did -/
structure HealthChange where
  organ : OrganKind
  previous : Number
  health : Number
  /-- the tiers before and after differ -/
  crossed : Bool
deriving DecidableEq

def HealthChange.delta [Rounding] (c : HealthChange) : Number := c.health - c.previous

def HealthChange.toValue [Rounding] (c : HealthChange) : Value :=
  .record
    [("kind", .text c.organ.label), ("previous", .real c.previous), ("health", .real c.health),
      ("crossed", .flag c.crossed), ("delta", .real c.delta)]

namespace Topology

/-! ## building -/

def addNode (t : Topology) (n : Node) : Except Fault Topology :=
  if t.nodeList.any (·.id = n.id) then .error (.secondNode n.id)
  else .ok { t with nodeList := t.nodeList ++ [n] }

def addOrgan (t : Topology) (o : Organ) : Except Fault Topology :=
  if t.organList.any (·.kind = o.kind) then .error (.secondOrgan o.kind)
  else if t.nodeList.any (·.id = o.nodeId) then
    .ok {
      nodeList := t.nodeList.map fun n => if n.id = o.nodeId then n.host o.id else n
      organList := t.organList ++ [o] }
  else .error (.noNode o.kind o.nodeId)

/-- the topology of some nodes and organs -/
def build (nodes : List Node) (organs : List Organ) : Except Fault Topology := do
  let t ← nodes.foldlM addNode { nodeList := [], organList := [] }
  organs.foldlM addOrgan t

/-! ## parts -/

def organ? (t : Topology) (k : OrganKind) : Option Organ := t.organList.find? (·.kind = k)

def organ (t : Topology) (k : OrganKind) : Except Fault Organ :=
  match t.organ? k with
  | some o => .ok o
  | none => .error (.noOrgan k)

def has (t : Topology) (k : OrganKind) : Bool := (t.organ? k).isSome

/-- the organs in the order of reports -/
def organs (t : Topology) : List Organ := (Named.all (α := OrganKind)).filterMap t.organ?

def nodes (t : Topology) : List Node := t.nodeList.mergeSort fun a b => a.id ≤ b.id

def node? (t : Topology) (id : Int) : Option Node := t.nodeList.find? (·.id = id)

def organsOn (t : Topology) (node : Int) : List Organ := t.organs.filter (·.nodeId = node)

def healths (t : Topology) : List (OrganKind × Number) := t.organs.map fun o => (o.kind, o.health)

/-- the devices of the organs that have any -/
def devices (t : Topology) : List (OrganKind × List Device) :=
  (t.organs.filter fun o => !o.devices.isEmpty).map fun o => (o.kind, o.devices)

/-- the lowest health; 1 when there are no organs -/
def minHealth (t : Topology) : Number :=
  match t.organList.map (·.health) with
  | [] => 1
  | h :: hs => hs.foldl Number.lesser h

def describe (t : Topology) : String :=
  let labels := ", ".intercalate (t.nodes.map fun n => n.label ++ " (" ++ n.role ++ ")")
  s!"{t.nodeList.length} node(s), {t.organList.length} organ(s) :: {labels}"

section
variable [Rounding]

def tiers (t : Topology) : List (OrganKind × Tier) := t.organs.map fun o => (o.kind, o.tier)

def worstTier (t : Topology) : Except Fault Tier :=
  match t.tiers.map (·.2) with
  | [] => .error .noTiers
  | s :: ss => .ok (ss.foldl Tier.worse s)

/-! ## changes -/

def replace (t : Topology) (o : Organ) : Topology :=
  { t with organList := t.organList.map fun p => if p.kind = o.kind then o else p }

/-- the organ's health set to the number, if that is finite -/
def write (t : Topology) (o : Organ) (x : Number) : Except Fault (Topology × HealthChange) := do
  let health ← x.toHealth
  let change :=
    { organ := o.kind, previous := o.health, health
      crossed := Tier.ofNumber o.health != Tier.ofNumber health }
  return (t.replace { o with health }, change)

def setHealth (t : Topology) (k : OrganKind) (x : Number) :
    Except Fault (Topology × HealthChange) := do
  t.write (← t.organ k) x

def addHealth (t : Topology) (k : OrganKind) (d : Number) :
    Except Fault (Topology × HealthChange) := do
  let o ← t.organ k
  t.write o (o.health + d)

/-- a health overwritten with whatever the value is read as -/
def setHealthTo (t : Topology) (k : OrganKind) (v : Value) :
    Except Fault (Topology × HealthChange) := do
  let o ← t.organ k
  t.write o (← v.toNumber)

/-- a signed amount, given as a value, added to a health -/
def addHealthOf (t : Topology) (k : OrganKind) (v : Value) :
    Except Fault (Topology × HealthChange) := do
  let o ← t.organ k
  t.write o (o.health + (← v.operand "+"))

/-! ## the default organism -/

private def sampleDevice (organ : Int) (id : String) (kind : DeviceKind) : Device :=
  { id, kind, organId := some organ }

/-- the organism of two nodes: cortex and memory on the first, the IO bridge on the second -/
def sample (health : Number) : Topology where
  nodeList :=
    [{ id := 1, label := "core-0", role := "primary brain", organIds := [1, 2] },
      { id := 2, label := "io-0", role := "peripheral bridge", organIds := [3] }]
  organList :=
    [{ Organ.create 1 .cortex 1 [.compute, .planning, .learning] health with
        devices := [sampleDevice 1 "Sim-CPU-0" .cpu, sampleDevice 1 "Sim-GPU-0" .gpu] },
      { Organ.create 2 .memory 1 [.storage] health with
        devices := [sampleDevice 2 "Sim-NVMe-0" .disk] },
      { Organ.create 3 .ioBridge 2 [.perception, .actuation, .networking] health with
        devices :=
          [sampleDevice 3 "Sim-10G-NIC-0" .nic, sampleDevice 3 "Sim-USB-Hub-0" .usb,
            sampleDevice 3 "Sim-Display-0" .display] }]

end
end Topology

end Organism
