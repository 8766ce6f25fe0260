import Organism.Anatomy.Topology
import Organism.Table

/-!
# The registry of capabilities

One record for every ability of every organ, with a priority for survival and a switch.  Records are
numbered from 0 in the order of their registration; a registration that is refused uses up its
number too.  The registry keeps the records by their numbers and, for each organ, the numbers of its
records.

* `records`, `get?`, `ofOrgan`, `ofAbility`   the views;
* `register`, `setEnabled`                    the operations;
* `ofTopology`                                a registry with the abilities of all organs.
-/

namespace Organism

structure Capability where
  id : Int
  organ : OrganKind
  ability : Ability
  label : String
  description : String := ""
  enabled : Bool := true
  priority : Number

structure Registry where
  /-- the number that the next registration uses up -/
  nextId : Int := 0
  byId : Table Int Capability := {}
  /-- the ids of the records of each organ -/
  byOrgan : Table OrganKind (List Int) := {}

namespace Registry

/-! ## views -/

def get? (r : Registry) (id : Int) : Option Capability := r.byId.get? id

def records (r : Registry) : List Capability :=
  (r.byId.keys.mergeSort fun i j => i ≤ j).filterMap r.get?

def idsOf (r : Registry) (organ : OrganKind) : List Int := (r.byOrgan.get? organ).getD []

def ofOrgan (r : Registry) (organ : OrganKind) : List Capability :=
  (r.idsOf organ).filterMap r.get?

def ofAbility (r : Registry) (ability : Ability) : List Capability :=
  (r.byId.rows.map (·.2)).filter (·.ability = ability)

def size (r : Registry) : Nat := r.byId.size

/-! ## operations -/

/-- the registry after one more registration, which has been accepted if there is an id -/
def register [Rounding] (r : Registry) (organ : OrganKind) (ability : Ability)
    (label description : String) (priority : Value) : Registry × Except Fault Int :=
  let id := r.nextId
  let next := { r with nextId := id + 1 }
  match priority.toHealth with
  | .error e => (next, .error e)
  | .ok priority =>
    ({ next with
        byId := r.byId.put id { id, organ, ability, label, description, priority }
        byOrgan := r.byOrgan.put organ (r.idsOf organ ++ [id]) }, .ok id)

/-- the record's switch set; false if there is no such record -/
def setEnabled (r : Registry) (id : Int) (enabled : Bool) : Registry × Bool :=
  match r.get? id with
  | none => (r, false)
  | some c => ({ r with byId := r.byId.put id { c with enabled } }, true)

/-! ## the registry of a topology -/

/-- priority for survival of a record that is made for an organ -/
def priority [Rounding] : Ability → Number
  | .compute => 1
  | .storage => 0.9
  | .planning => 0.7
  | .networking => 0.6
  | .perception => 0.5
  | .actuation => 0.4
  | .learning => 0.3

def defaultPriority [Rounding] : Number := 0.5

def registerOrgan [Rounding] (r : Registry) (o : Organ) : Registry :=
  o.sortedAbilities.foldl (fun r a =>
    (r.register o.kind a s!"{o.kind.label}.{Named.label a}" "" (.real (priority a))).1) r

/-- a record for each ability of each organ -/
def ofTopology [Rounding] (t : Topology) : Registry := t.organs.foldl registerOrgan {}

end Registry
end Organism
