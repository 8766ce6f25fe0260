import Organism.Anatomy.Topology
import Organism.Signal.Bus

/-!
# Awareness and alerts

The awareness of an organism is the weighted sum of the healths of its three organs.

An evaluation compares the tier of every organ, and the tier of awareness, with the one that the
last evaluation saw.  Where they differ there is an alert, and the new tier is remembered: an alert
is the edge between two tiers, never the tier itself.
-/

namespace Organism

/-! ## awareness -/

/-- the weight of an organ in the awareness; the weights add up to 1 -/
def OrganKind.weight [Rounding] : OrganKind → Number
  | .cortex => 0.4
  | .memory => 0.3
  | .ioBridge => 0.3

/-- the weighted sum of three healths, brought into `[0, 1]` -/
def awarenessOf [Rounding] (cortex memory ioBridge : Number) : Number :=
  (Number.total
    [OrganKind.cortex.weight * cortex, OrganKind.memory.weight * memory,
      OrganKind.ioBridge.weight * ioBridge]).toUnit

/-- the awareness of a topology that has all three organs -/
def Topology.awareness [Rounding] (t : Topology) : Except Fault Number := do
  let cortex ← t.organ .cortex
  let memory ← t.organ .memory
  let ioBridge ← t.organ .ioBridge
  return awarenessOf cortex.health memory.health ioBridge.health

/-! ## alerts -/

/-- what an alert is about -/
inductive Subject where
  | organ (k : OrganKind)
  | awareness
deriving DecidableEq

def Subject.name : Subject → String
  | organ k => k.label
  | awareness => "awareness"

structure Alert where
  subject : Subject
  previous : Tier
  tier : Tier
  value : Number
deriving DecidableEq

namespace Alert

def label (a : Alert) : String :=
  match a.subject with
  | .organ _ => a.tier.healthLabel
  | .awareness => a.tier.awarenessLabel

def isEscalating (a : Alert) : Bool := a.previous.rank < a.tier.rank

def fields (a : Alert) : List (String × Value) :=
  [("subject", .text a.subject.name), ("previous", .text (Named.label a.previous)),
    ("tier", .text (Named.label a.tier)), ("label", .text a.label), ("value", .real a.value)]

end Alert

section
variable [Rounding]

/-- the alert of an organ whose tier is not the observed one -/
def Organ.alert? (o : Organ) : Option Alert :=
  if o.tier = o.observed then none
  else some { subject := .organ o.kind, previous := o.observed, tier := o.tier, value := o.health }

/-- every organ observed in its present tier, and the alerts of those where that is news -/
def Topology.evaluate (t : Topology) : Topology × List Alert :=
  ({ t with organList := t.organList.map fun o => { o with observed := o.tier } },
    t.organs.filterMap Organ.alert?)

def Bus.alert? (b : Bus) : Option Alert :=
  let tier := Tier.ofNumber b.awareness
  if tier = b.awarenessTier then none
  else some { subject := .awareness, previous := b.awarenessTier, tier, value := b.awareness }

def Bus.evaluate (b : Bus) : Bus × List Alert :=
  ({ b with awarenessTier := .ofNumber b.awareness }, b.alert?.toList)

end

end Organism
