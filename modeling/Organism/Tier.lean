import Organism.Named
import Organism.Number.Basic

/-!
# Tiers

A health or an awareness between 0 and 1 falls into one of five tiers.  The bounds belong to the
better tier; only what is above 0 is better than failed, so that `nan` is failed.
-/

namespace Organism

/-- severity, from healthy to failed -/
inductive Tier where
  | ok
  | degraded
  | impaired
  | critical
  | failed
deriving DecidableEq, Inhabited

namespace Tier

instance : Named Tier where
  all := [ok, degraded, impaired, critical, failed]
  label
    | ok => "ok"
    | degraded => "degraded"
    | impaired => "impaired"
    | critical => "critical"
    | failed => "failed"

def rank : Tier → Nat
  | ok => 0
  | degraded => 1
  | impaired => 2
  | critical => 3
  | failed => 4

theorem rank_injective {s t : Tier} (h : s.rank = t.rank) : s = t := by
  cases s <;> cases t <;> simp_all [rank]

def worse (s t : Tier) : Tier := if s.rank < t.rank then t else s

def isAlert (t : Tier) : Bool := t != ok

def healthLabel (t : Tier) : String := Named.label t

def awarenessLabel : Tier → String
  | ok => "optimal"
  | degraded => "stable"
  | impaired => "impaired"
  | critical => "critical"
  | failed => "unconscious"

section
variable [Rounding]

def okFrom : Number := 0.85

def degradedFrom : Number := 0.60

def impairedFrom : Number := 0.35

/-- the tier of a value -/
def ofNumber (x : Number) : Tier :=
  if okFrom ≤ x then ok
  else if degradedFrom ≤ x then degraded
  else if impairedFrom ≤ x then impaired
  else if 0 < x then critical
  else failed

end
end Tier

/-! ## policies -/

/-- what the cortex asks of the organism -/
inductive Policy where
  | pushCapacity
  | maintainLoad
  | reduceLoad
  | protectCore
deriving DecidableEq, Inhabited

namespace Policy

instance : Named Policy where
  all := [pushCapacity, maintainLoad, reduceLoad, protectCore]
  label
    | pushCapacity => "push_capacity"
    | maintainLoad => "maintain_load"
    | reduceLoad => "reduce_load"
    | protectCore => "protect_core"

/-- the policy for an awareness; the bounds are those of the tiers -/
def ofAwareness [Rounding] (awareness : Number) : Policy :=
  if Tier.okFrom ≤ awareness then pushCapacity
  else if Tier.degradedFrom ≤ awareness then maintainLoad
  else if Tier.impairedFrom ≤ awareness then reduceLoad
  else protectCore

end Policy
end Organism
