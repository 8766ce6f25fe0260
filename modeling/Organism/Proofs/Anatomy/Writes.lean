import Organism.Health.Change
import Organism.Proofs.Anatomy.Topology

/-!
# Writes of healths

Every operation that changes a health goes through `Topology.write`.

* `Topology.Written`        one health changed, and nothing else: what a single write can do;
* `setHealth_written`, …    **every operation on one organ is such a write, or fails**;
* `recover_preserves`       what a write preserves, a recovery of several organs preserves,
                            also when it stops half way.
-/

namespace Organism.Topology

/-- the topology with one health changed to a finite number -/
def Written (t t' : Topology) : Prop :=
  ∃ k o, ∃ x : Number, t.organ? k = some o ∧ t' = t.replace { o with health := x.toUnit }

variable {t t' : Topology}

theorem organ?_of_organ {k : OrganKind} {o : Organ} (h : t.organ k = .ok o) :
    t.organ? k = some o := by
  unfold organ at h
  split at h
  · next p hp =>
    cases h
    exact hp
  · cases h

theorem Written.organ? (h : t.Written t') :
    ∃ k, ∃ x : Number, ∀ j, t'.organ? j =
      if j = k then (t.organ? j).map fun o => { o with health := x.toUnit } else t.organ? j := by
  obtain ⟨k, o, x, ho, rfl⟩ := h
  obtain rfl : o.kind = k := kind_of_organ? ho
  refine ⟨o.kind, x, ?_⟩
  intro j
  rw [organ?_replace]
  by_cases hj : j = o.kind
  · rw [if_pos hj, if_pos hj, hj, ho]
    rfl
  · rw [if_neg hj, if_neg hj]

theorem Written.has (h : t.Written t') (j : OrganKind) : t'.has j = t.has j := by
  obtain ⟨k, x, hk⟩ := h.organ?
  unfold Topology.has
  rw [hk j]
  split
  · exact Option.isSome_map
  · rfl

section
variable [Rounding] {k : OrganKind} {c : HealthChange}

theorem write_written {o : Organ} {x : Number} (ho : t.organ k = .ok o)
    (h : t.write o x = .ok (t', c)) : t.Written t' := by
  obtain ⟨-, e⟩ := write_eq_ok h
  cases e
  exact ⟨k, o, x, organ?_of_organ ho, rfl⟩

theorem setHealth_written {x : Number} (h : t.setHealth k x = .ok (t', c)) : t.Written t' := by
  obtain ⟨o, ho, h⟩ := ok_of_bind h
  exact write_written ho h

theorem addHealth_written {d : Number} (h : t.addHealth k d = .ok (t', c)) : t.Written t' := by
  obtain ⟨o, ho, h⟩ := ok_of_bind h
  exact write_written ho h

theorem setHealthTo_written {v : Value} (h : t.setHealthTo k v = .ok (t', c)) : t.Written t' := by
  obtain ⟨o, ho, h⟩ := ok_of_bind h
  obtain ⟨x, -, h⟩ := ok_of_bind h
  exact write_written ho h

theorem addHealthOf_written {v : Value} (h : t.addHealthOf k v = .ok (t', c)) : t.Written t' := by
  obtain ⟨o, ho, h⟩ := ok_of_bind h
  obtain ⟨x, -, h⟩ := ok_of_bind h
  exact write_written ho h

theorem damage_written {x : Number} (h : t.damage k x = .ok (t', c)) : t.Written t' :=
  addHealth_written h

theorem heal_written {x : Number} (h : t.heal k x = .ok (t', c)) : t.Written t' :=
  addHealth_written h

theorem feel_written {l : Limits} {r : Reading} (h : t.feel l k r = .ok (t', c)) :
    t.Written t' := by
  obtain ⟨o, -, h⟩ := ok_of_bind h
  obtain ⟨x, -, h⟩ := ok_of_bind h
  exact setHealth_written h

/-! ## several organs -/

variable {P : Topology → Prop}

theorem recover_preserves (hP : ∀ t t', t.Written t' → P t → P t') {x : Number}
    {ks : List OrganKind} (h : P t) : P (t.recover x ks).1 := by
  induction ks generalizing t with
  | nil => exact h
  | cons k ks ih =>
    unfold recover
    cases hk : t.heal k x with
    | error e => exact h
    | ok r => exact ih (hP t r.1 (heal_written (c := r.2) hk) h)

theorem recoverBy_preserves (hP : ∀ t t', t.Written t' → P t → P t') {v : Value}
    {ks : List OrganKind} (h : P t) : P (t.recoverBy v ks).1 := by
  unfold recoverBy
  split
  · exact h
  · cases v.toNumber with
    | error e => exact h
    | ok x => exact recover_preserves hP h

end
end Organism.Topology
