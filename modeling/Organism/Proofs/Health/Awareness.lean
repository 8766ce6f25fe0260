import Organism.Health.Alert
import Organism.Proofs.Anatomy.Writes
import Organism.Proofs.State.Load

/-!
# Awareness of whole topologies

* `Topology.Whole`        all three organs are there, and their healths lie between 0 and 1;
* `build_whole`           a topology built of organs of all kinds is whole;
* `Whole.written`, …      **no operation on healths makes a topology less than whole**;
* `Whole.awareness`       a whole topology has an awareness, between 0 and 1;
* `awareness_congr`       it depends on the healths only.
-/

namespace Organism

/-- all organs are there, with healths between 0 and 1 -/
structure Topology.Whole (t : Topology) : Prop where
  has : ∀ k, t.has k = true
  inUnit : ∀ k o, t.organ? k = some o → o.health.InUnit

namespace Topology

variable {t t' : Topology}

theorem Whole.organ? (h : t.Whole) (k : OrganKind) :
    ∃ o, t.organ? k = some o ∧ o.health.InUnit := by
  obtain ⟨o, ho⟩ := has_iff_exists.mp (h.has k)
  exact ⟨o, ho, h.inUnit k o ho⟩

theorem whole_of_organ? (h : ∀ k, ∃ o, t.organ? k = some o ∧ o.health.InUnit) : t.Whole := by
  refine ⟨?_, ?_⟩
  · intro k
    obtain ⟨o, ho, -⟩ := h k
    exact has_iff_exists.mpr ⟨o, ho⟩
  · intro k o ho
    obtain ⟨p, hp, hu⟩ := h k
    rw [ho] at hp
    cases hp
    exact hu

/-- **A topology built of organs of all kinds is whole.** -/
theorem build_whole {nodes : List Node} {organs : List Organ} (e : build nodes organs = .ok t)
    (hk : ∀ k, ∃ o ∈ organs, o.kind = k) (hu : ∀ o ∈ organs, o.health.InUnit) : t.Whole := by
  have hl : t.organList = organs := build_organList e
  refine ⟨?_, ?_⟩
  · intro k
    obtain ⟨o, ho, rfl⟩ := hk k
    exact has_iff_exists.mpr ⟨o, (build_distinct e).organ?_eq (hl ▸ ho)⟩
  · intro k o ho
    exact hu o (hl ▸ mem_of_organ? ho)

theorem Whole.written (h : t.Whole) (hw : t.Written t') : t'.Whole := by
  obtain ⟨j, x, hw⟩ := hw.organ?
  apply whole_of_organ?
  intro k
  obtain ⟨o, ho, hu⟩ := h.organ? k
  rw [hw k, ho]
  by_cases hk : k = j
  · rw [if_pos hk]
    exact ⟨_, rfl, Number.inUnit_toUnit x⟩
  · rw [if_neg hk]
    exact ⟨o, rfl, hu⟩

theorem sample_whole [Rounding] {x : Number} (h : x.InUnit) : (sample x).Whole := by
  refine ⟨sample_has x, ?_⟩
  intro k o ho
  rw [sample_health o (mem_of_organ? ho)]
  exact h

section
variable [Rounding]

theorem Whole.loaded (h : t.Whole) {s : State.Source} {m : List (OrganKind × Number)}
    (hl : t.Loaded s t' m) : t'.Whole := by
  apply whole_of_organ?
  intro k
  by_cases hk : k ∈ m.map (·.1)
  · obtain ⟨e, he, rfl⟩ := List.mem_map.mp hk
    obtain ⟨o, -, ho⟩ := hl.written e he
    exact ⟨_, ho, hl.inUnit e he⟩
  · rw [hl.others k hk]
    exact h.organ? k

theorem organ?_evaluate (t : Topology) (k : OrganKind) :
    t.evaluate.1.organ? k = (t.organ? k).map fun o => { o with observed := o.tier } :=
  organ?_mapOrgans (f := fun o => { o with observed := o.tier }) (fun _ => rfl) t k

theorem Whole.evaluate (h : t.Whole) : t.evaluate.1.Whole := by
  apply whole_of_organ?
  intro k
  obtain ⟨o, ho, hu⟩ := h.organ? k
  rw [organ?_evaluate, ho]
  exact ⟨_, rfl, hu⟩

/-! ## awareness -/

theorem awareness_eq {c m i : Organ} (hc : t.organ? .cortex = some c)
    (hm : t.organ? .memory = some m) (hi : t.organ? .ioBridge = some i) :
    t.awareness = .ok (awarenessOf c.health m.health i.health) := by
  unfold awareness
  rw [organ_eq hc, organ_eq hm, organ_eq hi]
  rfl

theorem Whole.awareness (h : t.Whole) : ∃ x, t.awareness = .ok x ∧ x.InUnit := by
  obtain ⟨c, hc, -⟩ := h.organ? .cortex
  obtain ⟨m, hm, -⟩ := h.organ? .memory
  obtain ⟨i, hi, -⟩ := h.organ? .ioBridge
  exact ⟨_, awareness_eq hc hm hi, Number.inUnit_toUnit _⟩

theorem Whole.awareness_inUnit (h : t.Whole) {x : Number} (hx : t.awareness = .ok x) :
    x.InUnit := by
  obtain ⟨y, hy, hu⟩ := h.awareness
  rw [hx] at hy
  cases hy
  exact hu

theorem awareness_congr (h : t.Whole)
    (hh : ∀ k, (t'.organ? k).map (·.health) = (t.organ? k).map (·.health)) :
    t'.awareness = t.awareness := by
  have same : ∀ k, ∃ o p, t.organ? k = some o ∧ t'.organ? k = some p ∧ p.health = o.health := by
    intro k
    obtain ⟨o, ho, -⟩ := h.organ? k
    have hk := hh k
    rw [ho, Option.map_some] at hk
    obtain ⟨p, hp, e⟩ := Option.map_eq_some_iff.mp hk
    exact ⟨o, p, ho, hp, e⟩
  obtain ⟨c, c', hc, hc', ec⟩ := same .cortex
  obtain ⟨m, m', hm, hm', em⟩ := same .memory
  obtain ⟨i, i', hi, hi', ei⟩ := same .ioBridge
  rw [awareness_eq hc hm hi, awareness_eq hc' hm' hi', ec, em, ei]

theorem awareness_evaluate (h : t.Whole) : t.evaluate.1.awareness = t.awareness := by
  apply awareness_congr h
  intro k
  rw [organ?_evaluate, Option.map_map]
  rfl

end
end Topology
end Organism
