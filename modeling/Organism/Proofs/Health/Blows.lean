import Organism.Proofs.Health.Monotone
import Organism.Proofs.Settings.Ranges

/-!
# Damage and recovery

In exact arithmetic a health is lowered or raised by just the amount that is given, up to the end of
the unit interval, and an organ is changed in nothing else.

* `Organ.lowered`, `Organ.raised`   an organ after damage and after recovery;
* `damage_lowers`, `heal_raises`    one organ is changed, by the size of the amount;
* `recover_raises`                  **a recovery raises each organ that it is for, and no other**;
* `Value.Counts`                    a value with the number that it counts as;
* `recoverBy_raises`                a recovery by such a value.
-/

namespace Organism

attribute [local instance] Rounding.exact

def Organ.lowered (o : Organ) (a : Rat) : Organ :=
  { o with health := .finite (max 0 (o.health.value - a)) }

def Organ.raised (o : Organ) (a : Rat) : Organ :=
  { o with health := .finite (min 1 (o.health.value + a)) }

namespace Topology

variable {t : Topology} {k : OrganKind} {o : Organ} {x : Number}

theorem addHealth_value (ho : t.organ? k = some o) (hu : o.health.InUnit) (hx : x.isFinite = true) :
    ∃ c, t.addHealth k x =
      .ok (t.replace { o with health := .finite (max 0 (min 1 (o.health.value + x.value))) },
        c) := by
  obtain ⟨h, hh, -, -⟩ := hu
  have hsum : o.health + x = .finite (o.health.value + x.value) := by
    rw [hh, Number.finite_add h hx]
    rfl
  unfold addHealth
  rw [organ_eq ho]
  refine ⟨changeOf o (o.health + x), ?_⟩
  show t.write o (o.health + x) = _
  rw [write_eq t o (by rw [hsum]; rfl), hsum, Number.toUnit_finite]

/-- **Damage lowers one health, by the size of the amount.** -/
theorem damage_lowers (ho : t.organ? k = some o) (hu : o.health.InUnit) (hx : x.isFinite = true) :
    ∃ c, t.damage k x = .ok (t.replace (o.lowered |x.value|), c) := by
  obtain ⟨c, hc⟩ := addHealth_value ho hu (Number.isFinite_neg (Number.isFinite_abs hx))
  refine ⟨c, hc.trans ?_⟩
  have hle : o.health.value - |x.value| ≤ 1 := by
    obtain ⟨h, hh, -, h1⟩ := hu
    have hv : o.health.value = h := by rw [hh]; rfl
    have := abs_nonneg x.value
    linarith
  rw [Number.value_neg, Number.value_abs, ← sub_eq_add_neg, min_eq_right hle]
  rfl

/-- **Recovery raises one health, by the size of the amount.** -/
theorem heal_raises (ho : t.organ? k = some o) (hu : o.health.InUnit) (hx : x.isFinite = true) :
    ∃ c, t.heal k x = .ok (t.replace (o.raised |x.value|), c) := by
  obtain ⟨c, hc⟩ := addHealth_value ho hu (Number.isFinite_abs hx)
  refine ⟨c, hc.trans ?_⟩
  have hle : 0 ≤ min 1 (o.health.value + |x.value|) := by
    obtain ⟨h, hh, h0, -⟩ := hu
    have hv : o.health.value = h := by rw [hh]; rfl
    have := abs_nonneg x.value
    exact le_min zero_le_one (by linarith)
  rw [Number.value_abs, max_eq_right hle]
  rfl

/-- **A recovery raises each of the organs that it is for once, and no other.** -/
theorem recover_raises (h : t.Whole) (hx : x.isFinite = true) {ks : List OrganKind}
    (hk : ks.Nodup) :
    ∃ t' cs, t.recover x ks = (t', .ok cs) ∧ t'.nodeList = t.nodeList ∧
      ∀ k o, t.organ? k = some o →
        t'.organ? k = some (if k ∈ ks then o.raised |x.value| else o) := by
  induction ks generalizing t with
  | nil => exact ⟨t, [], rfl, rfl, fun k o ho => by simpa using ho⟩
  | cons j ks ih =>
    rw [List.nodup_cons] at hk
    obtain ⟨p, hp, hu⟩ := h.organ? j
    obtain ⟨c, hc⟩ := heal_raises hp hu hx
    obtain ⟨t', cs, hr, hn, ho⟩ := ih (h.written (heal_written hc)) hk.2
    refine ⟨t', c :: cs, ?_, hn, ?_⟩
    · unfold recover
      rw [hc]
      dsimp only
      rw [hr]
      rfl
    · intro k o hko
      obtain rfl : p.kind = j := kind_of_organ? hp
      have hk1 : (t.replace (p.raised |x.value|)).organ? k
          = some (if k = p.kind then p.raised |x.value| else o) := by
        rw [organ?_replace, hko]
        show (if k = p.kind then _ else _) = _
        split <;> rfl
      rw [ho k _ hk1]
      by_cases hkj : k = p.kind
      · subst hkj
        rw [hp] at hko
        cases hko
        simp [hk.1]
      · simp [hkj]

end Topology

/-! ## amounts that are given as values -/

/-- the value is a quantity, and equal to the number -/
def Value.Counts (v : Value) (x : Rat) : Prop :=
  ∃ q, v.quantity? = some q ∧ q.exact.isFinite = true ∧ q.exact.value = x

namespace Value.Counts

variable {v : Value} {x : Rat} (h : v.Counts x)
include h

theorem operand (operator : String) :
    ∃ y, v.operand operator = .ok y ∧ y.isFinite = true ∧ y.value = x := by
  obtain ⟨q, hq, hf, hx⟩ := h
  exact ⟨q.exact, by rw [Value.operand_eq hq, Quantity.number_exact], hf, hx⟩

theorem toNumber : ∃ y, v.toNumber = .ok y ∧ y.isFinite = true ∧ y.value = x := by
  obtain ⟨q, hq, hf, hx⟩ := h
  refine ⟨q.exact, ?_, hf, hx⟩
  rw [← Quantity.number_exact]
  cases v <;> cases hq <;> rfl

theorem fixed (places : Nat) : ∃ text, v.fixed places = .ok text := by
  obtain ⟨q, hq, -⟩ := h
  unfold Value.fixed
  rw [hq]
  exact ⟨_, congrArg (Except.map _) q.number_exact⟩

theorem isAtMost {a : Number} (ha : a.isFinite = true) (hle : x ≤ a.value) :
    v.isAtMost (.real a) = .ok true := by
  obtain ⟨q, hq, hf, rfl⟩ := h
  exact Value.isAtMost_iff.mpr ⟨q, .real a, hq, rfl, (Number.le_iff_value hf ha).mpr hle⟩

theorem atMost_is {a : Number} (ha : a.isFinite = true) (hle : a.value ≤ x) :
    (Value.real a).isAtMost v = .ok true := by
  obtain ⟨q, hq, hf, rfl⟩ := h
  exact Value.isAtMost_iff.mpr ⟨.real a, q, rfl, hq, (Number.le_iff_value ha hf).mpr hle⟩

end Value.Counts

theorem Intensity.InRange.damage {i : Intensity} (h : i.InRange) :
    ∃ low high, i.damageMin.Counts low ∧ i.damageMax.Counts high ∧ 0 ≤ low ∧ low ≤ high := by
  obtain ⟨-, low, high, -, hl, hh, -, -, h0, hle, h1⟩ := h
  have hlf : low.exact.isFinite = true :=
    Number.isFinite_of_between (b := .finite 1) rfl rfl h0 (Number.le_trans hle h1)
  have hhf : high.exact.isFinite = true := Number.isFinite_of_between hlf rfl hle h1
  exact ⟨_, _, ⟨low, hl, hlf, rfl⟩, ⟨high, hh, hhf, rfl⟩, (Number.le_iff_value rfl hlf).mp h0,
    (Number.le_iff_value hlf hhf).mp hle⟩

theorem Topology.recoverBy_raises {t : Topology} (h : t.Whole) {v : Value} {x : Rat}
    (hv : v.Counts x) {ks : List OrganKind} (hk : ks.Nodup) :
    ∃ t' cs, t.recoverBy v ks = (t', .ok cs) ∧ t'.nodeList = t.nodeList ∧
      ∀ k o, t.organ? k = some o → t'.organ? k = some (if k ∈ ks then o.raised |x| else o) := by
  obtain ⟨y, hy, hf, rfl⟩ := hv.toNumber
  unfold recoverBy
  split
  · next he =>
    rw [List.isEmpty_iff] at he
    subst he
    exact ⟨t, [], rfl, rfl, fun k o ho => by simpa using ho⟩
  · rw [hy]
    exact recover_raises h hf hk

end Organism
