import Organism.Value.Quantity
import Mathlib.Tactic.Linarith

/-!
# The unit interval

* `Number.InUnit`      an exact value between 0 and 1: what every health and awareness is;
* `inUnit_toUnit`      **whatever is brought into the interval is in it**;
* `toHealth_eq_ok`     a finite number is a health.
-/

namespace Organism.Number

def InUnit (x : Number) : Prop := ∃ q : Rat, x = finite q ∧ 0 ≤ q ∧ q ≤ 1

theorem inUnit_zero : InUnit 0 := ⟨0, rfl, le_refl 0, zero_le_one⟩

theorem inUnit_one : InUnit 1 := ⟨1, rfl, zero_le_one, le_refl 1⟩

theorem InUnit.isFinite {x : Number} (h : x.InUnit) : x.isFinite = true := by
  obtain ⟨q, rfl, -, -⟩ := h
  rfl

/-! ## order -/

theorem lesser_finite (p q : Rat) : lesser (finite p) (finite q) = finite (min p q) := by
  unfold lesser
  rw [min_comm]
  by_cases h : q < p
  · rw [if_pos ((lt_finite q p).mpr h), min_eq_left h.le]
  · rw [if_neg (mt (lt_finite q p).mp h), min_eq_right (not_lt.mp h)]

theorem larger_finite (p q : Rat) : larger (finite p) (finite q) = finite (max p q) := by
  unfold larger
  by_cases h : p < q
  · rw [if_pos ((lt_finite p q).mpr h), max_eq_right h.le]
  · rw [if_neg (mt (lt_finite p q).mp h), max_eq_left (not_lt.mp h)]

/-! ## into the interval -/

theorem toUnit_finite (q : Rat) : (finite q).toUnit = finite (max 0 (min 1 q)) := by
  show larger (finite 0) (lesser (finite 1) (finite q)) = _
  rw [lesser_finite, larger_finite]

theorem clipUnit_finite (q : Rat) : (finite q).clipUnit = finite (min (max q 0) 1) := by
  show lesser (larger (finite q) (finite 0)) (finite 1) = _
  rw [larger_finite, lesser_finite]

/-- **Whatever is brought into the interval is in it.** -/
theorem inUnit_toUnit (x : Number) : x.toUnit.InUnit := by
  cases x with
  | nan => exact inUnit_one
  | infinite s =>
    cases s with
    | false => exact inUnit_one
    | true => exact inUnit_zero
  | minusZero => exact inUnit_zero
  | finite q =>
    rw [toUnit_finite]
    exact ⟨_, rfl, le_max_left .., max_le zero_le_one (min_le_left ..)⟩

theorem toUnit_eq_self {x : Number} (h : x.InUnit) : x.toUnit = x := by
  obtain ⟨q, rfl, h0, h1⟩ := h
  rw [toUnit_finite, min_eq_right h1, max_eq_right h0]

theorem isFinite_clipUnit {x : Number} (h : x ≠ nan) : x.clipUnit.isFinite = true := by
  cases x with
  | nan => exact absurd rfl h
  | infinite s => cases s <;> rfl
  | minusZero => rfl
  | finite q =>
    rw [clipUnit_finite]
    rfl

/-! ## healths -/

theorem toHealth_eq_ok {x : Number} (h : x.isFinite = true) : x.toHealth = .ok x.toUnit := by
  cases x with
  | nan => cases h
  | infinite s => cases h
  | minusZero => rfl
  | finite q => rfl

theorem toHealth_eq_ok_iff {x y : Number} :
    x.toHealth = .ok y ↔ x.isFinite = true ∧ y = x.toUnit := by
  constructor
  · intro h
    have hx : x.isFinite = true := by
      cases x with
      | nan => cases h
      | infinite s => cases h
      | minusZero => rfl
      | finite q => rfl
    rw [toHealth_eq_ok hx] at h
    exact ⟨hx, (Except.ok.inj h).symm⟩
  · rintro ⟨h, rfl⟩
    exact toHealth_eq_ok h

end Organism.Number
