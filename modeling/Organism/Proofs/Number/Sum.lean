import Organism.Proofs.Number.Rounding
import Organism.Proofs.Number.Unit

/-!
# Sums that stay numbers

A `nan` comes only of a `nan`, of infinities that meet with different signs, and of zero times
infinity.

* `Number.IsNonneg`                zero, a positive value, or the positive infinity;
* `round_ne_nan`, `round_nonneg`   what a rounding cannot give;
* `Rounding.KeepsSign`             roundings under which sums and products of such numbers are such;
* `add_ne_nan`                     a finite value plus anything but `nan`;
* `add_isFinite`                   **a health plus a finite amount is finite**, however large the
                                   amount.
-/

namespace Organism

namespace Number

/-- zero, a positive value or the positive infinity -/
def IsNonneg (x : Number) : Prop := x = .infinite false ∨ ∃ q : Rat, x = .finite q ∧ 0 ≤ q

def Is64 (x : Number) : Prop := ∀ q, x = .finite q → Binary64.Representable q

theorem isNonneg_zero : IsNonneg 0 := .inr ⟨0, rfl, le_refl 0⟩

theorem IsNonneg.ne_nan {x : Number} (h : x.IsNonneg) : x ≠ .nan := by
  rcases h with rfl | ⟨q, rfl, -⟩ <;> exact fun e => (by cases e)

theorem neg_ne_nan {x : Number} (h : x ≠ .nan) : -x ≠ .nan := by
  intro e
  cases x with
  | nan => exact h rfl
  | infinite s => cases e
  | minusZero => cases e
  | finite q =>
    rw [Binary64.neg_finite] at e
    split at e <;> cases e

/-! ## roundings -/

theorem round_nonneg {q : Rat} (h : 0 ≤ q) : (Binary64.round q).IsNonneg := by
  unfold Binary64.round
  rw [if_neg (not_lt.mpr h)]
  rcases Binary64.roundNonneg_cases h with e | ⟨r, e, hr, -⟩
  · exact .inl e
  · exact .inr ⟨r, e, hr⟩

theorem round_ne_nan (q : Rat) : Binary64.round q ≠ .nan := by
  rcases le_or_gt 0 q with h | h
  · exact (round_nonneg h).ne_nan
  · have hn := round_nonneg (neg_pos.mpr h).le
    unfold Binary64.round at hn ⊢
    rw [if_neg (not_lt.mpr (neg_pos.mpr h).le)] at hn
    rw [if_pos h]
    exact neg_ne_nan hn.ne_nan

theorem is64_round (q : Rat) : (Binary64.round q).Is64 :=
  fun _ h => Binary64.representable_round h

end Number

/-- nothing that is not negative is rounded to something that is, or to none -/
class Rounding.KeepsSign [Rounding] : Prop where
  round_nonneg {q : Rat} (h : 0 ≤ q) : (Rounding.round q).IsNonneg

instance : @Rounding.KeepsSign Rounding.binary64 :=
  letI := Rounding.binary64
  ⟨Number.round_nonneg⟩

instance : @Rounding.KeepsSign Rounding.exact :=
  letI := Rounding.exact
  ⟨fun h => .inr ⟨_, rfl, h⟩⟩

namespace Number

/-! ## what is not negative -/

section
variable [Rounding] [Rounding.KeepsSign]

theorem IsNonneg.add {x y : Number} (hx : x.IsNonneg) (hy : y.IsNonneg) : (x + y).IsNonneg := by
  rcases hx with rfl | ⟨p, rfl, hp⟩
  · rcases hy with rfl | ⟨q, rfl, -⟩ <;> exact .inl rfl
  · rcases hy with rfl | ⟨q, rfl, hq⟩
    · exact .inl rfl
    · exact Rounding.KeepsSign.round_nonneg (add_nonneg hp hq)

theorem isNonneg_foldl {xs : List Number} {x : Number} (hx : x.IsNonneg)
    (h : ∀ y ∈ xs, y.IsNonneg) : (xs.foldl (· + ·) x).IsNonneg := by
  induction xs generalizing x with
  | nil => exact hx
  | cons y xs ih =>
    rw [List.foldl_cons]
    exact ih (hx.add (h y (List.mem_cons_self ..))) fun z hz => h z (List.mem_cons_of_mem _ hz)

theorem isNonneg_total {xs : List Number} (h : ∀ x ∈ xs, x.IsNonneg) : (total xs).IsNonneg :=
  isNonneg_foldl isNonneg_zero h

theorem isNonneg_mul {q : Rat} {x : Number} (hq : 0 < q) (hx : x.IsNonneg) :
    (finite q * x).IsNonneg := by
  rcases hx with rfl | ⟨p, rfl, hp⟩
  · have h : finite q * .infinite false
        = if q = 0 then .nan else .infinite (decide (q < 0) != false) := rfl
    rw [h, if_neg hq.ne', decide_eq_false (not_lt.mpr hq.le)]
    exact .inl rfl
  · have h : finite q * finite p
        = if q * p = 0 then zero (decide (q < 0) != decide (p < 0)) else Rounding.round (q * p) := rfl
    rw [h, decide_eq_false (not_lt.mpr hq.le), decide_eq_false (not_lt.mpr hp)]
    split
    · exact isNonneg_zero
    · exact Rounding.KeepsSign.round_nonneg (mul_nonneg hq.le hp)

end

/-! ## sums -/

attribute [local instance] Rounding.binary64

theorem add_ne_nan {q : Rat} {x : Number} (h : x ≠ .nan) : finite q + x ≠ .nan := by
  cases x with
  | nan => exact absurd rfl h
  | infinite s => exact fun e => (by cases e)
  | minusZero => exact round_ne_nan (q + 0)
  | finite p => exact round_ne_nan (q + p)

/-! ## amounts -/

theorem abs_le_of_representable {q : Rat} (h : Binary64.Representable q) :
    |q| ≤ ((2 : Rat) ^ (53 : Int) - 1) * 2 ^ (971 : Int) := by
  obtain ⟨k, e, hk, -, he, rfl⟩ := h
  have h1 : |(k : Rat)| ≤ 2 ^ (53 : Int) - 1 := by
    have hn : k.natAbs ≤ 2 ^ 53 - 1 := by omega
    rw [← Int.cast_abs, Int.abs_eq_natAbs]
    have hc : ((k.natAbs : Int) : Rat) ≤ ((2 ^ 53 - 1 : Nat) : Rat) := by exact_mod_cast hn
    refine hc.trans (le_of_eq ?_)
    norm_num
  have h2 : (2 : Rat) ^ e ≤ 2 ^ (971 : Int) := zpow_le_zpow_right₀ (by norm_num) he
  rw [abs_mul, abs_of_pos (show (0 : Rat) < 2 ^ e by positivity)]
  exact mul_le_mul h1 h2 (by positivity) (by norm_num)

theorem Is64.neg {x : Number} (hx : x.Is64) : (-x).Is64 := by
  intro q h
  cases x with
  | nan => cases h
  | infinite s => cases h
  | minusZero =>
    cases h
    exact Binary64.representable_zero
  | finite p =>
    rw [Binary64.neg_finite] at h
    split at h
    · cases h
    · cases h
      exact (hx p rfl).neg

theorem Is64.abs {x : Number} (hx : x.Is64) : x.abs.Is64 := by
  unfold Number.abs
  split
  · exact hx.neg
  · exact hx

theorem isFinite_neg {x : Number} (h : x.isFinite = true) : (-x).isFinite = true := by
  cases x with
  | nan => cases h
  | infinite s => cases h
  | minusZero => rfl
  | finite q =>
    rw [Binary64.neg_finite]
    split <;> rfl

theorem isFinite_abs {x : Number} (h : x.isFinite = true) : x.abs.isFinite = true := by
  unfold Number.abs
  split
  · exact isFinite_neg h
  · exact h

theorem round_isFinite {q : Rat} (h : |q| < ((2 : Rat) ^ (53 : Int) - 1 / 2) * 2 ^ (971 : Int)) :
    (Binary64.round q).isFinite = true := by
  unfold Binary64.round
  split
  · next hq =>
    rw [abs_of_neg hq] at h
    obtain ⟨r, hr, -, -⟩ := Binary64.roundNonneg_finite (neg_pos.mpr hq).le h
    rw [hr]
    exact isFinite_neg rfl
  · next hq =>
    rw [abs_of_nonneg (not_lt.mp hq)] at h
    obtain ⟨r, hr, -, -⟩ := Binary64.roundNonneg_finite (not_lt.mp hq) h
    rw [hr]
    rfl

theorem abs_add_lt {p q : Rat} (hp : |p| ≤ 1)
    (hq : |q| ≤ ((2 : Rat) ^ (53 : Int) - 1) * 2 ^ (971 : Int)) :
    |p + q| < ((2 : Rat) ^ (53 : Int) - 1 / 2) * 2 ^ (971 : Int) := by
  have hone : (1 : Rat) < 2 ^ (970 : Int) := one_lt_zpow₀ (by norm_num) (by norm_num)
  have htop : (2 : Rat) ^ (971 : Int) = 2 ^ (970 : Int) * 2 := by
    rw [← zpow_add_one₀ (by norm_num)]
    norm_num
  have hsum : |p + q| ≤ |p| + |q| := abs_add_le p q
  rw [htop] at hq ⊢
  generalize (2 : Rat) ^ (970 : Int) = u at hone hq
  linarith

/-- **A health plus a finite amount of either sign is finite.** -/
theorem add_isFinite {h x : Number} (hh : h.InUnit) (hx : x.isFinite = true) (h64 : x.Is64) :
    (h + x).isFinite = true := by
  obtain ⟨p, rfl, hp0, hp1⟩ := hh
  have hp : |p| ≤ 1 := by rwa [abs_of_nonneg hp0]
  cases x with
  | nan => cases hx
  | infinite s => cases hx
  | minusZero =>
    refine round_isFinite (abs_add_lt hp ?_)
    show |(0 : Rat)| ≤ _
    rw [abs_zero]
    exact mul_nonneg (by norm_num) (by positivity)
  | finite q => exact round_isFinite (abs_add_lt hp (abs_le_of_representable (h64 q rfl)))

end Number
end Organism
