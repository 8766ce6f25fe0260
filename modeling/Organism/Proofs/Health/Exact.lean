import Organism.Proofs.Health.Gradual

/-!
# Healths are written as they were calculated

What a reading makes of a health is brought into the unit interval once when it is calculated and
once more when it is written.  The second time changes nothing: the one result that would be changed
is minus zero, and a health and a change of 64 bits never add up to that.

* `round_ne_minusZero`   a multiple of the least 64-bit number is not rounded to minus zero;
* `add_ne_minusZero`     neither is what is added to a health;
* `Limits.Is64`          limits whose steps are 64-bit numbers, if they are numbers proper;
* `is64_change`          the change that a reading makes is a 64-bit number then;
* `feel_exact`           **an organ that feels a reading gets the next health, unchanged**.
-/

namespace Organism

attribute [local instance] Rounding.binary64

namespace Number

/-! ## zeros -/

/-- the least positive 64-bit number divides all of them -/
theorem exists_least {q : Rat} (h : Binary64.Representable q) :
    ∃ n : Int, q = n * (2 : Rat) ^ (-1074 : Int) := by
  obtain ⟨k, e, -, he, -, rfl⟩ := h
  refine ⟨k * 2 ^ (e + 1074).toNat, ?_⟩
  have hpow : (2 : Rat) ^ e = 2 ^ (e + 1074).toNat * 2 ^ (-1074 : Int) := by
    rw [← zpow_natCast, ← zpow_add₀ (by norm_num), Int.toNat_of_nonneg (by omega)]
    congr 1
    omega
  rw [hpow]
  generalize (2 : Rat) ^ (-1074 : Int) = u
  push_cast
  ring

theorem one_le_div_unit {q : Rat} (h : (2 : Rat) ^ (-1074 : Int) ≤ q) :
    1 ≤ q / Binary64.unit q := by
  have hq : 0 < q := lt_of_lt_of_le (by positivity) h
  rw [one_le_div (Binary64.unit_pos q)]
  unfold Binary64.unit
  rcases le_total (log2 q - 52) (-1074) with hlog | hlog
  · rwa [max_eq_right hlog]
  · rw [max_eq_left hlog]
    calc (2 : Rat) ^ (log2 q - 52) ≤ 2 ^ log2 q := zpow_le_zpow_right₀ (by norm_num) (by omega)
      _ ≤ q := (log2_bounds hq).1

theorem roundNonneg_ne_zero {q : Rat} (h : (2 : Rat) ^ (-1074 : Int) ≤ q) :
    Binary64.roundNonneg q ≠ finite 0 := by
  have hq : 0 < q := lt_of_lt_of_le (by positivity) h
  rw [Binary64.roundNonneg_of_pos hq]
  split
  · exact nofun
  · intro e
    have hunits : 1 ≤ roundEven (q / Binary64.unit q) :=
      le_roundEven (by exact_mod_cast one_le_div_unit h)
    have hzero : Binary64.unit q * roundEven (q / Binary64.unit q) = 0 := Number.finite.inj e
    rcases mul_eq_zero.mp hzero with hu | hn
    · exact (Binary64.unit_pos q).ne' hu
    · have : roundEven (q / Binary64.unit q) = 0 := by exact_mod_cast hn
      omega

theorem round_ne_minusZero (n : Int) :
    Binary64.round (n * (2 : Rat) ^ (-1074 : Int)) ≠ minusZero := by
  have hleast : (0 : Rat) < 2 ^ (-1074 : Int) := by positivity
  rcases le_or_gt 0 n with hn | hn
  · have hq : (0 : Rat) ≤ n * 2 ^ (-1074 : Int) := mul_nonneg (by exact_mod_cast hn) hleast.le
    rcases round_nonneg hq with e | ⟨r, e, -⟩ <;> rw [e] <;> exact nofun
  · have hn' : (1 : Rat) ≤ -n := by exact_mod_cast (by omega : 1 ≤ -n)
    have hq : (n : Rat) * 2 ^ (-1074 : Int) < 0 :=
      mul_neg_of_neg_of_pos (by exact_mod_cast hn) hleast
    have hne : Binary64.roundNonneg (-(n * 2 ^ (-1074 : Int))) ≠ finite 0 := by
      apply roundNonneg_ne_zero
      rw [← neg_mul]
      exact le_mul_of_one_le_left hleast.le hn'
    unfold Binary64.round
    rw [if_pos hq]
    generalize Binary64.roundNonneg _ = x at hne
    intro e
    cases x with
    | nan => cases e
    | infinite s => cases e
    | minusZero => cases e
    | finite r =>
      rw [Binary64.neg_finite] at e
      split at e
      · next hr => exact hne (congrArg finite hr)
      · cases e

theorem add_ne_minusZero {h x : Number} (hh : h.IsHealth) (hx : x.Is64) : h + x ≠ minusZero := by
  obtain ⟨p, rfl, -, -, hp⟩ := hh
  obtain ⟨m, rfl⟩ := exists_least hp
  have hround : ∀ q, Binary64.Representable q →
      Binary64.round (m * 2 ^ (-1074 : Int) + q) ≠ minusZero := by
    intro q hq
    obtain ⟨n, rfl⟩ := exists_least hq
    rw [← add_mul]
    exact_mod_cast round_ne_minusZero (m + n)
  cases x with
  | nan => exact nofun
  | infinite s => exact nofun
  | minusZero => exact hround 0 Binary64.representable_zero
  | finite q => exact hround q (hx q rfl)

theorem inUnit_clipUnit {x : Number} (hn : x ≠ nan) (hz : x ≠ minusZero) : x.clipUnit.InUnit := by
  cases x with
  | nan => exact absurd rfl hn
  | infinite s => cases s <;> exact ⟨_, rfl, by norm_num, by norm_num⟩
  | minusZero => exact absurd rfl hz
  | finite q =>
    rw [clipUnit_finite]
    exact ⟨_, rfl, le_min (le_max_right _ _) zero_le_one, min_le_right _ _⟩

theorem is64_total (xs : List Number) : (total xs).Is64 := by
  induction xs using List.reverseRecOn with
  | nil => exact is64_zero
  | append_singleton xs x =>
    unfold total
    rw [List.foldl_append]
    exact is64_add _ _

end Number

/-! ## the next health -/

def Limits.Is64 (l : Limits) : Prop :=
  (∀ y, l.maxStep = .real y → y.Is64) ∧ ∀ y, l.recoveryStep = .real y → y.Is64

theorem Value.is64_operand {v : Value} (hv : ∀ y, v = .real y → y.Is64) {op : String} {x : Number}
    (h : v.operand op = .ok x) : x.Is64 := by
  cases v with
  | flag b =>
    cases h
    cases b
    · exact Number.is64_zero
    · exact Number.is64_one
  | whole n =>
    have hw : (if (Binary64.round n).isFinite then Except.ok (Binary64.round n)
        else .error Fault.tooLarge) = .ok x := h
    split at hw
    · cases hw
      exact Number.is64_round n
    · cases hw
  | real y =>
    cases h
    exact hv x rfl
  | _ => cases h

theorem Value.smaller_cases {a b v : Value} (h : a.smaller b = .ok v) : v = a ∨ v = b := by
  unfold Value.smaller at h
  split at h
  · cases h
    split
    · exact .inr rfl
    · exact .inl rfl
  · cases h

section
variable {l : Limits} (h64 : l.Is64)
include h64

theorem is64_change {ps : List (String × Number)} {x : Number} (h : l.change ps = .ok x) :
    x.Is64 := by
  unfold Limits.change at h
  split at h
  · obtain ⟨v, hv, h⟩ := ok_of_bind h
    refine Value.is64_operand (fun y hy => ?_) h
    rcases Value.smaller_cases hv with rfl | rfl
    · exact h64.2 y hy
    · exact h64.1 y hy
  · obtain ⟨v, hv, h⟩ := ok_of_bind h
    obtain ⟨z, hz, h⟩ := ok_of_bind h
    cases h
    refine (Value.is64_operand (fun y hy => ?_) hz).neg
    rcases Value.smaller_cases hv with rfl | rfl
    · cases hy
      exact Number.is64_total _
    · exact h64.1 y hy

/-- **An organ that feels a reading gets the next health, as it was calculated.** -/
theorem feel_exact (hl : l.Stepped) {t : Topology} {k : OrganKind} {o : Organ}
    (ho : t.organ? k = some o) (hh : o.health.IsHealth) {r : Reading}
    {ps : List (String × Number)} (hps : r.penalties l k = .ok ps) :
    ∃ x, l.next k r o.health = .ok x ∧ x.IsHealth ∧
      t.feel l k r = .ok (t.replace { o with health := x }, Topology.changeOf o x) := by
  obtain ⟨y, hy, hyn⟩ := change_eq hl (Reading.isNonneg_penalties hps)
  have hnext : l.next k r o.health = .ok (o.health + y).clipUnit := by
    unfold Limits.next
    rw [hps]
    show (l.change ps >>= _) = _
    rw [hy]
    rfl
  have hsum : o.health + y ≠ .nan := by
    obtain ⟨q, hq, -, -, -⟩ := hh
    rw [hq]
    exact Number.add_ne_nan hyn
  have hunit := Number.inUnit_clipUnit hsum (Number.add_ne_minusZero hh (is64_change h64 hy))
  refine ⟨_, hnext, ?_, ?_⟩
  · rw [← Number.toUnit_eq_self hunit]
    exact (Number.is64_add _ _).clipUnit.isHealth_toUnit
  · unfold Topology.feel
    rw [Topology.organ_eq ho]
    show (l.next k r o.health >>= t.setHealth k) = _
    rw [hnext]
    show t.setHealth k _ = _
    have hwrite := Topology.setHealth_eq ho hunit.isFinite
    unfold Topology.changeOf at hwrite ⊢
    rwa [Number.toUnit_eq_self hunit] at hwrite ⊢

end
end Organism
