import Organism.Number.Basic
import Mathlib.Data.Rat.Floor
import Mathlib.Tactic

/-!
# What rounding to 64 bits does

`Binary64.Representable` says which values are 64-bit numbers: at most 53 binary digits, shifted by
a power of two within bounds.  Against it stand three facts on `Binary64.round`:

* `round_representable`    a 64-bit number is its own rounding;
* `representable_round`    what a rounding gives is a 64-bit number;
* `roundNonneg_finite`     a value less than half a unit above the largest number stays finite,
                           `roundNonneg_infinite` one from `2 ^ 1024` on does not, and
                           `roundNonneg_tiny` one below half the smallest number becomes zero.
-/

namespace Organism

/-! ## nearest whole numbers -/

theorem roundEven_intCast (n : Int) : roundEven (n : Rat) = n := by
  have h : (n : Rat) - ((n : Rat).floor : Rat) = 0 := by rw [Rat.floor_intCast, sub_self]
  simp [roundEven, Rat.floor_intCast]

/-- the two candidates, and the side on which each is chosen -/
theorem roundEven_cases (q : Rat) :
    (roundEven q = q.floor ∧ q - q.floor ≤ 1 / 2) ∨
      (roundEven q = q.floor + 1 ∧ 1 / 2 ≤ q - q.floor) := by
  unfold roundEven
  dsimp only
  split
  · next h => exact .inl ⟨rfl, h.le⟩
  · next h =>
    split
    · next h' => exact .inr ⟨rfl, h'.le⟩
    · next h' =>
      rcases Int.emod_two_eq_zero_or_one q.floor with e | e <;> rw [e]
      · exact .inl ⟨by ring, not_lt.mp h'⟩
      · exact .inr ⟨rfl, not_lt.mp h⟩

theorem le_roundEven {q : Rat} {n : Int} (h : (n : Rat) ≤ q) : n ≤ roundEven q := by
  have hf : n ≤ q.floor := Rat.le_floor_iff.mpr h
  rcases roundEven_cases q with ⟨e, -⟩ | ⟨e, -⟩ <;> omega

theorem roundEven_le {q : Rat} {n : Int} (h : q ≤ (n : Rat)) : roundEven q ≤ n := by
  rcases roundEven_cases q with ⟨e, -⟩ | ⟨e, hq⟩
  · have : (q.floor : Rat) ≤ n := (Rat.floor_le q).trans h
    rw [e]
    exact_mod_cast this
  · have : (q.floor : Rat) < n := by linarith
    have : q.floor < n := by exact_mod_cast this
    omega

theorem roundEven_le_of_lt_half {q : Rat} {n : Int} (h : q < n + 1 / 2) : roundEven q ≤ n := by
  rcases roundEven_cases q with ⟨e, -⟩ | ⟨e, hq⟩
  · have : (q.floor : Rat) < n + 1 := by linarith [Rat.floor_le q]
    have : q.floor < n + 1 := by exact_mod_cast this
    omega
  · have : (q.floor : Rat) < n := by linarith
    have : q.floor < n := by exact_mod_cast this
    omega

theorem roundEven_nonneg {q : Rat} (h : 0 ≤ q) : 0 ≤ roundEven q :=
  le_roundEven (by exact_mod_cast h)

/-! ## binary logarithms -/

/-- the leading powers of two of a quotient are at most one power off -/
theorem log2_quotient {a b : Nat} (ha : a ≠ 0) (hb : b ≠ 0) :
    (2 : Rat) ^ ((a.log2 : Int) - b.log2 - 1) ≤ a / b ∧
      (a / b : Rat) < (2 : Rat) ^ ((a.log2 : Int) - b.log2 + 1) := by
  have hb' : (0 : Rat) < b := by exact_mod_cast Nat.pos_of_ne_zero hb
  have a1 : (2 : Rat) ^ a.log2 ≤ a := by exact_mod_cast Nat.log2_self_le ha
  have a2 : (a : Rat) < 2 ^ (a.log2 + 1) := by exact_mod_cast Nat.lt_log2_self
  have b1 : (2 : Rat) ^ b.log2 ≤ b := by exact_mod_cast Nat.log2_self_le hb
  have b2 : (b : Rat) < 2 ^ (b.log2 + 1) := by exact_mod_cast Nat.lt_log2_self
  have e1 : (2 : Rat) ^ ((a.log2 : Int) - b.log2 - 1) = 2 ^ a.log2 / 2 ^ (b.log2 + 1) := by
    rw [sub_sub, zpow_sub₀ (by norm_num)]
    norm_cast
  have e2 : (2 : Rat) ^ ((a.log2 : Int) - b.log2 + 1) = 2 ^ (a.log2 + 1) / 2 ^ b.log2 := by
    rw [sub_add_eq_add_sub, zpow_sub₀ (by norm_num)]
    norm_cast
  constructor
  · rw [e1, div_le_div_iff₀ (by positivity) hb']
    exact mul_le_mul a1 b2.le hb'.le (by positivity)
  · rw [e2, div_lt_div_iff₀ hb' (by positivity)]
    exact mul_lt_mul a2 b1 (by positivity) (by positivity)

theorem natAbs_num_div_den {q : Rat} (h : 0 < q) : (q.num.natAbs : Rat) / q.den = q := by
  have hn : ((q.num.natAbs : Int) : Rat) = (q.num : Rat) := by
    rw [Int.natAbs_of_nonneg (Rat.num_pos.mpr h).le]
  rw [← Int.cast_natCast, hn, Rat.num_div_den]

theorem log2_bounds {q : Rat} (h : 0 < q) :
    (2 : Rat) ^ log2 q ≤ q ∧ q < (2 : Rat) ^ (log2 q + 1) := by
  have hnum : q.num.natAbs ≠ 0 := by
    have := Rat.num_pos.mpr h
    omega
  have hq := log2_quotient hnum q.den_nz
  rw [natAbs_num_div_den h] at hq
  unfold log2
  dsimp only
  split
  · next hlt => exact ⟨hq.1, by rwa [sub_add_cancel]⟩
  · next hge => exact ⟨not_lt.mp hge, hq.2⟩

theorem log2_lt_of_lt {q : Rat} (h : 0 < q) {n : Int} (hq : q < (2 : Rat) ^ n) : log2 q < n :=
  (zpow_lt_zpow_iff_right₀ (by norm_num)).mp ((log2_bounds h).1.trans_lt hq)

theorem le_log2_of_le {q : Rat} (h : 0 < q) {n : Int} (hq : (2 : Rat) ^ n ≤ q) : n ≤ log2 q := by
  have := (zpow_lt_zpow_iff_right₀ (by norm_num)).mp (hq.trans_lt (log2_bounds h).2)
  omega

namespace Binary64

/-! ## 64-bit numbers -/

/-- the value is a 64-bit binary number: at most 53 binary digits, and their place -/
def Representable (q : Rat) : Prop :=
  ∃ k e : Int, k.natAbs < 2 ^ 53 ∧ -1074 ≤ e ∧ e ≤ 971 ∧ q = k * (2 : Rat) ^ e

theorem representable_zero : Representable 0 := ⟨0, 0, by decide, by decide, by decide, by simp⟩

theorem representable_one : Representable 1 := ⟨1, 0, by decide, by decide, by decide, by simp⟩

theorem Representable.neg {q : Rat} (h : Representable q) : Representable (-q) := by
  obtain ⟨k, e, hk, he, he', rfl⟩ := h
  exact ⟨-k, e, by rwa [Int.natAbs_neg], he, he', by push_cast; ring⟩

theorem limit_eq : limit = (2 : Rat) ^ (1024 : Int) := by
  simp only [limit, Nat.pow_eq, Nat.cast_pow, Nat.cast_ofNat]
  exact (zpow_natCast 2 1024).symm

theorem Representable.lt_limit {q : Rat} (h : Representable q) : |q| < limit := by
  obtain ⟨k, e, hk, he, he', rfl⟩ := h
  have h1 : |(k : Rat)| < 2 ^ (53 : Int) := by
    rw [← Int.cast_abs, Int.abs_eq_natAbs]
    exact_mod_cast hk
  have h2 : (2 : Rat) ^ e ≤ 2 ^ (971 : Int) := zpow_le_zpow_right₀ (by norm_num) he'
  rw [abs_mul, abs_of_pos (by positivity : (0 : Rat) < 2 ^ e), limit_eq]
  calc |(k : Rat)| * 2 ^ e < 2 ^ (53 : Int) * 2 ^ e := mul_lt_mul_of_pos_right h1 (by positivity)
    _ ≤ 2 ^ (53 : Int) * 2 ^ (971 : Int) := mul_le_mul_of_nonneg_left h2 (by positivity)
    _ = 2 ^ (1024 : Int) := by rw [← zpow_add₀ (by norm_num)]; norm_num

/-! ## the unit of a value -/

theorem unit_pos (q : Rat) : 0 < unit q := by
  unfold unit
  positivity

theorem unit_mul_div (q : Rat) : unit q * (q / unit q) = q :=
  mul_div_cancel₀ q (unit_pos q).ne'

theorem lt_unit {q : Rat} (h : 0 < q) : q / unit q < (2 : Rat) ^ (53 : Int) := by
  rw [div_lt_iff₀ (unit_pos q)]
  have h1 : (2 : Rat) ^ (log2 q - 52) ≤ unit q :=
    zpow_le_zpow_right₀ (by norm_num) (le_max_left _ _)
  calc q < (2 : Rat) ^ (log2 q + 1) := (log2_bounds h).2
    _ = 2 ^ (53 : Int) * 2 ^ (log2 q - 52) := by
      rw [← zpow_add₀ (by norm_num)]
      congr 1
      ring
    _ ≤ 2 ^ (53 : Int) * unit q := mul_le_mul_of_nonneg_left h1 (by positivity)

theorem roundEven_unit_le {q : Rat} (h : 0 < q) : roundEven (q / unit q) ≤ 2 ^ 53 :=
  roundEven_le (by exact_mod_cast (lt_unit h).le)

theorem unit_of_normal {q : Rat} (h : -1022 ≤ log2 q) : unit q = (2 : Rat) ^ (log2 q - 52) := by
  unfold unit
  rw [max_eq_left (by omega)]

theorem le_roundEven_unit {q : Rat} (h : 0 < q) (hn : -1022 ≤ log2 q) :
    2 ^ 52 ≤ roundEven (q / unit q) := by
  apply le_roundEven
  rw [unit_of_normal hn, le_div_iff₀ (by positivity)]
  refine le_trans (le_of_eq ?_) (log2_bounds h).1
  rw [show (((2 : Int) ^ 52 : Int) : Rat) = (2 : Rat) ^ (52 : Int) by norm_cast,
    ← zpow_add₀ (by norm_num)]
  congr 1
  ring

theorem Representable.div_unit {q : Rat} (h : 0 < q) (hr : Representable q) :
    ∃ n : Int, q / unit q = n := by
  obtain ⟨k, e, hk, he, -, hq⟩ := hr
  have hk' : (k : Rat) < 2 ^ (53 : Int) := by
    have : k < 2 ^ 53 := by omega
    exact_mod_cast this
  have hlog : log2 q < e + 53 := by
    apply log2_lt_of_lt h
    rw [hq, zpow_add₀ (by norm_num), mul_comm]
    exact mul_lt_mul_of_pos_left hk' (by positivity)
  obtain ⟨n, hn⟩ : ∃ n : Nat, e = max (log2 q - 52) (-1074) + n :=
    ⟨(e - max (log2 q - 52) (-1074)).toNat, by omega⟩
  refine ⟨k * 2 ^ n, ?_⟩
  rw [div_eq_iff (unit_pos q).ne']
  unfold unit
  generalize max (log2 q - 52) (-1074) = m at hn
  rw [hq, hn, zpow_add₀ (by norm_num)]
  push_cast
  rw [zpow_natCast]
  ring

/-! ## rounding -/

theorem neg_finite (q : Rat) :
    -Number.finite q = if q = 0 then .minusZero else .finite (-q) := rfl

theorem roundNonneg_of_pos {q : Rat} (h : 0 < q) :
    roundNonneg q =
      if limit ≤ unit q * roundEven (q / unit q) then .infinite false
      else .finite (unit q * roundEven (q / unit q)) := by
  unfold roundNonneg
  rw [if_neg h.ne']

theorem roundNonneg_representable {q : Rat} (h : 0 ≤ q) (hr : Representable q) :
    roundNonneg q = .finite q := by
  rcases h.eq_or_lt with rfl | h
  · rfl
  · obtain ⟨n, hn⟩ := hr.div_unit h
    have e : unit q * (roundEven (q / unit q) : Rat) = q := by
      rw [hn, roundEven_intCast, ← hn, unit_mul_div]
    have hl : ¬ limit ≤ q := by
      have := hr.lt_limit
      rw [abs_of_pos h] at this
      exact not_le.mpr this
    rw [roundNonneg_of_pos h, e, if_neg hl]

/-- **A 64-bit number is its own rounding**, but that a zero has lost its sign. -/
theorem round_representable {q : Rat} (hr : Representable q) : round q = .finite q := by
  unfold round
  split
  · next h =>
    have h' : 0 < -q := neg_pos.mpr h
    rw [roundNonneg_representable h'.le hr.neg, neg_finite, if_neg h'.ne', neg_neg]
  · next h => exact roundNonneg_representable (not_lt.mp h) hr

theorem representable_units {n m : Int} (h0 : 0 ≤ n) (hn : n ≤ 2 ^ 53) (hm : -1074 ≤ m)
    (hm' : -1074 < m → 2 ^ 52 ≤ n) (hl : (2 : Rat) ^ m * n < limit) :
    Representable ((2 : Rat) ^ m * n) := by
  have exponent : ∀ j : Nat, (2 : Int) ^ j ≤ n → m + j < 1024 := by
    intro j hj
    have hj' : (2 : Rat) ^ (j : Int) ≤ n := by
      rw [zpow_natCast]
      exact_mod_cast hj
    have h1 : (2 : Rat) ^ (m + j) ≤ 2 ^ m * n := by
      rw [zpow_add₀ (by norm_num)]
      exact mul_le_mul_of_nonneg_left hj' (by positivity)
    rw [limit_eq] at hl
    exact (zpow_lt_zpow_iff_right₀ (by norm_num)).mp (h1.trans_lt hl)
  rcases hn.lt_or_eq with hlt | rfl
  · refine ⟨n, m, by omega, hm, ?_, mul_comm _ _⟩
    by_cases hm1 : -1074 < m
    · have := exponent 52 (hm' hm1)
      omega
    · omega
  · have := exponent 53 le_rfl
    refine ⟨2 ^ 52, m + 1, by decide, by omega, by omega, ?_⟩
    rw [zpow_add₀ (by norm_num)]
    push_cast
    ring

/-- whatever is rounded, the result is an infinity or a 64-bit number that is not negative -/
theorem roundNonneg_cases {q : Rat} (h : 0 ≤ q) :
    roundNonneg q = .infinite false ∨
      ∃ r, roundNonneg q = .finite r ∧ 0 ≤ r ∧ Representable r := by
  rcases h.eq_or_lt with rfl | h
  · exact .inr ⟨0, rfl, le_rfl, representable_zero⟩
  rw [roundNonneg_of_pos h]
  split
  · exact .inl rfl
  · next hl =>
    have hn : 0 ≤ roundEven (q / unit q) := roundEven_nonneg (div_nonneg h.le (unit_pos q).le)
    have hn' : (0 : Rat) ≤ roundEven (q / unit q) := by exact_mod_cast hn
    refine .inr ⟨_, rfl, mul_nonneg (unit_pos q).le hn', ?_⟩
    refine representable_units hn (roundEven_unit_le h) (le_max_right _ _) (fun hm => ?_)
      (not_le.mp hl)
    exact le_roundEven_unit h (by omega)

/-- **What a rounding gives is a 64-bit number**, if it is finite at all. -/
theorem representable_round {q r : Rat} (h : round q = .finite r) : Representable r := by
  unfold round at h
  split at h
  · next hq =>
    rcases roundNonneg_cases (neg_pos.mpr hq).le with e | ⟨s, e, -, hs⟩
    · rw [e] at h
      cases h
    · rw [e, neg_finite] at h
      split at h
      · cases h
      · cases h
        exact hs.neg
  · next hq =>
    rcases roundNonneg_cases (not_lt.mp hq) with e | ⟨s, e, -, hs⟩
    · rw [e] at h
      cases h
    · rw [e] at h
      cases h
      exact hs

/-! ## where rounding leaves the numbers -/

theorem two_zpow_1024 : (2 : Rat) ^ (1024 : Int) = 2 ^ (971 : Int) * 2 ^ (53 : Int) := by
  rw [← zpow_add₀ (by norm_num)]
  norm_num

theorem roundEven_lt_of_small {q : Rat} (h : 0 < q) (hl : log2 q < 1023) :
    unit q * roundEven (q / unit q) < (2 : Rat) ^ (1024 : Int) := by
  have hu : unit q ≤ (2 : Rat) ^ (970 : Int) := by
    apply zpow_le_zpow_right₀ (by norm_num)
    omega
  have hr : (roundEven (q / unit q) : Rat) ≤ 2 ^ (53 : Int) := by
    exact_mod_cast roundEven_unit_le h
  calc unit q * roundEven (q / unit q)
      ≤ unit q * 2 ^ (53 : Int) := mul_le_mul_of_nonneg_left hr (unit_pos q).le
    _ ≤ 2 ^ (970 : Int) * 2 ^ (53 : Int) := mul_le_mul_of_nonneg_right hu (by positivity)
    _ = 2 ^ (1023 : Int) := by
      rw [← zpow_add₀ (by norm_num)]
      norm_num
    _ < 2 ^ (1024 : Int) := zpow_lt_zpow_right₀ (by norm_num) (by norm_num)

theorem roundEven_lt_of_large {q : Rat} (hl : log2 q = 1023)
    (hq : q < ((2 : Rat) ^ (53 : Int) - 1 / 2) * 2 ^ (971 : Int)) :
    unit q * roundEven (q / unit q) < (2 : Rat) ^ (1024 : Int) := by
  have hu : unit q = (2 : Rat) ^ (971 : Int) := by
    rw [unit_of_normal (by omega), hl]
    norm_num
  have hr : roundEven (q / unit q) ≤ 2 ^ 53 - 1 := by
    apply roundEven_le_of_lt_half
    have e : (((2 : Int) ^ 53 - 1 : Int) : Rat) + 1 / 2 = 2 ^ (53 : Int) - 1 / 2 := by
      norm_num
    rwa [hu, div_lt_iff₀ (by positivity), e]
  have hr' : (roundEven (q / unit q) : Rat) ≤ 2 ^ (53 : Int) - 1 := by exact_mod_cast hr
  rw [hu] at hr' ⊢
  rw [two_zpow_1024]
  exact mul_lt_mul_of_pos_left (by linarith) (by positivity)

theorem roundNonneg_finite {q : Rat} (h : 0 ≤ q)
    (hq : q < ((2 : Rat) ^ (53 : Int) - 1 / 2) * 2 ^ (971 : Int)) :
    ∃ r, roundNonneg q = .finite r ∧ 0 ≤ r ∧ Representable r := by
  refine (roundNonneg_cases h).resolve_left fun e => ?_
  rcases h.eq_or_lt with rfl | h
  · cases e
  rw [roundNonneg_of_pos h, limit_eq] at e
  have hlog : log2 q < 1024 := by
    apply log2_lt_of_lt h
    refine hq.trans_le ?_
    rw [two_zpow_1024, mul_comm]
    exact mul_le_mul_of_nonneg_left (by linarith) (by positivity)
  have below : unit q * roundEven (q / unit q) < (2 : Rat) ^ (1024 : Int) := by
    by_cases hl : log2 q = 1023
    · exact roundEven_lt_of_large hl hq
    · exact roundEven_lt_of_small h (by omega)
  rw [if_neg (not_le.mpr below)] at e
  cases e

theorem roundNonneg_infinite {q : Rat} (hq : limit ≤ q) : roundNonneg q = .infinite false := by
  have h : 0 < q := by
    rw [limit_eq] at hq
    exact lt_of_lt_of_le (by positivity) hq
  have hlog : 1024 ≤ log2 q := by
    apply le_log2_of_le h
    rwa [← limit_eq]
  have hr : (2 : Rat) ^ (52 : Int) ≤ roundEven (q / unit q) := by
    exact_mod_cast le_roundEven_unit h (by omega)
  have above : limit ≤ unit q * roundEven (q / unit q) := by
    calc limit = (2 : Rat) ^ (1024 : Int) := limit_eq
      _ ≤ 2 ^ log2 q := zpow_le_zpow_right₀ (by norm_num) hlog
      _ = unit q * 2 ^ (52 : Int) := by
        rw [unit_of_normal (by omega), ← zpow_add₀ (by norm_num), sub_add_cancel]
      _ ≤ unit q * roundEven (q / unit q) := mul_le_mul_of_nonneg_left hr (unit_pos q).le
  rw [roundNonneg_of_pos h, if_pos above]

theorem roundNonneg_tiny {q : Rat} (h : 0 ≤ q) (hq : q < (2 : Rat) ^ (-1075 : Int)) :
    roundNonneg q = .finite 0 := by
  rcases h.eq_or_lt with rfl | h
  · rfl
  have hlog : log2 q < -1075 := log2_lt_of_lt h hq
  have hu : unit q = (2 : Rat) ^ (-1074 : Int) := by
    unfold unit
    rw [max_eq_right (by omega)]
  have hr : roundEven (q / unit q) ≤ 0 := by
    apply roundEven_le_of_lt_half
    rw [hu, div_lt_iff₀ (by positivity)]
    refine hq.trans_eq ?_
    rw [show (-1075 : Int) = -1 + -1074 by norm_num, zpow_add₀ (by norm_num)]
    norm_num
  have hr0 : roundEven (q / unit q) = 0 :=
    le_antisymm hr (roundEven_nonneg (div_nonneg h.le (unit_pos q).le))
  have hl : ¬ limit ≤ 0 := by
    rw [limit_eq, not_le]
    positivity
  rw [roundNonneg_of_pos h, hr0, Int.cast_zero, mul_zero, if_neg hl]

end Binary64
end Organism
