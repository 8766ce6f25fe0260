import Organism.Number.Decimal
import Organism.Proofs.Number.Rounding

/-!
# Decimals read back

The exact value of a decimal decides what it is read as:

* `roundDecimal_eq_round`   the short cuts for very large and very small decimals round like all
                            others;
* `value_trim`, `value_ofDyadic`   the two ways of choosing digits keep the value;
* `number_ofRat`            **the numeral of a 64-bit number reads back as that number**.
-/

namespace Organism

namespace Decimal

def value (d : Decimal) : Rat := d.coefficient * (10 : Rat) ^ d.exponent

theorem lt_pow_digits (n : Nat) : n < 10 ^ (Nat.toDigits 10 n).length :=
  (Nat.length_toDigits_le_iff (by decide) Nat.length_toDigits_pos).mp le_rfl

theorem pow_digits_le {n : Nat} (h : n ≠ 0) : 10 ^ ((Nat.toDigits 10 n).length - 1) ≤ n := by
  have hpos : 0 < (Nat.toDigits 10 n).length := Nat.length_toDigits_pos
  by_cases h1 : (Nat.toDigits 10 n).length - 1 = 0
  · rw [h1, pow_zero]
    omega
  · by_contra hlt
    have := (Nat.length_toDigits_le_iff (by decide) (Nat.pos_of_ne_zero h1)).mpr (not_le.mp hlt)
    omega

theorem value_bounds {c : Nat} (h : c ≠ 0) (e : Int) :
    (10 : Rat) ^ ((Nat.toDigits 10 c).length + e - 1) ≤ c * (10 : Rat) ^ e ∧
      c * (10 : Rat) ^ e < (10 : Rat) ^ ((Nat.toDigits 10 c).length + e) := by
  have hpos : 0 < (Nat.toDigits 10 c).length := Nat.length_toDigits_pos
  have h1 : (10 : Rat) ^ ((Nat.toDigits 10 c).length - 1) ≤ c := by exact_mod_cast pow_digits_le h
  have h2 : (c : Rat) < 10 ^ (Nat.toDigits 10 c).length := by exact_mod_cast lt_pow_digits c
  constructor
  · have e1 : ((Nat.toDigits 10 c).length : Int) + e - 1
        = (((Nat.toDigits 10 c).length - 1 : Nat) : Int) + e := by omega
    rw [e1, zpow_add₀ (by norm_num), zpow_natCast]
    exact mul_le_mul_of_nonneg_right h1 (by positivity)
  · rw [zpow_add₀ (by norm_num), zpow_natCast]
    exact mul_lt_mul_of_pos_right h2 (by positivity)

/-! ## short cuts -/

theorem two_zpow_le_ten_zpow : (2 : Rat) ^ (1200 : Int) ≤ (10 : Rat) ^ (400 : Int) := by
  rw [show (1200 : Int) = 3 * 400 by norm_num, zpow_mul]
  exact zpow_le_zpow_left₀ (by norm_num) (by norm_num) (by norm_num)

theorem limit_le_of_large {q : Rat} (h : (10 : Rat) ^ (400 : Int) ≤ q) : Binary64.limit ≤ q := by
  rw [Binary64.limit_eq]
  calc (2 : Rat) ^ (1024 : Int) ≤ 2 ^ (1200 : Int) := zpow_le_zpow_right₀ (by norm_num) (by norm_num)
    _ ≤ (10 : Rat) ^ (400 : Int) := two_zpow_le_ten_zpow
    _ ≤ q := h

theorem tiny_of_small {q : Rat} (h : q < (10 : Rat) ^ (-400 : Int)) :
    q < (2 : Rat) ^ (-1075 : Int) := by
  refine h.trans_le ?_
  rw [zpow_neg, zpow_neg]
  apply inv_anti₀ (by positivity)
  calc (2 : Rat) ^ (1075 : Int) ≤ 2 ^ (1200 : Int) := zpow_le_zpow_right₀ (by norm_num) (by norm_num)
    _ ≤ (10 : Rat) ^ (400 : Int) := two_zpow_le_ten_zpow

/-- **The bounds on decimals cost nothing**: a decimal rounds like its value. -/
theorem roundDecimal_eq_round (c : Nat) (e : Int) :
    Binary64.roundDecimal c e = Binary64.round (c * (10 : Rat) ^ e) := by
  have h0 : ¬ (c : Rat) * (10 : Rat) ^ e < 0 := not_lt.mpr (by positivity)
  unfold Binary64.roundDecimal
  dsimp only
  split
  · next hc =>
    rw [hc, Nat.cast_zero, zero_mul]
    rfl
  · next hc =>
    obtain ⟨hlo, hhi⟩ := value_bounds hc e
    split
    · next ht =>
      have hle : (10 : Rat) ^ (400 : Int) ≤ c * (10 : Rat) ^ e :=
        le_trans (zpow_le_zpow_right₀ (by norm_num) (by omega)) hlo
      rw [Binary64.round, if_neg h0, Binary64.roundNonneg_infinite (limit_le_of_large hle)]
    · split
      · next ht =>
        have hlt : c * (10 : Rat) ^ e < (10 : Rat) ^ (-400 : Int) :=
          hhi.trans_le (zpow_le_zpow_right₀ (by norm_num) (by omega))
        rw [Binary64.round, if_neg h0,
          Binary64.roundNonneg_tiny (not_lt.mp h0) (tiny_of_small hlt)]
        rfl
      · rfl

theorem number_eq_round (d : Decimal) :
    @number .binary64 d = Binary64.round d.value := roundDecimal_eq_round _ _

theorem number_congr {c d : Decimal} (h : c.value = d.value) :
    @number .binary64 c = @number .binary64 d := by
  rw [number_eq_round, number_eq_round, h]

/-! ## digits that keep the value -/

theorem value_trim (d : Decimal) : d.trim.value = d.value := by
  induction d using trim.induct with
  | case1 d h ih =>
    rw [trim, dif_pos h, ih]
    have hc : ((d.coefficient / 10 : Nat) : Rat) * 10 = d.coefficient := by
      exact_mod_cast Nat.div_mul_cancel (Nat.dvd_of_mod_eq_zero h.2)
    simp only [value]
    rw [zpow_add₀ (by norm_num), zpow_one, ← hc]
    ring
  | case2 d h => rw [trim, dif_neg h]

theorem value_ofDyadic {q : Rat} (h : 0 ≤ q) {k : Nat} (hk : q.den = 2 ^ k) :
    (ofDyadic q).value = q := by
  have hn : ((q.num.natAbs : Nat) : Rat) = q.num := by
    have : ((q.num.natAbs : Int) : Rat) = (q.num : Rat) := by
      rw [Int.natAbs_of_nonneg (Rat.num_nonneg.mpr h)]
    rwa [Int.cast_natCast] at this
  have hd : (q.num : Rat) / 2 ^ k = q := by
    have := Rat.num_div_den q
    rwa [hk, Nat.cast_pow, Nat.cast_ofNat] at this
  simp only [ofDyadic, value]
  rw [hk, Nat.log2_two_pow, zpow_neg, zpow_natCast]
  push_cast
  rw [hn, ← div_eq_mul_inv]
  conv_rhs => rw [← hd]
  rw [show (10 : Rat) = 5 * 2 by norm_num, mul_pow, Nat.pow_eq, Nat.cast_pow, Nat.cast_ofNat,
    mul_comm ((5 : Rat) ^ k), mul_div_mul_right _ _ (by positivity)]

theorem den_of_representable {q : Rat} (hr : Binary64.Representable q) : ∃ k, q.den = 2 ^ k := by
  obtain ⟨k, e, -, -, -, rfl⟩ := hr
  have hdvd : ((k : Rat) * (2 : Rat) ^ e).den ∣ 2 ^ (-e).toNat := by
    rcases le_or_gt 0 e with he | he
    · have h1 : (k : Rat) * (2 : Rat) ^ e = ((k * 2 ^ e.toNat : Int) : Rat) := by
        push_cast
        rw [← zpow_natCast, Int.toNat_of_nonneg he]
      rw [h1, Rat.den_intCast]
      exact one_dvd _
    · have h1 : (k : Rat) * (2 : Rat) ^ e = Rat.divInt k ((2 ^ (-e).toNat : Nat) : Int) := by
        rw [Rat.divInt_eq_div]
        push_cast
        rw [← zpow_natCast, Int.toNat_of_nonneg (by omega), zpow_neg, div_inv_eq_mul]
      rw [h1]
      exact Int.natCast_dvd_natCast.mp (Rat.den_dvd k _)
  obtain ⟨j, -, hj⟩ := (Nat.dvd_prime_pow Nat.prime_two).mp hdvd
  exact ⟨j, hj⟩

/-- **The numeral of a 64-bit number reads back as that number**, whether the fewest digits were
found or all of them written. -/
theorem number_ofRat {q : Rat} (h : 0 ≤ q) (hr : Binary64.Representable q) :
    @number .binary64 (@ofRat .binary64 q) = .finite q := by
  unfold ofRat
  rw [number_congr (value_trim _)]
  cases hs : @shortest? .binary64 q with
  | some d => exact @shortest?_number .binary64 q d hs
  | none =>
    obtain ⟨k, hk⟩ := den_of_representable hr
    show @number .binary64 (ofDyadic q) = _
    rw [number_eq_round, value_ofDyadic h hk, Binary64.round_representable hr]

end Decimal
end Organism
