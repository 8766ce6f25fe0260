import Organism.Text.Utf8
import Mathlib.Tactic.IntervalCases

/-!
# Bytes that come back

* `open?_two`, `open?_three`, `open?_four`   the state after the first byte of a character;
* `decodeFrom_continue`, `decodeFrom_close`  one more byte of a character;
* `decode_encode`                            **the bytes of a text are read as the text**.
-/

namespace Organism.Utf8

theorem toNat_toUInt8 {n : Nat} (h : n < 256) : n.toUInt8.toNat = n :=
  UInt8.toNat_ofNat_of_lt' h

/-! ## first bytes -/

theorem open?_two {k : Nat} (h1 : 2 ≤ k) (h2 : k < 32) (i : Nat) :
    Partial.open? (0xC0 + k).toUInt8 i
      = some ⟨(0xC0 + k).toUInt8, i, 1, 0x80, 0xBF, k⟩ := by
  interval_cases k <;> rfl

theorem open?_three {k : Nat} (h : k < 16) (i : Nat) :
    Partial.open? (0xE0 + k).toUInt8 i
      = some ⟨(0xE0 + k).toUInt8, i, 2, if k = 0 then 0xA0 else 0x80,
          if k = 0xD then 0x9F else 0xBF, k⟩ := by
  interval_cases k <;> rfl

theorem open?_four {k : Nat} (h : k ≤ 4) (i : Nat) :
    Partial.open? (0xF0 + k).toUInt8 i
      = some ⟨(0xF0 + k).toUInt8, i, 3, if k = 0 then 0x90 else 0x80,
          if k = 4 then 0x8F else 0xBF, k⟩ := by
  interval_cases k <;> rfl

theorem decodeFrom_open {b : UInt8} {p : Partial} {i : Nat} {bs : List UInt8}
    (hb : 0x80 ≤ b.toNat) (hp : Partial.open? b i = some p) :
    decodeFrom i none (b :: bs) = decodeFrom (i + 1) (some p) bs := by
  have h : ¬ b < 0x80 := by
    rw [UInt8.lt_iff_toNat_lt]
    exact not_lt.mpr hb
  rw [decodeFrom, if_neg h, hp]

/-! ## further bytes -/

section
variable {p : Partial} {k i : Nat} {bs : List UInt8}

theorem inRange (hk : k < 64) (hl : p.low.toNat ≤ 0x80 + k) (hh : 0x80 + k ≤ p.high.toNat) :
    (p.low ≤ (0x80 + k).toUInt8 && (0x80 + k).toUInt8 ≤ p.high) = true := by
  rw [Bool.and_eq_true, decide_eq_true_eq, decide_eq_true_eq, UInt8.le_iff_toNat_le,
    UInt8.le_iff_toNat_le, toNat_toUInt8 (by omega)]
  exact ⟨hl, hh⟩

theorem decodeFrom_close (hk : k < 64) (hl : p.low.toNat ≤ 0x80 + k)
    (hh : 0x80 + k ≤ p.high.toNat) (ho : p.owed = 1) :
    decodeFrom i (some p) ((0x80 + k).toUInt8 :: bs)
      = (decodeFrom (i + 1) none bs).map (Char.ofNat (p.code * 64 + k) :: ·) := by
  rw [decodeFrom, if_pos (inRange hk hl hh)]
  dsimp only
  rw [if_pos (le_of_eq ho), toNat_toUInt8 (by omega), Nat.add_sub_cancel_left]

theorem decodeFrom_continue (hk : k < 64) (hl : p.low.toNat ≤ 0x80 + k)
    (hh : 0x80 + k ≤ p.high.toNat) (ho : 1 < p.owed) :
    decodeFrom i (some p) ((0x80 + k).toUInt8 :: bs)
      = decodeFrom (i + 1)
          (some ⟨p.lead, p.first, p.owed - 1, 0x80, 0xBF, p.code * 64 + k⟩) bs := by
  rw [decodeFrom, if_pos (inRange hk hl hh)]
  dsimp only
  rw [if_neg (not_le.mpr ho), toNat_toUInt8 (by omega), Nat.add_sub_cancel_left]

end

/-! ## characters -/

section
variable {n i : Nat} {bs : List UInt8}

theorem decodeFrom_one (h : n < 0x80) :
    decodeFrom i none (n.toUInt8 :: bs) = (decodeFrom (i + 1) none bs).map (Char.ofNat n :: ·) := by
  have hb : n.toUInt8 < 0x80 := by
    rw [UInt8.lt_iff_toNat_lt, toNat_toUInt8 (by omega)]
    exact h
  rw [decodeFrom, if_pos hb, toNat_toUInt8 (by omega)]

theorem decodeFrom_two (h1 : 0x80 ≤ n) (h2 : n < 0x800) :
    decodeFrom i none ((0xC0 + n / 64).toUInt8 :: (0x80 + n % 64).toUInt8 :: bs)
      = (decodeFrom (i + 2) none bs).map (Char.ofNat n :: ·) := by
  have hn : n / 64 * 64 + n % 64 = n := by omega
  have hr : n % 64 < 64 := by omega
  rw [decodeFrom_open (by rw [toNat_toUInt8] <;> omega) (open?_two (by omega) (by omega) i),
    decodeFrom_close hr (Nat.le_add_right ..) (by show 0x80 + n % 64 ≤ 0xBF; omega) rfl]
  dsimp only
  rw [hn]

/-- the second byte of three has a range of its own after the first and the fourteenth lead -/
theorem decodeFrom_three (h1 : 0x800 ≤ n) (h2 : n < 0x10000) (hv : n < 0xD800 ∨ 0xDFFF < n) :
    decodeFrom i none ((0xE0 + n / 4096).toUInt8 :: (0x80 + n / 64 % 64).toUInt8
        :: (0x80 + n % 64).toUInt8 :: bs)
      = (decodeFrom (i + 3) none bs).map (Char.ofNat n :: ·) := by
  have hn : (n / 4096 * 64 + n / 64 % 64) * 64 + n % 64 = n := by omega
  have hm : n / 64 % 64 < 64 := by omega
  have hr : n % 64 < 64 := by omega
  rw [decodeFrom_open (by rw [toNat_toUInt8] <;> omega) (open?_three (by omega) i),
    decodeFrom_continue hm ?low ?high Nat.one_lt_two,
    decodeFrom_close hr (Nat.le_add_right ..) (by show 0x80 + n % 64 ≤ 0xBF; omega) rfl]
  · dsimp only
    rw [hn]
  case low =>
    dsimp only
    split
    · show 0xA0 ≤ _
      omega
    · exact Nat.le_add_right ..
  case high =>
    dsimp only
    split
    · show _ ≤ 0x9F
      omega
    · show _ ≤ 0xBF
      omega

theorem decodeFrom_four (h1 : 0x10000 ≤ n) (h2 : n < 0x110000) :
    decodeFrom i none ((0xF0 + n / 262144).toUInt8 :: (0x80 + n / 4096 % 64).toUInt8
        :: (0x80 + n / 64 % 64).toUInt8 :: (0x80 + n % 64).toUInt8 :: bs)
      = (decodeFrom (i + 4) none bs).map (Char.ofNat n :: ·) := by
  have hn : ((n / 262144 * 64 + n / 4096 % 64) * 64 + n / 64 % 64) * 64 + n % 64 = n := by omega
  have hl : n / 4096 % 64 < 64 := by omega
  have hm : n / 64 % 64 < 64 := by omega
  have hr : n % 64 < 64 := by omega
  rw [decodeFrom_open (by rw [toNat_toUInt8] <;> omega) (open?_four (by omega) i),
    decodeFrom_continue hl ?low ?high (Nat.lt_succ_of_lt Nat.one_lt_two),
    decodeFrom_continue hm (Nat.le_add_right ..) (by show 0x80 + n / 64 % 64 ≤ 0xBF; omega)
      Nat.one_lt_two,
    decodeFrom_close hr (Nat.le_add_right ..) (by show 0x80 + n % 64 ≤ 0xBF; omega) rfl]
  · dsimp only
    rw [hn]
  case low =>
    dsimp only
    split
    · show 0x90 ≤ _
      omega
    · exact Nat.le_add_right ..
  case high =>
    dsimp only
    split
    · show _ ≤ 0x8F
      omega
    · show _ ≤ 0xBF
      omega

end

theorem decodeFrom_encodeChar (c : Char) (i : Nat) (bs : List UInt8) :
    decodeFrom i none (encodeChar c ++ bs)
      = (decodeFrom (i + (encodeChar c).length) none bs).map (c :: ·) := by
  have hv : c.toNat < 0xD800 ∨ 0xDFFF < c.toNat ∧ c.toNat < 0x110000 := c.valid
  have hc : Char.ofNat c.toNat = c := Char.ofNat_toNat c
  unfold encodeChar
  dsimp only
  generalize c.toNat = n at hv hc
  subst hc
  split
  · next h => exact decodeFrom_one h
  · next h1 =>
    split
    · next h2 => exact decodeFrom_two (by omega) h2
    · next h2 =>
      split
      · next h3 => exact decodeFrom_three (by omega) h3 (by omega)
      · next h3 => exact decodeFrom_four (by omega) (by omega)

theorem decodeFrom_encode (cs : List Char) (i : Nat) : decodeFrom i none (encode cs) = .ok cs := by
  induction cs generalizing i with
  | nil => rfl
  | cons c cs ih =>
    rw [encode_cons, decodeFrom_encodeChar, ih]
    rfl

/-- **The bytes of a text are read as the text.** -/
theorem decode_encode (cs : List Char) : decode (encode cs) = .ok cs := decodeFrom_encode cs 0

end Organism.Utf8
