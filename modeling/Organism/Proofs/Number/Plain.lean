import Organism.Number.Decimal
import Organism.Number.Numeral
import Organism.Proofs.Number.Decimal
import Mathlib.Data.List.TakeWhile

/-!
# Stored numbers read back

A health in a state file is written in the layout `stored`, without exponent, and read by
`readPlain?`.

* `readPlain?_whole`, `readPlain?_point`   digits, and digits with a point among them;
* `readPlain?_positional`   the digits of a decimal with its point in place;
* `readPlain?_chars`        **the stored text of a 64-bit number reads back as the number**;
* `mem_chars_stored`        such a text holds digits and a point, and nothing else.
-/

namespace Organism

open Text

/-! ## digits -/

theorem digitValue?_of_isDigit {c : Char} (h : c.isDigit) :
    digitValue? c = some (c.toNat - '0'.toNat) := by
  obtain ⟨h1, h2⟩ := Char.isDigit_iff_toNat.mp h
  unfold digitValue?
  dsimp only
  have h0 : '0'.toNat = 48 := rfl
  have h9 : '9'.toNat = 57 := rfl
  rw [if_pos (by simp only [Bool.and_eq_true, decide_eq_true_eq]; omega)]
  rfl

theorem isDigit_of_ascii {c : Char} (h : c.isDigit) : isDigit c = true := by
  rw [isDigit, digitValue?_of_isDigit h, Option.isSome_some]

theorem digitsValue_of_ascii {cs : List Char} (h : ∀ c ∈ cs, c.isDigit) :
    digitsValue cs = Nat.ofDigitChars 10 cs 0 := by
  unfold digitsValue
  rw [Nat.ofDigitChars_eq_foldl]
  apply List.foldl_ext
  intro n c hc
  rw [digitValue?_of_isDigit (h c hc), Option.getD_some]

theorem isDigit_point : isDigit '.' = false := by decide

theorem takeSign_of_isDigit {c : Char} {cs : List Char} (h : isDigit c = true) :
    takeSign (c :: cs) = (false, c :: cs) := by
  unfold takeSign
  split
  · next e =>
    cases e
    exact absurd h (by decide)
  · next e =>
    cases e
    exact absurd h (by decide)
  · rfl

theorem takeSign_append {a b : List Char} (h : ∀ c ∈ a, isDigit c = true) (hne : a ≠ []) :
    takeSign (a ++ b) = (false, a ++ b) := by
  cases a with
  | nil => exact absurd rfl hne
  | cons c a => exact takeSign_of_isDigit (h c (List.mem_cons_self ..))

/-! ## numerals -/

theorem takeWhile_point {a : List Char} (h : ∀ c ∈ a, isDigit c = true) (b : List Char) :
    (a ++ '.' :: b).takeWhile isDigit = a := by
  rw [List.takeWhile_append_of_pos h]
  simp [isDigit_point]

theorem dropWhile_point {a : List Char} (h : ∀ c ∈ a, isDigit c = true) (b : List Char) :
    (a ++ '.' :: b).dropWhile isDigit = '.' :: b := by
  rw [List.dropWhile_append_of_pos h]
  simp [isDigit_point]

theorem take?_whole {a : List Char} (h : ∀ c ∈ a, isDigit c = true) (hne : a ≠ []) :
    Numeral.take? isDigit a = some (⟨a, []⟩, []) := by
  have he : a.isEmpty = false := by rwa [List.isEmpty_eq_false_iff]
  unfold Numeral.take?
  rw [List.dropWhile_eq_nil_iff.mpr h, List.takeWhile_eq_self_iff.mpr h]
  simp [he]

theorem take?_point {a b : List Char} (ha : ∀ c ∈ a, isDigit c = true)
    (hb : ∀ c ∈ b, isDigit c = true) (hne : a ≠ [] ∨ b ≠ []) :
    Numeral.take? isDigit (a ++ '.' :: b) = some (⟨a, b⟩, []) := by
  have he : (a.isEmpty && b.isEmpty) = false := by
    rw [Bool.and_eq_false_iff, List.isEmpty_eq_false_iff, List.isEmpty_eq_false_iff]
    exact hne
  unfold Numeral.take?
  rw [dropWhile_point ha, takeWhile_point ha]
  simp [he, List.takeWhile_eq_self_iff.mpr hb, List.dropWhile_eq_nil_iff.mpr hb]

section
variable [Rounding]

theorem readPlain?_whole {a : List Char} (h : ∀ c ∈ a, c.isDigit) (hne : a ≠ []) :
    readPlain? a = some (Decimal.number ⟨digitsValue a, 0⟩) := by
  have hd : ∀ c ∈ a, isDigit c = true := fun c hc => isDigit_of_ascii (h c hc)
  have hs := takeSign_append (b := []) hd hne
  rw [List.append_nil] at hs
  unfold readPlain?
  rw [hs]
  dsimp only
  rw [take?_whole hd hne]
  simp [Numeral.decimal, signed]

theorem readPlain?_point {a b : List Char} (ha : ∀ c ∈ a, c.isDigit) (hb : ∀ c ∈ b, c.isDigit)
    (hne : a ≠ []) :
    readPlain? (a ++ '.' :: b) = some (Decimal.number ⟨digitsValue (a ++ b), -(b.length : Int)⟩) := by
  have hda : ∀ c ∈ a, isDigit c = true := fun c hc => isDigit_of_ascii (ha c hc)
  have hdb : ∀ c ∈ b, isDigit c = true := fun c hc => isDigit_of_ascii (hb c hc)
  unfold readPlain?
  rw [takeSign_append hda hne]
  dsimp only
  rw [take?_point hda hdb (.inl hne)]
  simp [Numeral.decimal, signed]

end

/-! ## the digits of a decimal -/

namespace Decimal

theorem isDigit_of_mem_digits {d : Decimal} {c : Char} (h : c ∈ d.digits) : c.isDigit :=
  Nat.isDigit_of_mem_toDigits (by decide) (by decide) h

theorem digits_ne_nil (d : Decimal) : d.digits ≠ [] := Nat.toDigits_ne_nil

theorem digitsValue_digits (d : Decimal) : digitsValue d.digits = d.coefficient := by
  rw [digitsValue_of_ascii fun c hc => isDigit_of_mem_digits hc]
  exact Nat.ofDigitChars_ten_toDigits

theorem isDigit_of_mem_zeros {n : Nat} {c : Char} (h : c ∈ List.replicate n '0') : c.isDigit := by
  rw [List.eq_of_mem_replicate h]
  decide

theorem isDigit_of_mem_zeros_append (d : Decimal) (n : Nat) :
    ∀ c ∈ List.replicate n '0' ++ d.digits, c.isDigit :=
  List.forall_mem_append.mpr
    ⟨fun _ hc => isDigit_of_mem_zeros hc, fun _ hc => isDigit_of_mem_digits hc⟩

theorem isDigit_of_mem_append_zeros (d : Decimal) (n : Nat) :
    ∀ c ∈ d.digits ++ List.replicate n '0', c.isDigit :=
  List.forall_mem_append.mpr
    ⟨fun _ hc => isDigit_of_mem_digits hc, fun _ hc => isDigit_of_mem_zeros hc⟩

theorem digitsValue_zeros_append (d : Decimal) (n : Nat) :
    digitsValue (List.replicate n '0' ++ d.digits) = d.coefficient := by
  rw [digitsValue_of_ascii (d.isDigit_of_mem_zeros_append n), Nat.ofDigitChars_append,
    Nat.ofDigitChars_replicate_zero, mul_zero]
  exact Nat.ofDigitChars_ten_toDigits

theorem digitsValue_append_zeros (d : Decimal) (n : Nat) :
    digitsValue (d.digits ++ List.replicate n '0') = d.coefficient * 10 ^ n := by
  rw [digitsValue_of_ascii (d.isDigit_of_mem_append_zeros n), Nat.ofDigitChars_append,
    Nat.ofDigitChars_replicate_zero, mul_comm]
  congr 1
  exact Nat.ofDigitChars_ten_toDigits

end Decimal

attribute [local instance] Rounding.binary64

section
variable {d : Decimal}

theorem readPlain?_front (hp : d.point ≤ 0) :
    readPlain? ('0' :: '.' :: (List.replicate (-d.point).toNat '0' ++ d.digits))
      = some d.number := by
  have hzero : ∀ c ∈ ['0'], c.isDigit := List.forall_mem_singleton.mpr rfl
  have hr := readPlain?_point hzero (d.isDigit_of_mem_zeros_append (-d.point).toNat) (by decide)
  rw [← List.append_assoc, show ['0'] ++ List.replicate (-d.point).toNat '0'
    = List.replicate ((-d.point).toNat + 1) '0' from List.replicate_succ.symm,
    d.digitsValue_zeros_append] at hr
  have he : -((List.replicate (-d.point).toNat '0' ++ d.digits).length : Int) = d.exponent := by
    rw [List.length_append, List.length_replicate]
    unfold Decimal.point at hp ⊢
    omega
  rw [he] at hr
  exact hr

theorem readPlain?_behind (hp : 0 < d.point) (hn : d.digits.length ≤ d.point.toNat) :
    readPlain? (d.digits ++ List.replicate (d.point.toNat - d.digits.length) '0')
      = some d.number := by
  have hne : d.digits ++ List.replicate (d.point.toNat - d.digits.length) '0' ≠ [] :=
    List.append_ne_nil_of_left_ne_nil d.digits_ne_nil _
  rw [readPlain?_whole (d.isDigit_of_mem_append_zeros _) hne, d.digitsValue_append_zeros]
  congr 1
  apply Decimal.number_congr
  have he : d.exponent = ((d.point.toNat - d.digits.length : Nat) : Int) := by
    unfold Decimal.point at hp hn ⊢
    omega
  simp only [Decimal.value]
  rw [he, zpow_natCast]
  push_cast
  ring

theorem readPlain?_among (hp : 0 < d.point) (hn : d.point.toNat < d.digits.length) :
    readPlain? (d.digits.take d.point.toNat ++ '.' :: d.digits.drop d.point.toNat)
      = some d.number := by
  have hds : ∀ c ∈ d.digits, c.isDigit := fun c hc => Decimal.isDigit_of_mem_digits hc
  have ht : ∀ c ∈ d.digits.take d.point.toNat, c.isDigit :=
    fun c hc => hds c (List.mem_of_mem_take hc)
  have hd : ∀ c ∈ d.digits.drop d.point.toNat, c.isDigit :=
    fun c hc => hds c (List.mem_of_mem_drop hc)
  have hne : d.digits.take d.point.toNat ≠ [] := by
    rw [← List.length_pos_iff, List.length_take]
    omega
  have he : -((d.digits.length - d.point.toNat : Nat) : Int) = d.exponent := by
    unfold Decimal.point at hp hn ⊢
    omega
  rw [readPlain?_point ht hd hne, List.take_append_drop, d.digitsValue_digits, List.length_drop, he]

end

/-- **The digits of a decimal with the point in its place read back as the decimal.** -/
theorem readPlain?_positional (d : Decimal) :
    readPlain? (Layout.stored.positional d.digits d.point) = some d.number := by
  unfold Layout.positional
  dsimp only
  split
  · next hp => exact readPlain?_front hp
  · next hp =>
    split
    · next hn =>
      show readPlain? (_ ++ []) = _
      rw [List.append_nil]
      exact readPlain?_behind (not_le.mp hp) hn
    · next hn => exact readPlain?_among (not_le.mp hp) (not_le.mp hn)

/-! ## stored numbers -/

theorem chars_stored_zero : (Number.finite 0).chars .stored = ['0'] := rfl

theorem chars_stored_pos {q : Rat} (h : 0 < q) :
    (Number.finite q).chars .stored
      = Layout.stored.positional (Decimal.ofRat q).digits (Decimal.ofRat q).point := by
  show (if q < 0 then _ else Layout.stored.magnitude q) = _
  rw [if_neg (not_lt.mpr h.le)]
  unfold Layout.magnitude
  rw [if_neg h.ne']
  rfl

/-- **The stored text of a 64-bit number reads back as the number.** -/
theorem readPlain?_chars {q : Rat} (h : 0 ≤ q) (hr : Binary64.Representable q) :
    readPlain? ((Number.finite q).chars .stored) = some (.finite q) := by
  rcases h.eq_or_lt with rfl | h
  · rfl
  · rw [chars_stored_pos h, readPlain?_positional, Decimal.number_ofRat h.le hr]

theorem mem_positional {l : Layout} {ds : List Char} {p : Int} {c : Char}
    (hl : l.fraction = false) (hds : ∀ c ∈ ds, c.isDigit) (h : c ∈ l.positional ds p) :
    c.isDigit ∨ c = '.' := by
  have hz : ∀ n, c ∈ List.replicate n '0' → c.isDigit := fun n hc =>
    Decimal.isDigit_of_mem_zeros hc
  unfold Layout.positional at h
  dsimp only at h
  split at h
  · rcases List.mem_cons.mp h with rfl | h
    · exact .inl (by decide)
    rcases List.mem_cons.mp h with rfl | h
    · exact .inr rfl
    rcases List.mem_append.mp h with h | h
    · exact .inl (hz _ h)
    · exact .inl (hds c h)
  · split at h
    · rw [hl] at h
      rcases List.mem_append.mp h with h | h
      · rcases List.mem_append.mp h with h | h
        · exact .inl (hds c h)
        · exact .inl (hz _ h)
      · cases h
    · rcases List.mem_append.mp h with h | h
      · exact .inl (hds c (List.mem_of_mem_take h))
      rcases List.mem_cons.mp h with rfl | h
      · exact .inr rfl
      · exact .inl (hds c (List.mem_of_mem_drop h))

theorem mem_chars_stored {q : Rat} (h : 0 ≤ q) {c : Char}
    (hc : c ∈ (Number.finite q).chars .stored) : c.isDigit ∨ c = '.' := by
  rcases h.eq_or_lt with rfl | h
  · rw [chars_stored_zero, List.mem_singleton] at hc
    rw [hc]
    exact .inl (by decide)
  · rw [chars_stored_pos h] at hc
    exact mem_positional rfl (fun c hc => Decimal.isDigit_of_mem_digits hc) hc

end Organism
