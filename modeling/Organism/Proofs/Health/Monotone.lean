import Organism.Proofs.Health.Pace

/-!
# Worse readings never give better health

Two organs of one kind are read, and every signal of the second reading is at least that of the
first.  Then the second has all the penalties of the first, each at least as high, and perhaps more;
only the first may be without any and recover.  So in exact arithmetic the health that was not
better before is not better after.

* `IsNonneg.add_mono`     sums of what may be infinite;
* `severity_le`           a higher value is not less adverse;
* `Outweighs`             penalties that are at least as high, from wherever the sum starts;
* `outweighs_charge`      one signal;
* `Reading.AtMost`        readings of which one is nowhere worse;
* `Limits.next_antitone`  **the next health is not better after a worse reading of a worse health**.
-/

namespace Organism

attribute [local instance] Rounding.exact

/-! ## sums -/

namespace Number

theorem IsNonneg.le_infinite {x : Number} (h : x.IsNonneg) : x ≤ infinite false := by
  rcases h with rfl | ⟨q, rfl, -⟩ <;> rfl

theorem IsNonneg.zero_le {x : Number} (h : x.IsNonneg) : finite 0 ≤ x := by
  rcases h with rfl | ⟨q, rfl, hq⟩
  · rfl
  · exact (le_finite 0 q).mpr hq

theorem IsNonneg.finite_of_le {x : Number} (h : x.IsNonneg) {q : Rat} (hq : x ≤ finite q) :
    ∃ p, x = finite p ∧ p ≤ q := by
  rcases h with rfl | ⟨p, rfl, -⟩
  · cases hq
  · exact ⟨p, rfl, (le_finite p q).mp hq⟩

theorem IsNonneg.add_mono {x x' y y' : Number} (hx : x.IsNonneg) (hx' : x'.IsNonneg)
    (hy : y.IsNonneg) (hy' : y'.IsNonneg) (h : x ≤ x') (k : y ≤ y') : x + y ≤ x' + y' := by
  have hsum := hx.add hy
  rcases hx' with rfl | ⟨q, rfl, -⟩
  · rcases hy' with rfl | ⟨s, rfl, -⟩ <;> exact hsum.le_infinite
  · rcases hy' with rfl | ⟨s, rfl, -⟩
    · exact hsum.le_infinite
    · obtain ⟨p, rfl, hp⟩ := hx.finite_of_le h
      obtain ⟨r, rfl, hr⟩ := hy.finite_of_le k
      exact (le_finite (p + r) (q + s)).mpr (by linarith)

theorem IsNonneg.add_none {x : Number} (hx : x.IsNonneg) : x + 0 = x := by
  rcases hx with rfl | ⟨q, rfl, -⟩
  · rfl
  · show finite (q + ((0 : Nat) : Rat)) = finite q
    simp

/-! ## calculations with values -/

theorem value_add {x y : Number} (hx : x.isFinite = true) (hy : y.isFinite = true) :
    (x + y).isFinite = true ∧ (x + y).value = x.value + y.value := by
  cases x with
  | nan => cases hx
  | infinite s => cases hx
  | minusZero =>
    cases y with
    | nan => cases hy
    | infinite s => cases hy
    | minusZero => exact ⟨rfl, (add_zero (0 : Rat)).symm⟩
    | finite q => exact ⟨rfl, rfl⟩
  | finite p =>
    rw [finite_add p hy]
    exact ⟨rfl, rfl⟩

theorem value_sub {x y : Number} (hx : x.isFinite = true) (hy : y.isFinite = true) :
    (x - y).isFinite = true ∧ (x - y).value = x.value - y.value := by
  rw [sub_eq_add_neg, ← value_neg]
  exact value_add hx (isFinite_neg hy)

theorem value_div {x y : Number} (hx : x.isFinite = true) (hy : y.isFinite = true)
    (h0 : y.value ≠ 0) : (x / y).isFinite = true ∧ (x / y).value = x.value / y.value := by
  have hdiv : x / y = if y.value = 0 then
        if x.value = 0 then nan else infinite (x.isNegative != y.isNegative)
      else if x.value = 0 then zero (x.isNegative != y.isNegative)
      else finite (x.value / y.value) := by
    cases x with
    | nan => cases hx
    | infinite s => cases hx
    | minusZero => cases y <;> first | rfl | cases hy
    | finite p => cases y <;> first | rfl | cases hy
  rw [hdiv, if_neg h0]
  split
  · next h =>
    rw [h, zero_div]
    unfold zero
    split <;> exact ⟨rfl, rfl⟩
  · exact ⟨rfl, rfl⟩

theorem value_mul {x y : Number} (hx : x.isFinite = true) (hy : y.isFinite = true) :
    (x * y).isFinite = true ∧ (x * y).value = x.value * y.value := by
  have hmul : x * y = if x.value * y.value = 0 then zero (x.isNegative != y.isNegative)
      else finite (x.value * y.value) := by
    cases x with
    | nan => cases hx
    | infinite s => cases hx
    | minusZero => cases y <;> first | rfl | cases hy
    | finite p => cases y <;> first | rfl | cases hy
  rw [hmul]
  split
  · next h =>
    rw [h]
    unfold zero
    split <;> exact ⟨rfl, rfl⟩
  · exact ⟨rfl, rfl⟩

theorem value_abs (x : Number) : x.abs.value = |x.value| := by
  unfold abs
  split
  · next h =>
    rw [value_neg]
    cases x with
    | finite q => exact (abs_of_neg (of_decide_eq_true h)).symm
    | _ => simp [value]
  · next h =>
    cases x with
    | finite q => exact (abs_of_nonneg (not_lt.mp fun hq => h (decide_eq_true hq))).symm
    | _ => simp [value]

theorem value_clipUnit {x : Number} (hx : x.isFinite = true) :
    x.clipUnit.isFinite = true ∧ x.clipUnit.value = min (max x.value 0) 1 := by
  cases x with
  | nan => cases hx
  | infinite s => cases hx
  | minusZero => exact ⟨rfl, by decide⟩
  | finite q =>
    rw [clipUnit_finite]
    exact ⟨rfl, rfl⟩

end Number

/-! ## one signal -/

/-- the rules measure how far a value is above a threshold, in spans -/
def Rule.IsMeasure (rule : Rule) : Prop :=
  rule.threshold.isFinite = true ∧ rule.span.isFinite = true ∧ 0 < rule.span.value

theorem Reading.isMeasure_signals (r : Reading) : ∀ s ∈ r.signals, s.1.IsMeasure := by
  have hall : ∀ rule ∈ Rule.all, rule.threshold.isFinite = true ∧ rule.span.isFinite = true ∧
      0 < rule.span.value := by
    decide +kernel
  intro s hs
  refine hall s.1 ?_
  unfold Rule.all
  cases r <;>
    · simp only [signals, List.mem_cons, List.not_mem_nil, or_false] at hs
      rcases hs with rfl | rfl | rfl | rfl <;> simp

namespace Rule

theorem value_severity {rule : Rule} (hrule : rule.IsMeasure) {x : Number}
    (hx : x.isFinite = true) : (rule.severity x).isFinite = true ∧
      (rule.severity x).value =
        min (max ((x.value - rule.threshold.value) / rule.span.value) 0) 1 := by
  obtain ⟨ht, hs, hpos⟩ := hrule
  obtain ⟨hsubf, hsub⟩ := Number.value_sub hx ht
  obtain ⟨hdivf, hdiv⟩ := Number.value_div hsubf hs hpos.ne'
  rw [← hsub, ← hdiv]
  exact Number.value_clipUnit hdivf

theorem severity_le {rule : Rule} (hrule : rule.IsMeasure) {x y : Number}
    (hx : x.isFinite = true) (hy : y.isFinite = true) (h : x ≤ y) :
    (rule.severity x).value ≤ (rule.severity y).value := by
  rw [Number.le_iff_value hx hy] at h
  rw [(value_severity hrule hx).2, (value_severity hrule hy).2]
  have hspan : 0 < rule.span.value := hrule.2.2
  gcongr

end Rule

/-! ## penalties -/

/-- at least as high penalties, from wherever the sum starts -/
structure Outweighs (ps' ps : List (String × Number)) : Prop where
  none : ps' = [] → ps = []
  nonneg : ∀ p ∈ ps, p.2.IsNonneg
  nonneg' : ∀ p ∈ ps', p.2.IsNonneg
  sum : ∀ a a' : Number, a.IsNonneg → a'.IsNonneg → a ≤ a' →
    (ps.map (·.2)).foldl (· + ·) a ≤ (ps'.map (·.2)).foldl (· + ·) a'

theorem outweighs_nil : Outweighs [] [] where
  none := fun _ => rfl
  nonneg := List.forall_mem_nil _
  nonneg' := List.forall_mem_nil _
  sum := fun _ _ _ _ h => h

theorem isNonneg_sum {ps : List (String × Number)} (h : ∀ p ∈ ps, p.2.IsNonneg) {a : Number}
    (ha : a.IsNonneg) : ((ps.map (·.2)).foldl (· + ·) a).IsNonneg :=
  Number.isNonneg_foldl ha (List.forall_mem_map.mpr h)

theorem Outweighs.append {ps ps' qs qs' : List (String × Number)} (h : Outweighs ps' ps)
    (k : Outweighs qs' qs) : Outweighs (ps' ++ qs') (ps ++ qs) where
  none := by
    simp only [List.append_eq_nil_iff]
    exact And.imp h.none k.none
  nonneg := List.forall_mem_append.mpr ⟨h.nonneg, k.nonneg⟩
  nonneg' := List.forall_mem_append.mpr ⟨h.nonneg', k.nonneg'⟩
  sum := by
    intro a a' ha ha' hle
    simp only [List.map_append, List.foldl_append]
    exact k.sum _ _ (isNonneg_sum h.nonneg ha) (isNonneg_sum h.nonneg' ha') (h.sum a a' ha ha' hle)

theorem outweighs_one {p p' : String × Number} (hp : p.2.IsNonneg) (hp' : p'.2.IsNonneg)
    (h : p.2 ≤ p'.2) : Outweighs [p'] [p] where
  none := fun e => by cases e
  nonneg := by simpa using hp
  nonneg' := by simpa using hp'
  sum := fun _ _ ha ha' hle => ha.add_mono ha' hp hp' hle h

theorem outweighs_none {p : String × Number} (hp : p.2.IsNonneg) : Outweighs [p] [] where
  none := fun _ => rfl
  nonneg := List.forall_mem_nil _
  nonneg' := by simpa using hp
  sum := by
    intro a a' ha ha' hle
    have hsum : a + 0 ≤ a' + p.2 := ha.add_mono ha' Number.isNonneg_zero hp hle hp.zero_le
    rwa [ha.add_none] at hsum

namespace Number

theorem mul_infinite {p : Rat} (hp : 0 < p) : finite p * infinite false = infinite false := by
  show (if p = 0 then nan else infinite (decide (p < 0) != false)) = _
  rw [if_neg hp.ne', decide_eq_false (not_lt.mpr hp.le)]
  rfl

theorem finite_mul {p m : Rat} (hp : 0 ≤ p) (hm : 0 ≤ m) :
    finite p * finite m = finite (p * m) := by
  show (if p * m = 0 then zero (decide (p < 0) != decide (m < 0)) else finite (p * m)) = _
  rw [decide_eq_false (not_lt.mpr hp), decide_eq_false (not_lt.mpr hm)]
  split
  · next h =>
    rw [h]
    rfl
  · rfl

theorem share_le {p q : Rat} (hp : 0 < p) (h : p ≤ q) {most : Number} (hm : most.IsNonneg) :
    finite p * most ≤ finite q * most := by
  have hq : 0 < q := hp.trans_le h
  rcases hm with rfl | ⟨m, rfl, hm⟩
  · rw [mul_infinite hp, mul_infinite hq]
    rfl
  · rw [finite_mul hp.le hm, finite_mul hq.le hm]
    exact (le_finite _ _).mpr (mul_le_mul_of_nonneg_right h hm)

end Number

/-- **The penalty of a signal does not sink when the signal rises.** -/
theorem Rule.outweighs_charge {rule : Rule} (hrule : rule.IsMeasure) {most x y : Number}
    (hm : most.IsNonneg) (hx : x.isFinite = true) (hy : y.isFinite = true) (h : x ≤ y) :
    Outweighs (rule.charge most y) (rule.charge most x) := by
  have hle := severity_le hrule hx hy h
  unfold charge
  by_cases hsx : 0 < rule.severity x
  · obtain ⟨p, hp, hp0⟩ : ∃ p, rule.severity x = .finite p ∧ 0 < p := pos_clipUnit hsx
    have hsy : 0 < rule.severity y := by
      rw [Number.lt_iff_value rfl (value_severity hrule hy).1]
      rw [hp] at hle
      exact hp0.trans_le hle
    obtain ⟨q, hq, hq0⟩ : ∃ q, rule.severity y = .finite q ∧ 0 < q := pos_clipUnit hsy
    rw [if_pos hsx, if_pos hsy]
    rw [hp, hq] at hle ⊢
    exact outweighs_one (Number.isNonneg_mul hp0 hm) (Number.isNonneg_mul hq0 hm)
      (Number.share_le hp0 hle hm)
  · rw [if_neg hsx]
    by_cases hsy : 0 < rule.severity y
    · obtain ⟨q, hq, hq0⟩ : ∃ q, rule.severity y = .finite q ∧ 0 < q := pos_clipUnit hsy
      rw [if_pos hsy, hq]
      exact outweighs_none (Number.isNonneg_mul hq0 hm)
    · rw [if_neg hsy]
      exact outweighs_nil

/-! ## readings -/

/-- no signal is higher than the one of the same rule in the other reading -/
def Reading.AtMost (r r' : Reading) : Prop :=
  ∀ s ∈ r.signals, ∀ s' ∈ r'.signals, s.1 = s'.1 →
    ∀ x x', s.2.toNumber = .ok x → s'.2.toNumber = .ok x' → x ≤ x'

theorem Reading.rules_eq {r r' : Reading} (h : r.organ = r'.organ) :
    r.signals.map (·.1) = r'.signals.map (·.1) := by
  cases r <;> cases r' <;> first | rfl | cases h

theorem outweighs_flatten {most : Rule → Number} (hmost : ∀ rule, (most rule).IsNonneg)
    {ss ss' : List (Rule × Value)} {found found' : List (List (String × Number))}
    (hs : List.Forall₂ (Charged most) ss found) (hs' : List.Forall₂ (Charged most) ss' found')
    (hrules : ss.map (·.1) = ss'.map (·.1)) (hmeasure : ∀ s ∈ ss, s.1.IsMeasure)
    (h : ∀ s ∈ ss, ∀ s' ∈ ss', s.1 = s'.1 →
      ∀ x x', s.2.toNumber = .ok x → s'.2.toNumber = .ok x' → x ≤ x') :
    Outweighs found'.flatten found.flatten := by
  induction hs generalizing ss' found' with
  | nil =>
    obtain rfl : ss' = [] := List.map_eq_nil_iff.mp hrules.symm
    cases hs'
    exact outweighs_nil
  | @cons s ps ss found hps hs ih =>
    cases hs' with
    | nil => cases hrules
    | @cons s' ps' ss' found' hps' hs' =>
      rw [List.map_cons, List.map_cons, List.cons.injEq] at hrules
      obtain ⟨hrule, hrules⟩ := hrules
      have hfirst : Outweighs ps' ps := by
        obtain ⟨x, hx, hxf, rfl⟩ := hps
        obtain ⟨y, hy, hyf, rfl⟩ := hps'
        have hle : x ≤ y := h s (.head _) s' (.head _) hrule x y hx hy
        rw [← hrule]
        exact Rule.outweighs_charge (hmeasure s (.head _)) (hmost s.1) hxf hyf hle
      have hrest := ih hs' hrules (fun t ht => hmeasure t (.tail _ ht))
        fun t ht t' ht' => h t (.tail _ ht) t' (.tail _ ht')
      rw [List.flatten_cons, List.flatten_cons]
      exact hfirst.append hrest

/-- **A reading that is nowhere better has penalties that are at least as high.** -/
theorem Limits.Charging.outweighs {l : Limits} (hl : l.Charging) {r r' : Reading}
    (ho : r.organ = r'.organ) (hf : r.Finite) (hf' : r'.Finite) (h : r.AtMost r') :
    ∃ ps ps', r.penalties l r.organ = .ok ps ∧ r'.penalties l r'.organ = .ok ps' ∧
      Outweighs ps' ps := by
  obtain ⟨most, hmost, hpenalties⟩ := hl.penalties
  obtain ⟨found, hfound, hs⟩ := hpenalties r hf
  obtain ⟨found', hfound', hs'⟩ := hpenalties r' hf'
  exact ⟨_, _, hfound, hfound',
    outweighs_flatten hmost hs hs' (Reading.rules_eq ho) r.isMeasure_signals h⟩

/-! ## changes -/

theorem Number.capped_mono {bound : Rat} {x y : Number} (hx : x.IsNonneg) (hy : y.IsNonneg)
    (h : x ≤ y) : capped bound x ≤ capped bound y := by
  rcases hy with rfl | ⟨q, rfl, -⟩
  · rw [capped_infinite]
    exact capped_le hx
  · obtain ⟨p, rfl, hp⟩ := hx.finite_of_le h
    rw [capped_finite, capped_finite]
    exact min_le_min_left bound hp

namespace Limits.Paces

variable {l : Limits} {step : Rat} (hl : l.Paces step)
include hl

/-- **Higher penalties do not make a better change**, also where there are none to compare with. -/
theorem change_le {ps ps' : List (String × Number)} (h : Outweighs ps' ps) :
    ∃ y y', l.change ps = .ok y ∧ l.change ps' = .ok y' ∧ y.isFinite = true ∧
      y'.isFinite = true ∧ y'.value ≤ y.value := by
  by_cases hps' : ps' = []
  · obtain rfl : ps = [] := h.none hps'
    obtain ⟨y, hy, hf, -, -⟩ := hl.gain
    exact ⟨y, y, hy, hps' ▸ hy, hf, hf, le_refl _⟩
  · obtain ⟨y', hy', hf', hv'⟩ := hl.loss hps' h.nonneg'
    have htotal' := isNonneg_penaltiesTotal h.nonneg'
    by_cases hps : ps = []
    · subst hps
      obtain ⟨y, hy, hf, h0, -⟩ := hl.gain
      refine ⟨y, y', hy, hy', hf, hf', ?_⟩
      have hloss := Number.capped_nonneg hl.nonneg htotal'
      rw [hv']
      linarith
    · obtain ⟨y, hy, hf, hv⟩ := hl.loss hps h.nonneg
      refine ⟨y, y', hy, hy', hf, hf', ?_⟩
      have htotal := h.sum 0 0 Number.isNonneg_zero Number.isNonneg_zero rfl
      rw [hv, hv', neg_le_neg_iff]
      exact Number.capped_mono (isNonneg_penaltiesTotal h.nonneg) htotal' htotal

end Limits.Paces

/-- **A worse reading of a worse health never gives a better health**, and the health moves by the
greatest step at most. -/
theorem Limits.next_antitone {l : Limits} (hl : Settings.checkHealth l = .ok ()) (hc : l.Charging)
    {k : OrganKind} {r r' : Reading} (hr : r.organ = k) (hr' : r'.organ = k) (hf : r.Finite)
    (hf' : r'.Finite) (h : r.AtMost r') {c c' : Number} (hcu : c.InUnit) (hcu' : c'.InUnit)
    (hcc : c' ≤ c) :
    ∃ x x', l.next k r c = .ok x ∧ l.next k r' c' = .ok x' ∧ x' ≤ x ∧
      ∃ q, l.maxStep.quantity? = some q ∧ |x.value - c.value| ≤ q.exact.value := by
  subst hr
  obtain ⟨a, rfl, ha0, ha1⟩ := hcu
  obtain ⟨a', rfl, -, -⟩ := hcu'
  obtain ⟨step, hpaces, -, -⟩ := Settings.checkHealth_paces hl
  obtain ⟨ps, ps', hps, hps', hout⟩ := hc.outweighs hr'.symm hf hf' h
  obtain ⟨y, y', hy, hy', hyf, hyf', hle⟩ := hpaces.change_le hout
  rw [hr'] at hps'
  have hnext := Limits.next_eq (c := a) hps hy hyf
  have hnext' := Limits.next_eq (c := a') hps' hy' hyf'
  have hnear := (hpaces.next ⟨a, rfl, ha0, ha1⟩ hnext).2
  refine ⟨_, _, hnext, hnext', ?_, ?_⟩
  · rw [Number.le_finite] at hcc ⊢
    gcongr
  · obtain ⟨-, q, -, hq, -, -, -, -, hstep⟩ := hpaces
    exact ⟨q, hq, hstep ▸ hnear⟩

/-- a cortex without an adverse signal, and one that is hot under a penalty below zero -/
theorem Limits.next_antitone_hot :
    let l : Limits := { Limits.standard with
      maxPenalties :=
        .map [(.text "cpu_load", .real (.finite (-1))), (.text "cpu_temp_c", .whole 1)] }
    let r : CpuReading := .nominal
    let r' : CpuReading :=
      { CpuReading.nominal with temperature := .whole 80, load := .real (.finite 1) }
    ∃ x x', l.next .cortex (.cpu r) (.finite (1 / 2)) = .ok x ∧
      l.next .cortex (.cpu r') (.finite (1 / 2)) = .ok x' ∧ x' ≤ x ∧
      ∃ q, l.maxStep.quantity? = some q ∧ |x.value - 1 / 2| ≤ q.exact.value := by
  intro l r r'
  have hl : Settings.checkHealth l = .ok () := by
    have h : (Settings.checkHealth l).isOk = true := by decide +kernel
    obtain ⟨⟨⟩, h⟩ := ok_of_isOk h
    exact h
  have hc : l.Charging := by
    refine ⟨_, rfl, ?_⟩
    simp [Value.quantity?, Quantity.number_exact]
  have hf : (Reading.cpu r).Finite := by decide +kernel
  have hf' : (Reading.cpu r').Finite := by decide +kernel
  have h : (Reading.cpu r).AtMost (.cpu r') := by
    intro s hs s' hs' e x x' hx hx'
    simp only [Reading.signals, List.mem_cons, List.not_mem_nil, or_false] at hs hs'
    rcases hs with rfl | rfl | rfl | rfl <;> rcases hs' with rfl | rfl | rfl | rfl <;>
      first
      | exact absurd (congrArg Rule.name e) (by decide)
      | cases hx; cases hx'; decide +kernel
  have ho : (Reading.cpu r).organ = .cortex := rfl
  have ho' : (Reading.cpu r').organ = .cortex := rfl
  have hu : (Number.finite (1 / 2)).InUnit := ⟨_, rfl, by norm_num, by norm_num⟩
  exact Limits.next_antitone hl hc ho ho' hf hf' h hu hu ((Number.le_finite _ _).mpr (le_refl _))

end Organism
