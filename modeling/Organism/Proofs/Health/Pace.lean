import Organism.Proofs.Anatomy.Moves
import Organism.Proofs.Settings.Accepted

/-!
# The pace of healths

In exact arithmetic a reading moves the health of its organ by the greatest step at most.  What the
penalties add up to is not negative and is capped by the step, a recovery is capped as well, and
nothing that is brought into the unit interval gets further away from a health that lies in it.

* `Limits.Paces`      limits whose greatest step is a value, as are all that were accepted;
* `Paces.recovery`, `Paces.loss`   what the health gains without penalties, and loses by them;
* `Paces.next`        **the next health is within a step of the current one**;
* `Topology.Near`     every organ is still there, with its health within a bound of its own;
* `Paces.near_feel`   **a reading moves one health by a step at most, and no other**.
-/

namespace Organism

/-! ## exact arithmetic -/

namespace Number

theorem lt_iff_value {a b : Number} (ha : a.isFinite = true) (hb : b.isFinite = true) :
    a < b ↔ a.value < b.value := by
  cases a with
  | nan => cases ha
  | infinite s => cases ha
  | minusZero =>
    cases b with
    | nan => cases hb
    | infinite s => cases hb
    | minusZero => exact lt_finite 0 0
    | finite q => exact lt_finite 0 q
  | finite p =>
    cases b with
    | nan => cases hb
    | infinite s => cases hb
    | minusZero => exact lt_finite p 0
    | finite q => exact lt_finite p q

theorem lt_infinite {x : Number} (h : x.isFinite = true) : x < infinite false := by
  cases x with
  | nan => cases h
  | infinite s => cases h
  | minusZero => rfl
  | finite q => rfl

theorem value_neg (x : Number) : (-x).value = -x.value := by
  cases x with
  | nan => rfl
  | infinite s => rfl
  | minusZero => rfl
  | finite q =>
    rw [Binary64.neg_finite]
    split
    · next h =>
      rw [h]
      rfl
    · rfl

theorem abs_clip_sub_le {p z : Rat} (h0 : 0 ≤ p) (h1 : p ≤ 1) :
    |min (max z 0) 1 - p| ≤ |z - p| := by
  have hlow := neg_abs_le (z - p)
  have hhigh := le_abs_self (z - p)
  have habs := abs_nonneg (z - p)
  rw [abs_le]
  constructor
  · have hmin : p - |z - p| ≤ min (max z 0) 1 :=
      le_min (le_max_of_le_left (by linarith)) (by linarith)
    linarith
  · have hmax : min (max z 0) 1 ≤ p + |z - p| :=
      (min_le_left _ _).trans (max_le (by linarith) (by linarith))
    linarith

def capped (bound : Rat) (x : Number) : Rat := if finite bound < x then bound else x.value

theorem capped_finite (bound q : Rat) : capped bound (finite q) = min bound q := by
  unfold capped
  simp only [lt_finite]
  split
  · next h => exact (min_eq_left h.le).symm
  · next h => exact (min_eq_right (not_lt.mp h)).symm

theorem capped_infinite (bound : Rat) : capped bound (infinite false) = bound :=
  if_pos (lt_infinite rfl)

theorem capped_le {bound : Rat} {x : Number} (hx : x.IsNonneg) : capped bound x ≤ bound := by
  rcases hx with rfl | ⟨q, rfl, -⟩
  · rw [capped_infinite]
  · rw [capped_finite]
    exact min_le_left _ _

theorem capped_nonneg {bound : Rat} {x : Number} (hb : 0 ≤ bound) (hx : x.IsNonneg) :
    0 ≤ capped bound x := by
  rcases hx with rfl | ⟨q, rfl, hq⟩
  · rwa [capped_infinite]
  · rw [capped_finite]
    exact le_min hb hq

end Number

attribute [local instance] Rounding.exact

theorem Quantity.number_exact (q : Quantity) : q.number = .ok q.exact := by cases q <;> rfl

theorem Number.finite_add (p : Rat) {x : Number} (h : x.isFinite = true) :
    finite p + x = finite (p + x.value) := by
  cases x with
  | nan => cases h
  | infinite s => cases h
  | minusZero => rfl
  | finite q => rfl

/-! ## limits -/

/-- the recovery lies between 0 and the greatest step, which has the given value -/
def Limits.Paces (l : Limits) (step : Rat) : Prop :=
  ∃ p q, l.recoveryStep.quantity? = some p ∧ l.maxStep.quantity? = some q ∧
    p.exact.isFinite = true ∧ q.exact.isFinite = true ∧
    0 ≤ p.exact.value ∧ p.exact.value ≤ step ∧ q.exact.value = step

theorem Settings.checkHealth_paces {l : Limits} (h : checkHealth l = .ok ()) :
    ∃ step, l.Paces step ∧ 0 < step ∧ step ≤ 1 := by
  obtain ⟨p, q, hp, hq, hp0, hpq, hq0, hq1⟩ := checkHealth_ok h
  have hqf : q.exact.isFinite = true :=
    Number.isFinite_of_between rfl rfl (Number.le_of_pos hq0) hq1
  have hpf : p.exact.isFinite = true := Number.isFinite_of_between rfl hqf hp0 hpq
  rw [Number.le_iff_value rfl hpf] at hp0
  rw [Number.le_iff_value hpf hqf] at hpq
  rw [Number.lt_iff_value rfl hqf] at hq0
  rw [Number.le_iff_value hqf rfl] at hq1
  exact ⟨_, ⟨p, q, hp, hq, hpf, hqf, hp0, hpq, rfl⟩, hq0, hq1⟩

theorem Limits.next_eq {l : Limits} {k : OrganKind} {r : Reading} {ps : List (String × Number)}
    {y : Number} {c : Rat} (hps : r.penalties l k = .ok ps) (hy : l.change ps = .ok y)
    (hyf : y.isFinite = true) :
    l.next k r (.finite c) = .ok (.finite (min (max (c + y.value) 0) 1)) := by
  unfold Limits.next
  rw [hps]
  show (l.change ps >>= _) = _
  rw [hy]
  show Except.ok (Number.finite c + y).clipUnit = _
  rw [Number.finite_add c hyf, Number.clipUnit_finite]

theorem isNonneg_penaltiesTotal {ps : List (String × Number)} (hps : ∀ p ∈ ps, p.2.IsNonneg) :
    (Number.total (ps.map (·.2))).IsNonneg := by
  apply Number.isNonneg_total
  intro x hx
  obtain ⟨p, hp, rfl⟩ := List.mem_map.mp hx
  exact hps p hp

namespace Limits.Paces

variable {l : Limits} {step : Rat}

theorem nonneg (hl : l.Paces step) : 0 ≤ step := by
  obtain ⟨p, q, -, -, -, -, h0, h1, -⟩ := hl
  exact h0.trans h1

variable (hl : l.Paces step)
include hl

theorem le_add_single (ε : OrganKind → Rat) (k : OrganKind) : ε ≤ ε + Pi.single k step :=
  le_add_of_nonneg_right (Pi.single_nonneg.mpr hl.nonneg)

theorem recovery : ∃ p, l.recoveryStep.quantity? = some p ∧ l.change [] = .ok p.exact ∧
    p.exact.isFinite = true ∧ 0 ≤ p.exact.value ∧ p.exact.value ≤ step := by
  obtain ⟨p, q, hp, hq, hpf, hqf, hp0, hp1, hq1⟩ := hl
  have hle : ¬ q.exact < p.exact := by
    rw [Number.lt_iff_value hqf hpf, hq1]
    exact not_lt.mpr hp1
  refine ⟨p, hp, ?_, hpf, hp0, hp1⟩
  show (l.recoveryStep.smaller l.maxStep >>= _) = _
  rw [Value.smaller_eq hp hq, if_neg hle]
  show l.recoveryStep.operand "+" = _
  rw [Value.operand_eq hp, Quantity.number_exact]

theorem gain : ∃ y, l.change [] = .ok y ∧ y.isFinite = true ∧ 0 ≤ y.value ∧ y.value ≤ step := by
  obtain ⟨p, -, hp⟩ := hl.recovery
  exact ⟨p.exact, hp⟩

theorem loss {ps : List (String × Number)} (hne : ps ≠ []) (hps : ∀ p ∈ ps, p.2.IsNonneg) :
    ∃ y, l.change ps = .ok y ∧ y.isFinite = true ∧
      y.value = -Number.capped step (Number.total (ps.map (·.2))) := by
  obtain ⟨-, q, -, hq, -, hqf, -, -, hq1⟩ := hl
  have ht := isNonneg_penaltiesTotal hps
  unfold Limits.change
  rw [if_neg (by simpa using hne)]
  generalize Number.total (ps.map (·.2)) = total at ht
  rw [Value.smaller_eq (p := .real total) rfl hq]
  show ∃ y, ((if q.exact < total then l.maxStep else .real total).operand "+" >>= _) = _ ∧ _
  unfold Number.capped
  have hlt : q.exact < total ↔ Number.finite step < total := by
    rcases ht with rfl | ⟨x, rfl, -⟩
    · exact iff_of_true (Number.lt_infinite hqf) (Number.lt_infinite rfl)
    · rw [Number.lt_iff_value hqf rfl, hq1, Number.lt_finite]
      rfl
  by_cases h : q.exact < total
  · rw [if_pos h, if_pos (hlt.mp h), Value.operand_eq hq, Quantity.number_exact]
    refine ⟨-q.exact, rfl, Number.isFinite_neg hqf, ?_⟩
    rw [Number.value_neg, hq1]
  · rw [if_neg h, if_neg (mt hlt.mpr h)]
    have htf : total.isFinite = true := by
      rcases ht with rfl | ⟨x, rfl, -⟩
      · exact absurd (Number.lt_infinite hqf) h
      · rfl
    exact ⟨-total, rfl, Number.isFinite_neg htf, Number.value_neg total⟩

theorem change {ps : List (String × Number)} (hps : ∀ p ∈ ps, p.2.IsNonneg) :
    ∃ y, l.change ps = .ok y ∧ y.isFinite = true ∧ |y.value| ≤ step := by
  cases ps with
  | nil =>
    obtain ⟨y, hy, hyf, h0, h1⟩ := hl.gain
    exact ⟨y, hy, hyf, by rwa [abs_of_nonneg h0]⟩
  | cons p ps =>
    obtain ⟨y, hy, hyf, hv⟩ := hl.loss (List.cons_ne_nil p ps) hps
    have ht := isNonneg_penaltiesTotal hps
    refine ⟨y, hy, hyf, ?_⟩
    rw [hv, abs_neg, abs_of_nonneg (Number.capped_nonneg hl.nonneg ht)]
    exact Number.capped_le ht

/-- **The next health is a health, and within a step of the current one.** -/
theorem next {k : OrganKind} {r : Reading} {current x : Number} (hc : current.InUnit)
    (h : l.next k r current = .ok x) : x.InUnit ∧ |x.value - current.value| ≤ step := by
  obtain ⟨c, rfl, h0, h1⟩ := hc
  obtain ⟨ps, hps, -⟩ := ok_of_bind h
  obtain ⟨y, hy, hyf, hystep⟩ := hl.change (Reading.isNonneg_penalties hps)
  rw [next_eq hps hy hyf] at h
  cases h
  refine ⟨⟨_, rfl, le_min (le_max_right _ _) zero_le_one, min_le_right _ _⟩, ?_⟩
  calc |min (max (c + y.value) 0) 1 - c|
      ≤ |c + y.value - c| := Number.abs_clip_sub_le h0 h1
    _ = |y.value| := by rw [add_sub_cancel_left]
    _ ≤ step := hystep

end Limits.Paces

/-! ## healths within bounds -/

namespace Topology

variable {t t' t'' : Topology} {ε δ : OrganKind → Rat}

/-- every organ is still there, with a health within the bound of its kind -/
def Near (ε : OrganKind → Rat) (t t' : Topology) : Prop :=
  ∀ k o, t.organ? k = some o →
    ∃ o', t'.organ? k = some o' ∧ |o'.health.value - o.health.value| ≤ ε k

theorem near_refl (t : Topology) : t.Near 0 t := by
  intro k o ho
  refine ⟨o, ho, ?_⟩
  rw [sub_self, abs_zero]
  exact le_refl 0

theorem Near.mono (h : t.Near ε t') (hle : ε ≤ δ) : t.Near δ t' := by
  intro k o ho
  obtain ⟨o', ho', hdist⟩ := h k o ho
  exact ⟨o', ho', hdist.trans (hle k)⟩

theorem Near.trans (h : t.Near ε t') (h' : t'.Near δ t'') : t.Near (ε + δ) t'' := by
  intro k o ho
  obtain ⟨o', ho', hdist⟩ := h k o ho
  obtain ⟨o'', ho'', hdist'⟩ := h' k o' ho'
  refine ⟨o'', ho'', ?_⟩
  calc |o''.health.value - o.health.value|
      ≤ |o''.health.value - o'.health.value| + |o'.health.value - o.health.value| :=
        abs_sub_le _ _ _
    _ ≤ δ k + ε k := add_le_add hdist' hdist
    _ = (ε + δ) k := add_comm _ _

theorem near_evaluate (t : Topology) : t.Near 0 t.evaluate.1 := by
  intro k o ho
  refine ⟨{ o with observed := o.tier }, ?_, ?_⟩
  · rw [organ?_evaluate, ho]
    rfl
  · show |o.health.value - o.health.value| ≤ 0
    rw [sub_self, abs_zero]

end Topology

namespace Limits.Paces

variable {l : Limits} {step : Rat} (hl : l.Paces step) {t t' : Topology} {k : OrganKind}
  {r : Reading}
include hl

theorem feel_eq {o : Organ} (ho : t.organ? k = some o) (hu : o.health.InUnit) {x : Number}
    (hx : l.next k r o.health = .ok x) :
    x.InUnit ∧ |x.value - o.health.value| ≤ step ∧
      t.feel l k r = .ok (t.replace { o with health := x }, Topology.changeOf o x) := by
  obtain ⟨hunit, hstep⟩ := hl.next hu hx
  refine ⟨hunit, hstep, ?_⟩
  unfold Topology.feel
  rw [Topology.organ_eq ho]
  show (l.next k r o.health >>= t.setHealth k) = _
  rw [hx]
  show t.setHealth k x = _
  rw [Topology.setHealth_eq ho hunit.isFinite, Number.toUnit_eq_self hunit]

theorem feel_ok (ht : t.Each Number.InUnit) {c : HealthChange}
    (h : t.feel l k r = .ok (t', c)) :
    ∃ o x, t.organ? k = some o ∧ x.InUnit ∧ |x.value - o.health.value| ≤ step ∧
      t' = t.replace { o with health := x } := by
  obtain ⟨o, ho, hfelt⟩ := ok_of_bind h
  obtain ⟨x, hx, -⟩ := ok_of_bind hfelt
  have ho := Topology.organ?_of_organ ho
  obtain ⟨hunit, hstep, hfeel⟩ := hl.feel_eq ho (ht k o ho) hx
  rw [hfeel] at h
  cases h
  exact ⟨o, x, ho, hunit, hstep, rfl⟩

/-- **A reading moves the health of its organ by a step at most, and no other.** -/
theorem near_feel {c : HealthChange} (ht : t.Each Number.InUnit)
    (h : t.feel l k r = .ok (t', c)) : t.Near (Pi.single k step) t' := by
  obtain ⟨o, x, ho, -, hstep, rfl⟩ := hl.feel_ok ht h
  obtain rfl : o.kind = k := Topology.kind_of_organ? ho
  intro j p hp
  rw [Topology.organ?_replace]
  by_cases hj : j = o.kind
  · subst hj
    obtain rfl : o = p := Option.some.inj (ho.symm.trans hp)
    rw [if_pos rfl, hp]
    refine ⟨_, rfl, ?_⟩
    rwa [Pi.single_eq_same]
  · rw [if_neg hj, Pi.single_eq_of_ne hj]
    exact Topology.near_refl t j p hp

end Limits.Paces
end Organism
