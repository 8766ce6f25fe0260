import Organism.Proofs.Health.Exact
import Organism.Proofs.Health.Listing
import Organism.Proofs.Settings.Ranges

/-!
# Readings that cost nothing

A reading none of whose signals is above its threshold has no penalties, whatever the limits are.
Its organ recovers then, and as long as no step of the limits is below zero its health does not
sink, in exact arithmetic.

* `Number.Has`            a finite number with its value, with one rule for each operation;
* `Reading.Mild`          readings without a signal above its threshold;
* `Mild.penalties`        **they have no penalties**;
* `Limits.Recovering`     limits that have no step below zero, as all that were accepted;
* `Topology.Risen`        every organ is still there, with a health that is not lower;
* `Risen.feel`            **a mild reading lowers no health**.
-/

namespace Organism

attribute [local instance] Rounding.exact

/-! ## values of calculations -/

structure Number.Has (x : Number) (q : Rat) : Prop where
  isFinite : x.isFinite = true
  value : x.value = q

namespace Number

theorem has_finite (q : Rat) : (finite q).Has q := ⟨rfl, rfl⟩

namespace Has

variable {x y : Number} {p q : Rat} (hx : x.Has p)
include hx

theorem add (hy : y.Has q) : (x + y).Has (p + q) := by
  obtain ⟨hf, hv⟩ := value_add hx.isFinite hy.isFinite
  exact ⟨hf, by rw [hv, hx.value, hy.value]⟩

theorem sub (hy : y.Has q) : (x - y).Has (p - q) := by
  obtain ⟨hf, hv⟩ := value_sub hx.isFinite hy.isFinite
  exact ⟨hf, by rw [hv, hx.value, hy.value]⟩

theorem mul (hy : y.Has q) : (x * y).Has (p * q) := by
  obtain ⟨hf, hv⟩ := value_mul hx.isFinite hy.isFinite
  exact ⟨hf, by rw [hv, hx.value, hy.value]⟩

theorem div (hy : y.Has q) (hq : q ≠ 0) : (x / y).Has (p / q) := by
  obtain ⟨hf, hv⟩ := value_div hx.isFinite hy.isFinite (hy.value ▸ hq)
  exact ⟨hf, by rw [hv, hx.value, hy.value]⟩

theorem abs : x.abs.Has |p| := ⟨isFinite_abs hx.isFinite, by rw [value_abs, hx.value]⟩

theorem clipUnit : x.clipUnit.Has (min (max p 0) 1) := by
  obtain ⟨hf, hv⟩ := value_clipUnit hx.isFinite
  exact ⟨hf, by rw [hv, hx.value]⟩

end Has

theorem has_of_abs_le {x : Number} {q : Rat} (h : x.abs ≤ finite q) :
    ∃ p, x.Has p ∧ -q ≤ p ∧ p ≤ q := by
  have hx : x.isFinite = true := by
    cases x with
    | nan => cases h
    | infinite s => cases s <;> cases h
    | minusZero => rfl
    | finite p => rfl
  rw [le_iff_value (isFinite_abs hx) rfl, value_abs] at h
  obtain ⟨hlow, hhigh⟩ := abs_le.mp h
  exact ⟨x.value, ⟨hx, rfl⟩, hlow, hhigh⟩

theorem le_clip_add {c y : Number} (hc : c.InUnit) (hy : finite 0 ≤ y) :
    c ≤ (c + y).clipUnit ∧ (c + y).clipUnit.InUnit := by
  obtain ⟨p, rfl, h0, h1⟩ := hc
  cases y with
  | nan => cases hy
  | infinite s =>
    cases s with
    | false => exact ⟨(le_finite p 1).mpr h1, inUnit_one⟩
    | true => cases hy
  | minusZero =>
    rw [finite_add p rfl, clipUnit_finite, le_finite]
    have hsum : p + minusZero.value = p := add_zero p
    rw [hsum, max_eq_left h0, min_eq_left h1]
    exact ⟨le_refl p, p, rfl, h0, h1⟩
  | finite q =>
    rw [finite_add p rfl, clipUnit_finite, le_finite]
    have hq : 0 ≤ q := (le_finite 0 q).mp hy
    have hle : p ≤ min (max (p + q) 0) 1 := le_min (le_max_of_le_left (by linarith)) h1
    exact ⟨hle, _, rfl, h0.trans hle, min_le_right _ _⟩

end Number

/-! ## mild readings -/

/-- every signal is a finite number that is not above the threshold of its rule -/
def Reading.Mild (r : Reading) : Prop :=
  ∀ s ∈ r.signals, ∃ x q, s.2.toNumber = .ok x ∧ x.Has q ∧ q ≤ s.1.threshold.value

theorem mapM_nil {ε α β : Type} {f : α → Except ε (List β)} {as : List α}
    (h : ∀ a ∈ as, f a = .ok []) : as.mapM f = .ok (as.map fun _ => []) := by
  induction as with
  | nil => rfl
  | cons a as ih =>
    rw [List.mapM_cons, h a (List.mem_cons_self ..), ih fun c hc => h c (List.mem_cons_of_mem _ hc)]
    rfl

/-- **A reading without a signal above its threshold has no penalties**, whatever the limits. -/
theorem Reading.Mild.penalties {r : Reading} (h : r.Mild) (l : Limits) :
    r.penalties l r.organ = .ok [] := by
  have hsignal : ∀ s ∈ r.signals, signalPenalty l r.organ s.1 s.2 = .ok [] := by
    intro s hs
    obtain ⟨x, q, hx, hq, hle⟩ := h s hs
    have hrule := r.isMeasure_signals s hs
    have hmild : ¬ 0 < s.1.severity x := by
      rw [Rule.severity_pos hrule hq.isFinite, Number.lt_iff_value hrule.1 hq.isFinite, hq.value]
      exact not_lt.mpr hle
    unfold signalPenalty
    rw [hx]
    show (if !x.isFinite then _ else if 0 < s.1.severity x then _ else _) = _
    rw [hq.isFinite, if_neg hmild]
    rfl
  have hfound : (r.signals.mapM fun s => signalPenalty l r.organ s.1 s.2) = _ := mapM_nil hsignal
  unfold Reading.penalties
  rw [if_neg (not_not.mpr rfl)]
  show ((r.signals.mapM fun s => signalPenalty l r.organ s.1 s.2) >>= _) = _
  rw [hfound]
  show Except.ok (List.flatten _) = _
  simp

/-! ## recovery -/

def Limits.Recovering (l : Limits) : Prop :=
  ∀ v ∈ [l.recoveryStep, l.maxStep], ∀ q, v.quantity? = some q → ¬ q.exact < .finite 0

theorem Settings.recovering_of_checkHealth {l : Limits} (h : checkHealth l = .ok ()) :
    l.Recovering := by
  obtain ⟨p, q, hp, hq, hp0, -, hq0, -⟩ := checkHealth_ok h
  intro v hv q' hq'
  rw [Number.not_lt_iff]
  simp only [List.mem_cons, List.not_mem_nil, or_false] at hv
  rcases hv with rfl | rfl
  · rw [Option.some.inj (hq'.symm.trans hp)]
    exact .inr hp0
  · rw [Option.some.inj (hq'.symm.trans hq)]
    exact .inr (Number.le_of_pos hq0)

namespace Limits.Recovering

variable {l : Limits} (hl : l.Recovering)
include hl

theorem change {y : Number} (h : l.change [] = .ok y) : y = .nan ∨ .finite 0 ≤ y := by
  obtain ⟨v, hv, h⟩ := ok_of_bind h
  have hstep : v ∈ [l.recoveryStep, l.maxStep] := by
    rcases Value.smaller_cases hv with rfl | rfl <;> simp
  cases hq : v.quantity? with
  | none =>
    unfold Value.operand at h
    rw [hq] at h
    cases h
  | some q =>
    rw [Value.operand_eq hq, Quantity.number_exact] at h
    cases h
    exact (Number.not_lt_iff _ _).mp (hl v hstep q hq)

theorem next {k : OrganKind} {r : Reading} (hr : r.penalties l k = .ok []) {c x : Number}
    (hc : c.InUnit) (h : l.next k r c = .ok x) (hx : x.isFinite = true) :
    c ≤ x ∧ x.InUnit := by
  obtain ⟨ps, hps, h⟩ := ok_of_bind h
  obtain rfl : [] = ps := Except.ok.inj (hr.symm.trans hps)
  obtain ⟨y, hy, h⟩ := ok_of_bind h
  cases h
  rcases hl.change hy with rfl | hy
  · obtain ⟨p, rfl, -, -⟩ := hc
    cases hx
  · exact Number.le_clip_add hc hy

end Limits.Recovering

/-! ## healths that do not sink -/

namespace Topology

variable {t t' t'' : Topology}

/-- every organ is still there, its health is not lower, and all healths are in the interval -/
structure Risen (t t' : Topology) : Prop where
  rises : ∀ k o, t.organ? k = some o → ∃ o', t'.organ? k = some o' ∧ o.health ≤ o'.health
  inUnit : t'.Each Number.InUnit

theorem risen_refl (h : t.Each Number.InUnit) : t.Risen t := by
  refine ⟨fun k o ho => ⟨o, ho, ?_⟩, h⟩
  obtain ⟨q, hq, -, -⟩ := h k o ho
  rw [hq]
  exact (Number.le_finite q q).mpr (le_refl q)

theorem Risen.evaluate (h : t.Risen t') : t.Risen t'.evaluate.1 := by
  refine ⟨fun k o ho => ?_, h.inUnit.evaluate⟩
  obtain ⟨o', ho', hle⟩ := h.rises k o ho
  refine ⟨{ o' with observed := o'.tier }, ?_, hle⟩
  rw [organ?_evaluate, ho']
  rfl

/-- **A reading without penalties lowers no health.** -/
theorem Risen.feel {l : Limits} (hl : l.Recovering) {k : OrganKind} {r : Reading}
    (hr : r.penalties l k = .ok []) {c : HealthChange} (h : t.Risen t')
    (hf : t'.feel l k r = .ok (t'', c)) : t.Risen t'' := by
  obtain ⟨o, ho, hf⟩ := ok_of_bind hf
  obtain ⟨x, hx, hf⟩ := ok_of_bind hf
  obtain ⟨p, hp, hf⟩ := ok_of_bind hf
  obtain rfl : o = p := Except.ok.inj (ho.symm.trans hp)
  obtain ⟨hxf, e⟩ := write_eq_ok hf
  cases e
  have ho := organ?_of_organ ho
  obtain ⟨hle, hunit⟩ := hl.next hr (h.inUnit k o ho) hx hxf
  rw [Number.toUnit_eq_self hunit]
  refine ⟨fun j q hq => ?_, h.inUnit.replace hunit⟩
  obtain ⟨q', hq', hqle⟩ := h.rises j q hq
  rw [organ?_replace]
  by_cases hj : j = o.kind
  · rw [if_pos hj, hq']
    obtain rfl : o.kind = k := kind_of_organ? ho
    obtain rfl : o = q' := Option.some.inj (ho.symm.trans (hj ▸ hq'))
    exact ⟨_, rfl, Number.le_trans hqle hle⟩
  · rw [if_neg hj]
    exact ⟨q', hq', hqle⟩

end Topology
end Organism
