import Organism.Proofs.Health.Gradual
import Organism.Settings.Read

/-!
# Settings that were accepted

* `isLess_true`, `isAtMost_true`   a comparison that holds was one of quantities;
* `ok_of_need`, `ok_of_both`       a check that passes, taken apart;
* `Settings.checkHealth_ok`        all that is looked at in the limits of health;
* `Settings.Numeric`               the numbers in settings that no check looks at;
* `Settings.accepted`              **accepted settings have limits that healths can rely on**;
* `Settings.standard`              what is used where nothing is configured, which is accepted.
-/

namespace Organism

/-! ## comparisons -/

namespace Number

theorem isFinite_of_between {a x b : Number} (ha : a.isFinite = true) (hb : b.isFinite = true)
    (hax : a ≤ x) (hxb : x ≤ b) : x.isFinite = true := by
  cases x with
  | nan => cases a <;> cases hax
  | infinite s =>
    cases s with
    | false =>
      cases b with
      | nan => cases hb
      | infinite s => cases hb
      | minusZero => cases hxb
      | finite q => cases hxb
    | true =>
      cases a with
      | nan => cases ha
      | infinite s => cases ha
      | minusZero => cases hax
      | finite q => cases hax
  | minusZero => rfl
  | finite q => rfl

theorem le_iff_value {a b : Number} (ha : a.isFinite = true) (hb : b.isFinite = true) :
    a ≤ b ↔ a.value ≤ b.value := by
  cases a with
  | nan => cases ha
  | infinite s => cases ha
  | minusZero =>
    cases b with
    | nan => cases hb
    | infinite s => cases hb
    | minusZero => exact le_finite 0 0
    | finite q => exact le_finite 0 q
  | finite p =>
    cases b with
    | nan => cases hb
    | infinite s => cases hb
    | minusZero => exact le_finite p 0
    | finite q => exact le_finite p q

theorem le_trans {a b c : Number} (h : a ≤ b) (k : b ≤ c) : a ≤ c := by
  change a.le b = true at h
  change b.le c = true at k
  show a.le c = true
  cases a <;> cases b <;> cases c <;> simp_all [Number.le] <;> first | linarith | grind

theorem le_of_pos {b : Number} (h : finite 0 < b) : finite 0 ≤ b := by
  cases b with
  | nan => cases h
  | infinite s => exact h
  | minusZero => rfl
  | finite q => exact (le_finite 0 q).mpr ((lt_finite 0 q).mp h).le

end Number

theorem Value.isLess_true {a b : Value} (h : a.isLess b = .ok true) :
    ∃ p q, a.quantity? = some p ∧ b.quantity? = some q ∧ p.exact < q.exact := by
  unfold Value.isLess at h
  split at h
  · next p q hp hq =>
    exact ⟨p, q, hp, hq, of_decide_eq_true (Except.ok.inj h)⟩
  · cases h

theorem Value.isAtMost_true {a b : Value} (h : a.isAtMost b = .ok true) :
    ∃ p q, a.quantity? = some p ∧ b.quantity? = some q ∧ p.exact ≤ q.exact := by
  unfold Value.isAtMost at h
  split at h
  · next p q hp hq =>
    exact ⟨p, q, hp, hq, of_decide_eq_true (Except.ok.inj h)⟩
  · cases h

namespace Settings

theorem ok_of_need {c : Except Fault Bool} {e : SettingsError} (h : need c e = .ok ()) :
    c = .ok true := by
  obtain ⟨b, hb, h⟩ := ok_of_bind h
  cases b with
  | true => exact hb
  | false => cases h

theorem ok_of_both {c d : Except Fault Bool} (h : both c d = .ok true) :
    c = .ok true ∧ d = .ok true := by
  obtain ⟨b, hb, h⟩ := ok_of_bind h
  cases b with
  | true => exact ⟨hb, h⟩
  | false => cases h

/-! ## accepted settings -/

theorem checkHealth_ok {l : Limits} (h : checkHealth l = .ok ()) :
    ∃ p q, l.recoveryStep.quantity? = some p ∧ l.maxStep.quantity? = some q ∧
      Number.finite 0 ≤ p.exact ∧ p.exact ≤ q.exact ∧ Number.finite 0 < q.exact ∧
      q.exact ≤ .finite 1 := by
  obtain ⟨_, hmax, hrec⟩ := ok_of_bind h
  obtain ⟨hmax0, hmax1⟩ := ok_of_both (ok_of_need hmax)
  obtain ⟨hrec0, hrec1⟩ := ok_of_both (ok_of_need hrec)
  obtain ⟨_, q, hz, hq, hq0⟩ := Value.isLess_true hmax0
  obtain ⟨q', _, hq', ho, hq1⟩ := Value.isAtMost_true hmax1
  obtain ⟨_, p, hz', hp, hp0⟩ := Value.isAtMost_true hrec0
  obtain ⟨p', q'', hp', hq'', hpq⟩ := Value.isAtMost_true hrec1
  obtain rfl : q = q' := Option.some.inj (hq.symm.trans hq')
  obtain rfl : q = q'' := Option.some.inj (hq.symm.trans hq'')
  obtain rfl : p = p' := Option.some.inj (hp.symm.trans hp')
  cases ho
  cases hz
  cases hz'
  exact ⟨p, q, hp, hq, hp0, hpq, hq0, hq1⟩

attribute [local instance] Rounding.binary64

/-- what is added to healths and not looked at by a check: greatest penalties and recoveries -/
structure Numeric (s : Settings) : Prop where
  maxPenalties : ∃ entries, s.health.maxPenalties = .map entries ∧ ∀ e ∈ entries, e.2.IsNumeric
  low : s.simulation.low.recovery.IsNumeric
  high : s.simulation.high.recovery.IsNumeric

theorem stepped_of_checkHealth {l : Limits} (h : checkHealth l = .ok ()) : l.Stepped := by
  obtain ⟨p, q, hp, hq, hp0, hpq, hpos, hq1⟩ := checkHealth_ok h
  have hq0 : Number.finite 0 ≤ q.exact := Number.le_of_pos hpos
  have hqf : q.exact.isFinite = true := Number.isFinite_of_between rfl rfl hq0 hq1
  have hpf : p.exact.isFinite = true := Number.isFinite_of_between rfl hqf hp0 hpq
  refine ⟨⟨q, hq, hq0, hq1⟩, ⟨p, hp, hp0, ?_⟩⟩
  rw [Number.le_iff_value hpf hqf] at hpq
  rw [Number.le_iff_value hqf rfl] at hq1
  exact (Number.le_iff_value hpf rfl).mpr (hpq.trans hq1)

/-- **Accepted settings have limits that healths can rely on.** -/
theorem accepted {s : Settings} (hs : Settings.check s = .ok ()) (hn : s.Numeric) :
    s.health.Accepted := by
  obtain ⟨_, _, hs⟩ := ok_of_bind hs
  obtain ⟨_, hh, _⟩ := ok_of_bind hs
  have hsteps := stepped_of_checkHealth hh
  exact ⟨hsteps.maxStep, hsteps.recoveryStep, hn.maxPenalties⟩

/-! ## standard settings -/

def standard : Settings where
  telemetry := .text "sim"
  simLevel := .off
  verbosity := .commands
  scheduler := .standard
  health := .standard
  simulation := .standard
  storage := { StorageSettings.standard with statePath := .ofString "aion_state.txt" }
  logging := { LoggingSettings.standard with file := none }

theorem standard_check : Settings.check standard = .ok () := by
  have h : (Settings.check standard).isOk = true := by decide +kernel
  obtain ⟨⟨⟩, h⟩ := ok_of_isOk h
  exact h

theorem standard_numeric : standard.Numeric := by
  refine ⟨⟨[], rfl, ?_⟩, ?_, ?_⟩
  · intro e he
    cases he
  · exact ⟨_, _, rfl, rfl, Number.is64_round _⟩
  · exact ⟨_, _, rfl, rfl, Number.is64_round _⟩

end Settings
end Organism
