import Organism.Proofs.Settings.Accepted
import Organism.Settings.Read

/-!
# The ranges of settings

Most checks ask for what a range demands, and nothing outside of it gets through.  The pace of the
ticks and the periods of the daemons are only refused where they compare as too small, which `nan`
does not.

* `not_lt_iff`              what does not compare as too small: `nan`, and what is large enough;
* `Value.NotBelow`          a quantity that a bound from below does not refuse;
* `Settings.InRange`        the ranges of all settings that have one;
* `checkScheduler_iff`, …   one part of the settings after the other;
* `check_iff`               **settings pass the check exactly if they are in range**;
* `check_of_ofValue`, `check_of_ofEnvironment`   all settings that are read have passed it;
* `ofValue_of_check`        how settings are read that are known beforehand.
-/

namespace Organism

/-! ## comparisons -/

theorem Number.not_lt_iff (x : Number) (q : Rat) :
    ¬ x < .finite q ↔ x = .nan ∨ .finite q ≤ x := by
  cases x with
  | nan => exact ⟨fun _ => .inl rfl, fun _ h => by cases h⟩
  | infinite s =>
    cases s with
    | false => exact ⟨fun _ => .inr rfl, fun _ h => by cases h⟩
    | true => exact ⟨fun h => absurd rfl h, fun h => h.elim nofun nofun⟩
  | minusZero =>
    have hlt : (Number.minusZero < .finite q) ↔ 0 < q := lt_finite 0 q
    have hle : (Number.finite q ≤ .minusZero) ↔ q ≤ 0 := le_finite q 0
    rw [hlt, hle, not_lt]
    exact ⟨.inr, fun h => h.resolve_left nofun⟩
  | finite p =>
    rw [lt_finite, le_finite, not_lt]
    exact ⟨.inr, fun h => h.resolve_left nofun⟩

namespace Value

theorem isLess_iff {a b : Value} :
    a.isLess b = .ok true ↔ ∃ p q, a.quantity? = some p ∧ b.quantity? = some q ∧
      p.exact < q.exact := by
  refine ⟨isLess_true, ?_⟩
  rintro ⟨p, q, hp, hq, h⟩
  unfold isLess
  rw [hp, hq]
  exact congrArg Except.ok (decide_eq_true h)

theorem isAtMost_iff {a b : Value} :
    a.isAtMost b = .ok true ↔ ∃ p q, a.quantity? = some p ∧ b.quantity? = some q ∧
      p.exact ≤ q.exact := by
  refine ⟨isAtMost_true, ?_⟩
  rintro ⟨p, q, hp, hq, h⟩
  unfold isAtMost
  rw [hp, hq]
  exact congrArg Except.ok (decide_eq_true h)

/-- the value is a quantity that does not compare as less than the bound -/
def NotBelow (v : Value) (bound : Int) : Prop :=
  ∃ q, v.quantity? = some q ∧ (q.exact = .nan ∨ .finite bound ≤ q.exact)

theorem isLess_whole_iff {v : Value} {n : Int} :
    v.isLess (.whole n) = .ok false ↔ v.NotBelow n := by
  unfold isLess NotBelow
  cases hv : v.quantity? with
  | none => exact ⟨nofun, fun ⟨q, hq, _⟩ => by cases hq⟩
  | some p =>
    have hlt : (Except.ok (decide (p.exact < .finite n)) : Except Fault Bool) = .ok false ↔
        ¬ p.exact < .finite n :=
      ⟨fun h => of_decide_eq_false (Except.ok.inj h), fun h => congrArg _ (decide_eq_false h)⟩
    refine hlt.trans ((Number.not_lt_iff _ _).trans ⟨fun h => ⟨p, rfl, h⟩, ?_⟩)
    rintro ⟨q, hq, h⟩
    cases hq
    exact h

end Value

/-! ## ranges -/

/-- the pace of the ticks and the periods of the daemons are not too small, or `nan` -/
structure SchedulerSettings.InRange (s : SchedulerSettings) : Prop where
  tickInterval : s.tickInterval.NotBelow 0
  heartbeatInterval : s.heartbeatInterval.NotBelow 1
  statusInterval : s.statusInterval.NotBelow 1
  aiInterval : s.aiInterval.NotBelow 1
  simulationInterval : s.simulationInterval.NotBelow 1

/-- the greatest step is positive and at most 1, and the step of recovery lies between 0 and it -/
def Limits.InRange (l : Limits) : Prop :=
  ∃ recovery step, l.recoveryStep.quantity? = some recovery ∧ l.maxStep.quantity? = some step ∧
    .finite 0 < step.exact ∧ step.exact ≤ .finite 1 ∧
    .finite 0 ≤ recovery.exact ∧ recovery.exact ≤ step.exact

def Intensity.InRange (i : Intensity) : Prop :=
  ∃ p low high, i.faultProbability.quantity? = some p ∧ i.damageMin.quantity? = some low ∧
    i.damageMax.quantity? = some high ∧ .finite 0 ≤ p.exact ∧ p.exact ≤ .finite 1 ∧
    .finite 0 ≤ low.exact ∧ low.exact ≤ high.exact ∧ high.exact ≤ .finite 1

structure Settings.InRange (s : Settings) : Prop where
  scheduler : s.scheduler.InRange
  health : s.health.InRange
  low : s.simulation.low.InRange
  high : s.simulation.high.InRange

namespace Settings

/-! ## checks -/

theorem ok_of_seq {x y : Except Fault Unit} :
    (do x; y) = .ok () ↔ x = .ok () ∧ y = .ok () := by
  cases x with
  | error e => exact ⟨nofun, fun h => by cases h.1⟩
  | ok u => exact ⟨fun h => ⟨rfl, h⟩, fun h => h.2⟩

theorem need_iff {c : Except Fault Bool} {e : SettingsError} :
    need c e = .ok () ↔ c = .ok true := by
  refine ⟨ok_of_need, ?_⟩
  rintro rfl
  rfl

theorem deny_iff {c : Except Fault Bool} {e : SettingsError} :
    deny c e = .ok () ↔ c = .ok false := by
  cases c with
  | error e => exact ⟨nofun, nofun⟩
  | ok b =>
    cases b with
    | true => exact ⟨nofun, nofun⟩
    | false => exact ⟨fun _ => rfl, fun _ => rfl⟩

theorem both_iff {c d : Except Fault Bool} :
    both c d = .ok true ↔ c = .ok true ∧ d = .ok true := by
  refine ⟨ok_of_both, ?_⟩
  rintro ⟨rfl, rfl⟩
  rfl

theorem checkScheduler_iff {s : SchedulerSettings} :
    checkScheduler s = .ok () ↔ s.InRange := by
  unfold checkScheduler
  simp only [ok_of_seq, deny_iff, Value.isLess_whole_iff]
  constructor
  · rintro ⟨h₁, h₂, h₃, h₄, h₅⟩
    exact ⟨h₁, h₂, h₃, h₄, h₅⟩
  · rintro ⟨h₁, h₂, h₃, h₄, h₅⟩
    exact ⟨h₁, h₂, h₃, h₄, h₅⟩

theorem checkHealth_iff {l : Limits} : checkHealth l = .ok () ↔ l.InRange := by
  constructor
  · intro h
    obtain ⟨p, q, hp, hq, hp0, hpq, hq0, hq1⟩ := checkHealth_ok h
    exact ⟨p, q, hp, hq, hq0, hq1, hp0, hpq⟩
  · rintro ⟨p, q, hp, hq, hq0, hq1, hp0, hpq⟩
    unfold checkHealth
    simp only [ok_of_seq, need_iff, both_iff, Value.isLess_iff, Value.isAtMost_iff]
    exact ⟨⟨⟨.real 0, q, rfl, hq, hq0⟩, q, .real 1, hq, rfl, hq1⟩,
      ⟨.real 0, p, rfl, hp, hp0⟩, p, q, hp, hq, hpq⟩

theorem checkIntensity_iff {level : SimLevel} {i : Intensity} :
    checkIntensity level i = .ok () ↔ i.InRange := by
  unfold checkIntensity
  simp only [ok_of_seq, need_iff, both_iff, Value.isAtMost_iff]
  constructor
  · rintro ⟨⟨⟨_, p, hz, hp, hp0⟩, p', _, hp', ho, hp1⟩, ⟨_, low, hz', hlow, hlow0⟩,
      ⟨low', high, hlow', hhigh, hle⟩, high', _, hhigh', ho', hhigh1⟩
    cases hz
    cases ho
    cases hz'
    cases ho'
    obtain rfl : p = p' := Option.some.inj (hp.symm.trans hp')
    obtain rfl : low = low' := Option.some.inj (hlow.symm.trans hlow')
    obtain rfl : high = high' := Option.some.inj (hhigh.symm.trans hhigh')
    exact ⟨p, low, high, hp, hlow, hhigh, hp0, hp1, hlow0, hle, hhigh1⟩
  · rintro ⟨p, low, high, hp, hlow, hhigh, hp0, hp1, hlow0, hle, hhigh1⟩
    exact ⟨⟨⟨.real 0, p, rfl, hp, hp0⟩, p, .real 1, hp, rfl, hp1⟩,
      ⟨.real 0, low, rfl, hlow, hlow0⟩, ⟨low, high, hlow, hhigh, hle⟩, high, .real 1, hhigh, rfl,
      hhigh1⟩

/-- **Settings pass the check exactly if they are in range.** -/
theorem check_iff {s : Settings} : Settings.check s = .ok () ↔ s.InRange := by
  unfold Settings.check
  simp only [ok_of_seq, checkScheduler_iff, checkHealth_iff, checkIntensity_iff]
  constructor
  · rintro ⟨h₁, h₂, h₃, h₄⟩
    exact ⟨h₁, h₂, h₃, h₄⟩
  · rintro ⟨h₁, h₂, h₃, h₄⟩
    exact ⟨h₁, h₂, h₃, h₄⟩

/-! ## settings that are read -/

section
variable [Rounding] {s : Settings}

theorem ofEntries_ok {entries : List (Value × Value)} (h : ofEntries entries = .ok s) :
    ∃ raw, entries.foldlM overlay RawSettings.standard = .ok raw ∧ refine raw = .ok s ∧
      Settings.check s = .ok () := by
  obtain ⟨raw, hraw, h⟩ := ok_of_bind h
  obtain ⟨t, hrefine, h⟩ := ok_of_bind h
  obtain ⟨⟨⟩, hcheck, h⟩ := ok_of_bind h
  cases h
  exact ⟨raw, hraw, hrefine, hcheck⟩

theorem check_of_ofEntries {entries : List (Value × Value)} (h : ofEntries entries = .ok s) :
    Settings.check s = .ok () := by
  obtain ⟨raw, -, -, hcheck⟩ := ofEntries_ok h
  exact hcheck

theorem check_of_ofValue {v : Value} (h : ofValue v = .ok s) : Settings.check s = .ok () := by
  obtain ⟨entries, -, h⟩ := ok_of_bind h
  exact check_of_ofEntries h

/-- a document whose entries spell settings that pass the check is read as these settings -/
theorem ofValue_of_check {v : Value}
    (hread : ofValue v = (Settings.check s >>= fun _ => .ok s))
    (hc : (Settings.check s).isOk = true) : ofValue v = .ok s := by
  obtain ⟨⟨⟩, hc⟩ := ok_of_isOk hc
  rw [hread, hc]
  rfl

theorem check_of_ofFile {files : FileSystem} {path : FilePath} {notes : List LogRecord}
    (h : ofFile files path = .ok (s, notes)) : Settings.check s = .ok () := by
  obtain ⟨text, -, h⟩ := ok_of_bind h
  obtain ⟨v, -, h⟩ := ok_of_bind h
  have hread : ∃ entries, ofEntries entries = .ok s := by
    dsimp only at h
    split at h
    · obtain ⟨entries, -, h⟩ := ok_of_bind h
      obtain ⟨t, ht, h⟩ := ok_of_bind h
      cases h
      exact ⟨entries, ht⟩
    · split at h
      · obtain ⟨entries, -, h⟩ := ok_of_bind h
        obtain ⟨t, ht, h⟩ := ok_of_bind h
        cases h
        exact ⟨entries, ht⟩
      · cases h
  obtain ⟨entries, hread⟩ := hread
  exact check_of_ofEntries hread

theorem check_of_ofEnvironment {files : FileSystem} {env : List (String × String)}
    {notes : List LogRecord} (h : ofEnvironment files env = .ok (s, notes)) :
    Settings.check s = .ok () := by
  unfold ofEnvironment at h
  dsimp only at h
  split at h
  · obtain ⟨⟨t, notes'⟩, hread, h⟩ := ok_of_bind h
    have ht : Settings.check t = .ok () := check_of_ofFile hread
    cases h
    split <;> split <;> exact ht
  · obtain ⟨⟨t, notes'⟩, hread, h⟩ := ok_of_bind h
    have ht : Settings.check t = .ok () := by
      cases he : ofEntries [] with
      | error e =>
        rw [he] at hread
        cases hread
      | ok u =>
        rw [he] at hread
        cases hread
        exact check_of_ofEntries he
    cases h
    split <;> split <;> exact ht

end
end Settings
end Organism
