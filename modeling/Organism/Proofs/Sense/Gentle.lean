import Organism.Proofs.Health.Mild
import Organism.Sense.Senses

/-!
# Simulated readings that are mild

While the level of the simulation is not high, its readings follow the phase so closely below the
thresholds that noise of a quarter cannot lift a signal above one.  The closest is the memory at the
end of a phase: 0.35 + 0.15 · 59/60 + 0.25 is less than 0.75.

* `Value.Under`          a value that is a finite number and at most a bound;
* `mild_of_under`        a reading is mild if its signals are under the thresholds of its family;
* `Simulated.Quiet`      noise of a quarter at most, whichever deviates are used;
* `Simulated.Gentle`     a quiet simulation at a level that is not high;
* `phase_has`            the place in the phase is below 1 by a sixtieth;
* `Gentle.read`          **a gentle simulation gives a mild reading, and stays gentle**;
* `Simulated.useAll`     readings of the families in any order, with the level switched in between;
* `Gentle.useAll`        **all of them are mild**, as long as the level is not switched to high.
-/

namespace Organism

attribute [local instance] Rounding.exact

/-! ## signals below their thresholds -/

def Value.Under (v : Value) (bound : Rat) : Prop :=
  ∃ x q, v.toNumber = .ok x ∧ x.Has q ∧ q ≤ bound

theorem under_real {x : Number} {q bound : Rat} (hx : x.Has q) (h : q ≤ bound) :
    (Value.real x).Under bound := ⟨x, q, rfl, hx, h⟩

theorem under_zero {bound : Rat} (h : 0 ≤ bound) : (Value.whole 0).Under bound :=
  ⟨_, 0, rfl, ⟨rfl, rfl⟩, h⟩

def Family.thresholds : Family → List Rat
  | .cpu => [60, 9 / 10, 0, 9 / 10]
  | .memory => [3 / 4, 1 / 4, 5, 20]
  | .io => [0, 100, 4 / 5, 0]

theorem thresholds_signals (r : Reading) :
    r.signals.map (·.1.threshold.value) = r.family.thresholds := by
  cases r with
  | cpu r =>
    show [Rule.cpuTemperature, .cpuLoad, .throttling, .gpuMemory].map (·.threshold.value) =
      Family.cpu.thresholds
    decide +kernel
  | memory r =>
    show [Rule.ramUsed, .swapUsed, .pageFaults, .diskLatency].map (·.threshold.value) =
      Family.memory.thresholds
    decide +kernel
  | io r =>
    show [Rule.packetLoss, .netLatency, .queueDepth, .errorRate].map (·.threshold.value) =
      Family.io.thresholds
    decide +kernel

theorem mild_of_under {r : Reading}
    (h : List.Forall₂ Value.Under (r.signals.map (·.2)) r.family.thresholds) : r.Mild := by
  rw [← thresholds_signals, List.forall₂_map_left_iff, List.forall₂_map_right_iff,
    List.forall₂_same] at h
  exact h

theorem mild_nominal (f : Family) : f.nominal.Mild := by
  have hreal : ∀ {q bound : Rat}, q ≤ bound → (Value.real (.finite q)).Under bound :=
    fun h => under_real (Number.has_finite _) h
  cases f with
  | cpu =>
    exact mild_of_under (.cons (hreal (by norm_num)) (.cons (hreal (by norm_num))
      (.cons (under_zero (le_refl 0)) (.cons (hreal (by norm_num)) .nil))))
  | memory =>
    exact mild_of_under (.cons (hreal (by norm_num)) (.cons (hreal (by norm_num))
      (.cons (hreal (by norm_num)) (.cons (hreal (by norm_num)) .nil))))
  | io =>
    exact mild_of_under (.cons (hreal (by norm_num)) (.cons (hreal (by norm_num))
      (.cons (hreal (by norm_num)) (.cons (hreal (by norm_num)) .nil))))

namespace Simulated

variable {s : Simulated}

/-! ## noise -/

/-- no noise is more than a quarter, whichever deviate it is made of -/
def Quiet (s : Simulated) : Prop := ∀ n, ({ s with drawn := n } : Simulated).noise.1.abs ≤ 0.25

theorem noise_fst (s : Simulated) :
    s.noise.1 = if s.jitter ≤ 0 then 0 else 0 + s.jitter * s.deviate s.drawn := by
  unfold noise
  split <;> rfl

theorem Quiet.of_eq (h : s.Quiet) {s' : Simulated} (hjitter : s'.jitter = s.jitter)
    (hdeviate : s'.deviate = s.deviate) : s'.Quiet := by
  intro n
  have hn := h n
  rw [noise_fst] at hn ⊢
  dsimp only at hn ⊢
  rwa [hjitter, hdeviate]

theorem Quiet.setLevel (h : s.Quiet) (level : SimLevel) : ({ s with level } : Simulated).Quiet :=
  h.of_eq rfl rfl

theorem Quiet.noise (h : s.Quiet) : ∃ q, s.noise.1.Has q ∧ -0.25 ≤ q ∧ q ≤ 0.25 :=
  Number.has_of_abs_le (h s.drawn)

/-- a quiet simulation at a level that is not high -/
structure Gentle (s : Simulated) : Prop where
  quiet : s.Quiet
  mild : s.level ≠ .high

theorem Gentle.advance (h : s.Gentle) : s.advance.Gentle := ⟨h.quiet.of_eq rfl rfl, h.mild⟩

theorem Gentle.afterNoise (h : s.Gentle) : s.noise.2.Gentle := by
  unfold Simulated.noise
  split
  · exact h
  · exact ⟨h.quiet.of_eq rfl rfl, h.mild⟩

/-! ## the phase -/

theorem phase_has (s : Simulated) : ∃ p, s.phase.Has p ∧ 0 ≤ p ∧ p ≤ 59 / 60 := by
  have hle : s.step % phaseSteps ≤ 59 := by
    have hlt : s.step % phaseSteps < phaseSteps := Nat.mod_lt _ (by decide)
    unfold phaseSteps at hlt ⊢
    omega
  have hcast : ((s.step % phaseSteps : Nat) : Rat) ≤ 59 := by exact_mod_cast hle
  have hsteps : ((phaseSteps : Nat) : Rat) = 60 := by
    unfold phaseSteps
    norm_num
  refine ⟨(s.step % phaseSteps : Nat) / 60, ?_, by positivity, by linarith⟩
  unfold phase
  rw [hsteps]
  exact (Number.has_finite _).div (Number.has_finite 60) (by norm_num)

/-! ## readings -/

theorem under_ratio {x : Number} {q bound : Rat} (hx : x.Has q) (h0 : 0 ≤ bound) (h : q ≤ bound) :
    (ratio x).Under bound :=
  under_real hx.clipUnit ((min_le_left _ _).trans (max_le h h0))

theorem Gentle.readCpu (h : s.Gentle) : (Reading.cpu s.readCpu.1).Mild ∧ s.readCpu.2.Gentle := by
  have hs := h.advance
  unfold Simulated.readCpu
  generalize s.advance = s at hs
  dsimp only
  cases hlevel : s.level with
  | off => exact ⟨mild_nominal .cpu, hs⟩
  | high => exact absurd hlevel hs.mild
  | low =>
    refine ⟨?_, hs.afterNoise.afterNoise⟩
    obtain ⟨p, hp, hp0, hp1⟩ := s.phase_has
    obtain ⟨a, ha, -, ha1⟩ := hs.quiet.noise
    have hmiddle : |p - 0.5| ≤ 0.5 := abs_le.mpr ⟨by linarith, by linarith⟩
    refine mild_of_under (.cons ?_ (.cons ?_ (.cons (under_zero (le_refl 0)) (.cons ?_ .nil))))
    · refine under_real ((Number.has_finite 45.0).add (hp.mul (Number.has_finite 10.0))) ?_
      linarith
    · have hload := ((Number.has_finite 0.2).add
        ((Number.has_finite 0.25).mul (hp.sub (Number.has_finite 0.5)).abs)).add ha
      exact under_ratio hload (by norm_num) (by linarith)
    · have hgpu := (Number.has_finite 0.10).add
        ((Number.has_finite 0.15).mul ((Number.has_finite 1.0).sub hp))
      exact under_ratio hgpu (by norm_num) (by linarith)

theorem Gentle.readMemory (h : s.Gentle) :
    (Reading.memory s.readMemory.1).Mild ∧ s.readMemory.2.Gentle := by
  have hs := h.advance
  unfold Simulated.readMemory
  generalize s.advance = s at hs
  dsimp only
  cases hlevel : s.level with
  | off => exact ⟨mild_nominal .memory, hs⟩
  | high => exact absurd hlevel hs.mild
  | low =>
    refine ⟨?_, hs.afterNoise⟩
    obtain ⟨p, hp, hp0, hp1⟩ := s.phase_has
    obtain ⟨a, ha, -, ha1⟩ := hs.quiet.noise
    refine mild_of_under (.cons ?_ (.cons (under_real (Number.has_finite _) (by norm_num))
      (.cons (under_real (Number.has_finite _) (by norm_num)) (.cons ?_ .nil))))
    · have hram := ((Number.has_finite 0.35).add ((Number.has_finite 0.15).mul hp)).add ha
      exact under_ratio hram (by norm_num) (by linarith)
    · refine under_real ((Number.has_finite 3.0).add ((Number.has_finite 2.0).mul hp)) ?_
      linarith

theorem Gentle.readIo (h : s.Gentle) : (Reading.io s.readIo.1).Mild ∧ s.readIo.2.Gentle := by
  have hs := h.advance
  unfold Simulated.readIo
  generalize s.advance = s at hs
  dsimp only
  cases hlevel : s.level with
  | off => exact ⟨mild_nominal .io, hs⟩
  | low => exact ⟨mild_nominal .io, hs⟩
  | high => exact absurd hlevel hs.mild

/-- **A gentle simulation gives a mild reading, and stays gentle.** -/
theorem Gentle.read (h : s.Gentle) (f : Family) :
    (s.read f).1.Mild ∧ (s.read f).2.Gentle := by
  cases f with
  | cpu => exact h.readCpu
  | memory => exact h.readMemory
  | io => exact h.readIo

theorem read_organ (s : Simulated) (f : Family) : (s.read f).1.organ = f.organ := by
  cases f <;> rfl

/-! ## any use of a simulation -/

inductive Use where
  | read (f : Family)
  | switch (level : SimLevel)

structure Given where
  family : Family
  reading : Reading

def useAll (s : Simulated) : List Use → List Given × Simulated
  | [] => ([], s)
  | .read f :: us =>
    let (r, s) := s.read f
    let (given, s) := s.useAll us
    (⟨f, r⟩ :: given, s)
  | .switch level :: us => useAll { s with level } us

/-- **All readings of a gentle simulation are mild**, and it stays gentle, as long as its level is
not switched to high. -/
theorem Gentle.useAll (h : s.Gentle) {us : List Use} (hus : .switch .high ∉ us) :
    (∀ g ∈ (s.useAll us).1, g.reading.Mild ∧ g.reading.organ = g.family.organ) ∧
      (s.useAll us).2.Gentle := by
  induction us generalizing s with
  | nil => exact ⟨List.forall_mem_nil _, h⟩
  | cons u us ih =>
    rw [List.mem_cons, not_or] at hus
    cases u with
    | read f =>
      obtain ⟨hmild, hgentle⟩ := h.read f
      obtain ⟨hmilds, hgentles⟩ := ih hgentle hus.2
      exact ⟨List.forall_mem_cons.mpr ⟨⟨hmild, s.read_organ f⟩, hmilds⟩, hgentles⟩
    | switch level =>
      have hlevel : level ≠ .high := fun e => hus.1 (congrArg Use.switch e.symm)
      exact ih ⟨h.quiet.setLevel level, hlevel⟩ hus.2

end Simulated
end Organism
