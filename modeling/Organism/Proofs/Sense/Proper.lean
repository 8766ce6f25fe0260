import Organism.Proofs.Health.Gradual
import Organism.Scheduler

/-!
# Senses that give readings of the right kind

* `Senses.Proper`        every reading is of the family that was asked for, and its signals are
                         numbers, finite or not; that it cannot be had is always possible;
* `Proper.read`          **so is the next reading, and the senses stay so**;
* `configured_proper`    the senses that settings name are proper;
* `Senses.Steady`        the same of every organ but the first, whose readings may be anything;
* `Senses.Lasting`       what both have in common: a property that lasts, whatever is read.
-/

namespace Organism

attribute [local instance] Rounding.binary64

/-- every reading is of its family and can be read -/
def Senses.Proper : Senses → Prop
  | .simulated _ => True
  | .host h _ _ => ∃ x, h.fallback.toNumber = .ok x
  | .script answer _ =>
    ∀ n f r, answer n f = .ok r → r.family = f ∧ r.Numeric

/-! ## readings that can be read -/

theorem toNumber_real (x : Number) : ∃ y, (Value.real x).toNumber = .ok y := ⟨x, rfl⟩

theorem toNumber_zero : ∃ y, (Value.whole 0).toNumber = .ok y := ⟨0, rfl⟩

theorem toNumber_one : ∃ y, (Value.whole 1).toNumber = .ok y := by
  obtain ⟨x, hx, -⟩ := Quantity.number_of_exact (q := .whole 1) (by decide) (by decide)
  exact ⟨x, hx⟩

theorem numeric_of_forall {r : Reading}
    (h : r.signals.Forall fun p => ∃ x, p.2.toNumber = .ok x) : r.Numeric :=
  List.forall_iff_forall_mem.mp h

theorem nominal_numeric (f : Family) : f.nominal.Numeric := by
  refine numeric_of_forall ?_
  cases f with
  | cpu => exact ⟨toNumber_real _, toNumber_real _, toNumber_zero, toNumber_real _⟩
  | memory => exact ⟨toNumber_real _, toNumber_real _, toNumber_real _, toNumber_real _⟩
  | io => exact ⟨toNumber_real _, toNumber_real _, toNumber_real _, toNumber_real _⟩

theorem nominal_family (f : Family) : f.nominal.family = f := by cases f <;> rfl

/-! ## simulated readings -/

namespace Simulated

theorem read_family (s : Simulated) (f : Family) : (s.read f).1.family = f := by cases f <;> rfl

theorem readCpu_numeric (s : Simulated) : (Reading.cpu s.readCpu.1).Numeric := by
  unfold readCpu
  dsimp only
  split
  · exact nominal_numeric .cpu
  · exact numeric_of_forall ⟨toNumber_real _, toNumber_real _, toNumber_zero, toNumber_real _⟩
  · refine numeric_of_forall ⟨toNumber_real _, toNumber_real _, ?_, toNumber_real _⟩
    dsimp only
    split
    · exact toNumber_one
    · exact toNumber_zero

theorem readMemory_numeric (s : Simulated) : (Reading.memory s.readMemory.1).Numeric := by
  unfold readMemory
  dsimp only
  split
  · exact nominal_numeric .memory
  · exact numeric_of_forall ⟨toNumber_real _, toNumber_real _, toNumber_real _, toNumber_real _⟩
  · exact numeric_of_forall ⟨toNumber_real _, toNumber_real _, toNumber_real _, toNumber_real _⟩

theorem readIo_numeric (s : Simulated) : (Reading.io s.readIo.1).Numeric := by
  unfold readIo
  dsimp only
  split
  · exact nominal_numeric .io
  · exact nominal_numeric .io
  · exact numeric_of_forall ⟨toNumber_real _, toNumber_real _, toNumber_real _, toNumber_real _⟩

theorem read_numeric (s : Simulated) (f : Family) : (s.read f).1.Numeric := by
  cases f with
  | cpu => exact s.readCpu_numeric
  | memory => exact s.readMemory_numeric
  | io => exact s.readIo_numeric

end Simulated

/-! ## readings of the host -/

namespace Host

variable {h : Host} {c : HostCounters}

theorem readCpu_numeric (hf : ∃ x, h.fallback.toNumber = .ok x) {r : CpuReading}
    (hr : h.readCpu c = .ok r) : (Reading.cpu r).Numeric := by
  obtain ⟨load, -, hr⟩ := ok_of_bind hr
  obtain ⟨temperatures, -, hr⟩ := ok_of_bind hr
  cases hr
  refine numeric_of_forall ⟨?_, toNumber_real _, toNumber_zero, toNumber_real _⟩
  dsimp only
  split
  · exact toNumber_real _
  · exact hf

theorem takeMemory_fallback {ram swap : Share} {latency : Number} {h' : Host}
    (ht : h.takeMemory c = .ok (ram, swap, latency, h')) : h'.fallback = h.fallback := by
  obtain ⟨_, -, ht⟩ := ok_of_bind ht
  obtain ⟨_, -, ht⟩ := ok_of_bind ht
  obtain ⟨_, -, ht⟩ := ok_of_bind ht
  obtain ⟨_, -, ht⟩ := ok_of_bind ht
  cases ht
  rfl

theorem memoryReading_numeric {ram swap : Share} {latency : Number} {r : MemoryReading}
    (hr : memoryReading ram swap latency = .ok r) : (Reading.memory r).Numeric := by
  obtain ⟨ramUsed, -, hr⟩ := ok_of_bind hr
  obtain ⟨swapUsed, -, hr⟩ := ok_of_bind hr
  cases hr
  exact numeric_of_forall ⟨toNumber_real _, toNumber_real _, toNumber_real _, toNumber_real _⟩

theorem readMemory_numeric {r : MemoryReading} (hr : (h.readMemory c).1 = .ok r) :
    (Reading.memory r).Numeric := by
  unfold readMemory at hr
  cases ht : h.takeMemory c with
  | error e =>
    rw [ht] at hr
    cases hr
  | ok taken =>
    rw [ht] at hr
    exact memoryReading_numeric hr

theorem readIo_numeric {r : IoReading} {h' : Host} (hr : h.readIo c = .ok (r, h')) :
    (Reading.io r).Numeric ∧ h'.fallback = h.fallback := by
  obtain ⟨net, -, hr⟩ := ok_of_bind hr
  cases net with
  | none => cases hr
  | some net =>
    obtain ⟨loss, -, hr⟩ := ok_of_bind hr
    obtain ⟨errors, -, hr⟩ := ok_of_bind hr
    cases hr
    refine ⟨numeric_of_forall ?_, rfl⟩
    exact ⟨toNumber_real _, toNumber_real _, toNumber_real _, toNumber_real _⟩

theorem read_fallback (f : Family) : (h.read c f).2.fallback = h.fallback := by
  cases f with
  | cpu => rfl
  | memory =>
    show (h.readMemory c).2.fallback = h.fallback
    unfold readMemory
    cases ht : h.takeMemory c with
    | error e => rfl
    | ok taken => exact takeMemory_fallback ht
  | io =>
    unfold read
    dsimp only
    split
    · next hr => exact (readIo_numeric hr).2
    · rfl

/-- only the temperature of the processor depends on what stands for an unknown one -/
theorem read_numeric {f : Family} (hf : f = .cpu → ∃ x, h.fallback.toNumber = .ok x) {r : Reading}
    (hr : (h.read c f).1 = .ok r) : r.family = f ∧ r.Numeric := by
  cases f with
  | cpu =>
    obtain ⟨q, hq, rfl⟩ := ok_of_map hr
    exact ⟨rfl, readCpu_numeric (hf rfl) hq⟩
  | memory =>
    obtain ⟨q, hq, rfl⟩ := ok_of_map hr
    exact ⟨rfl, readMemory_numeric hq⟩
  | io =>
    unfold read at hr
    dsimp only at hr
    split at hr
    · next hi =>
      cases hr
      exact ⟨rfl, (readIo_numeric hi).1⟩
    · cases hr

end Host

/-! ## senses -/

namespace Senses

def Steady : Senses → Prop
  | .simulated _ => True
  | .host .. => True
  | .script answer _ => ∀ n f r, f ≠ .cpu → answer n f = .ok r → r.family = f ∧ r.Numeric

/-- the property lasts as the senses are used, and with it the readings of every organ but the first
are of their family and can be read -/
structure Lasting (I : Senses → Prop) : Prop where
  setLevel : ∀ {s}, I s → ∀ level, I (s.setLevel level)
  read : ∀ {s}, I s → ∀ f, I (s.read f).2
  fits : ∀ {s}, I s → ∀ {f r}, f ≠ .cpu → (s.read f).1 = .ok r → r.family = f ∧ r.Numeric

variable {s : Senses}

theorem Proper.setLevel (h : s.Proper) (level : SimLevel) : (s.setLevel level).Proper := by
  cases s with
  | simulated _ => exact trivial
  | host _ _ _ => exact h
  | script _ _ => exact h

/-- **The next reading of proper senses is of its family and can be read, and they stay proper.** -/
theorem Proper.read (h : s.Proper) (f : Family) :
    (s.read f).2.Proper ∧ ∀ r, (s.read f).1 = .ok r → r.family = f ∧ r.Numeric := by
  cases s with
  | simulated s =>
    refine ⟨trivial, ?_⟩
    intro r hr
    cases hr
    exact ⟨s.read_family f, s.read_numeric f⟩
  | host host counters reads =>
    refine ⟨?_, fun r hr => Host.read_numeric (fun _ => h) hr⟩
    show ∃ x, (host.read (counters reads) f).2.fallback.toNumber = .ok x
    rw [Host.read_fallback]
    exact h
  | script answer reads => exact ⟨h, h reads f⟩

theorem lasting_proper : Lasting Proper where
  setLevel h level := h.setLevel level
  read h f := (h.read f).1
  fits h _ _ _ hr := (h.read _).2 _ hr

theorem lasting_steady : Lasting Steady where
  setLevel {s} h _ := by
    cases s with
    | simulated _ => exact trivial
    | host _ _ _ => exact trivial
    | script _ _ => exact h
  read {s} h _ := by
    cases s with
    | simulated _ => exact trivial
    | host _ _ _ => exact trivial
    | script _ _ => exact h
  fits {s} h f r hf hr := by
    cases s with
    | simulated s =>
      cases hr
      exact ⟨s.read_family f, s.read_numeric f⟩
    | host _ _ _ => exact Host.read_numeric (fun hcpu => absurd hcpu hf) hr
    | script _ reads => exact h reads f r hf hr

theorem configured_proper {settings : Settings} {counters : Nat → HostCounters}
    (h : Senses.configured settings counters = .ok s) : s.Proper := by
  unfold Senses.configured at h
  split at h
  · obtain ⟨p, -, h⟩ := ok_of_bind h
    cases p with
    | simulation =>
      obtain ⟨seed, -, h⟩ := ok_of_bind h
      cases h
      exact trivial
    | host =>
      cases h
      exact toNumber_real _
  · cases h

end Senses
end Organism
