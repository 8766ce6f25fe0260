import Organism.Proofs.Daemon.Coherence
import Organism.Proofs.Request.Accepted

/-!
# Daemons that crash

A daemon that fails in the middle of its run leaves behind what it did before.  None of them sets
the awareness and fails after that, so a failure leaves the old awareness on the bus; what matters
is whether a health was written before it.

* `Body.Unwritten`, `Body.Behind`   no organ and no awareness has changed; healths may have, but not
                                    the awareness;
* `Body.upcoming`                   the readings that the next run of the status daemon gets;
* `leads_status_or_breaks`          **the status daemon fails before it has written a health, or at
                                    a broken reading of a later organ**;
* `Body.Tears`                      when a daemon may fail after a write.
-/

namespace Organism

attribute [local instance] Rounding.binary64

open Act Body

/-! ## what a failure leaves behind -/

namespace Body

/-- neither an organ nor the awareness has changed -/
def Unwritten (b c : Body) : Prop :=
  c.topology = b.topology ∧ c.bus.awareness = b.bus.awareness

/-- healths may have been written, but the awareness is the old one -/
def Behind (b c : Body) : Prop := c.topology.Whole ∧ c.bus.awareness = b.bus.awareness

variable {b : Body}

theorem narrow_unwritten (b : Body) : Narrow b.Unwritten := by
  rintro c c' ht - ha ⟨h, h'⟩
  exact ⟨ht.trans h, ha.trans h'⟩

theorem narrow_behind (b : Body) : Narrow b.Behind := by
  rintro c c' ht - ha ⟨h, h'⟩
  refine ⟨?_, ha.trans h'⟩
  rw [ht]
  exact h

theorem Unwritten.behind {c : Body} (hb : b.topology.Whole) (h : b.Unwritten c) : b.Behind c := by
  refine ⟨?_, h.2⟩
  rw [h.1]
  exact hb

theorem stages_crash (hb : b.topology.Whole) : Stages b.Unwritten b.Behind Aware where
  before := narrow_unwritten b
  between := narrow_behind b
  after := narrow_aware
  start h := h.behind hb
  whole h := h.1
  write h ht := ⟨ht, h.2⟩
  refresh h hx := aware_setAwareness h.1 hx

end Body

/-! ## readings that are still to come -/

def Senses.before (s : Senses) : OrganKind → Senses
  | .cortex => s
  | .memory => (s.read .cpu).2
  | .ioBridge => ((s.read .cpu).2.read .memory).2

/-- the reading of an organ that the next run of the status daemon gets -/
def Body.upcoming (b : Body) (k : OrganKind) : Except Fault Reading :=
  (((b.senses.setLevel b.bus.simLevel).before k).read k.family).1

/-- the reading of an organ after the first one is broken -/
def Body.BreaksLate (l : Limits) (b : Body) : Prop :=
  ∃ k r, k ≠ .cortex ∧ b.upcoming k = .ok r ∧ r.Broken l k

namespace Duty

theorem leads_attempt_next (b : Body) (s : Senses) (k : OrganKind) :
    Leads (fun c => b.Unwritten c ∧ c.senses = s) (attempt k (sense k.family))
      (fun o c => (b.Unwritten c ∧ c.senses = (s.read k.family).2) ∧
        ∀ r, o = some r → (s.read k.family).1 = .ok r)
      fun _ => b.Unwritten := by
  have hN : Narrow fun c => b.Unwritten c ∧ c.senses = (s.read k.family).2 := by
    rintro c c' ht hs ha ⟨h, h'⟩
    exact ⟨narrow_unwritten b c c' ht hs ha h, hs.trans h'⟩
  have hsense : Leads (fun c => b.Unwritten c ∧ c.senses = s) (sense k.family)
      (fun r c => (b.Unwritten c ∧ c.senses = (s.read k.family).2) ∧ (s.read k.family).1 = .ok r)
      fun e c => (IsUnavailable e ∧ b.Unwritten c ∧ c.senses = (s.read k.family).2) ∨
        (¬ IsUnavailable e ∧ b.Unwritten c) := by
    unfold sense
    refine leads_bind (Q := fun c c' => b.Unwritten c' ∧ c.senses = s)
      (leads_get fun _ h => h) fun c => leads_assume fun hc => ?_
    dsimp only
    rw [hc]
    refine leads_bind (Q := fun _ c => b.Unwritten c ∧ c.senses = (s.read k.family).2)
      (leads_update fun _ h => ⟨h, rfl⟩) fun _ => ?_
    refine leads_ofExcept (fun r hr _ h => ⟨h, hr⟩) fun e _ _ h => ?_
    by_cases hu : IsUnavailable e
    · exact .inl ⟨hu, h⟩
    · exact .inr ⟨hu, h.1⟩
  refine (leads_attempt hN k hsense).mono_result ?_
  intro o c h
  cases o with
  | none => exact ⟨h, nofun⟩
  | some r =>
    refine ⟨h.1, fun r' hr' => ?_⟩
    cases hr'
    exact h.2

/-- **The status daemon fails before it has written a health, or at a broken reading of an organ
after the first.** -/
theorem leads_status_or_breaks {setup : Setup} (hl : setup.limits.Stepped) {b : Body}
    (hb : b.topology.Whole) (tick : Nat) :
    Leads (fun c => c = b) (status setup tick) (fun _ => Aware) fun _ c =>
      b.Unwritten c ∨ (b.Behind c ∧ b.BreaksLate setup.limits) := by
  have hs := stages_crash hb
  have next : ∀ k, Leads
      (fun c => b.Unwritten c ∧ c.senses = (b.senses.setLevel b.bus.simLevel).before k)
      (attempt k (sense k.family))
      (fun o c => (b.Unwritten c ∧ c.senses =
          (((b.senses.setLevel b.bus.simLevel).before k).read k.family).2) ∧
        ∀ r, o = some r → b.upcoming k = .ok r)
      fun _ c => b.Unwritten c ∨ (b.Behind c ∧ b.BreaksLate setup.limits) :=
    fun k => (leads_attempt_next b _ k).mono_fault fun _ _ h => .inl h
  have later : ∀ {k : OrganKind} {o : Option Reading}, k ≠ .cortex →
      (∀ r, o = some r → b.upcoming k = .ok r) →
      Leads b.Behind (apply setup k o) (fun _ => b.Behind) fun _ c =>
        b.Unwritten c ∨ (b.Behind c ∧ b.BreaksLate setup.limits) := by
    intro k o hk ho
    refine (leads_apply hl hs.later k o).mono_fault ?_
    rintro _ _ ⟨hc, r, hr, hbroken⟩
    exact .inr ⟨hc, k, r, hk, ho r hr, hbroken⟩
  unfold status
  refine leads_bind (Q := fun _ c => b.Unwritten c ∧
    c.senses = (b.senses.setLevel b.bus.simLevel).before .cortex) (leads_update ?_) fun _ => ?_
  · rintro c rfl
    exact ⟨⟨rfl, rfl⟩, rfl⟩
  refine leads_bind (next .cortex) fun cpu => leads_assume fun _ => ?_
  refine leads_bind (next .memory) fun memory => leads_assume fun hmemory => ?_
  refine leads_bind (next .ioBridge) fun io => leads_assume fun hio => ?_
  refine leads_bind ((leads_apply hl hs .cortex cpu).weaken (fun _ h => h.1)
    (fun _ _ h => h) fun _ _ h => .inl h.1) fun _ => ?_
  refine leads_bind (later nofun hmemory) fun _ => ?_
  refine leads_bind (later nofun hio) fun _ => ?_
  refine leads_bind (leads_remember hs.between _ _ _ _) fun _ => ?_
  refine leads_bind (leads_refresh hs) fun awareness => ?_
  exact leads_report narrow_aware Aware.evaluate awareness

end Duty

/-! ## runs of standard daemons -/

/-- the daemon may fail after it has written a health -/
def Body.Tears (setup : Setup) (b : Body) (name : String) : Prop :=
  (name = "status" ∧ b.BreaksLate setup.limits) ∨
    (name = "simulation" ∧
      ∃ i, setup.simulation.intensity? b.bus.simLevel = some i ∧ Duty.Spelled i)

/-- the amounts of recovery, where they are numbers proper, are 64-bit numbers -/
def SimulationSettings.Is64 (s : SimulationSettings) : Prop :=
  (∀ y, s.low.recovery = .real y → y.Is64) ∧ ∀ y, s.high.recovery = .real y → y.Is64

theorem SimulationSettings.Is64.intensity {s : SimulationSettings} (h : s.Is64) {level : SimLevel}
    {i : Intensity} (hi : s.intensity? level = some i) {y : Number} (hy : i.recovery = .real y) :
    y.Is64 := by
  rcases Duty.intensity_cases hi with rfl | rfl
  · exact h.1 y hy
  · exact h.2 y hy

end Organism
