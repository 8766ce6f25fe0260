import Organism.Daemon
import Organism.Proofs.Body.Pace
import Organism.Proofs.Daemon.Frame

/-!
# Daemons at a slow pace

While the simulation is off only the status daemon writes healths, and each organ feels one reading
in a run of it.  That is a step at most, however far the run gets.

* `meets_heartbeat`    beats and pulses;
* `leads_applied`      a reading that is felt, or is not;
* `leads_status`       **a run of the status daemon is a step at most, also if it fails**;
* `stays_policy`       the policy may turn the simulation off, but never on;
* `stays_simulation`   nothing at all happens while the simulation is off;
* `Daemon.Drifts`      how far a run of a daemon moves the healths.
-/

namespace Organism

open Act Body

namespace Duty

variable {R : Topology → SimLevel → Prop}

theorem meets_heartbeat : Keeps (Meets R) heartbeat := by
  unfold heartbeat
  refine Keeps.bind (keeps_update fun _ h => h) fun _ => ?_
  exact keeps_get.bind fun _ => keeps_update fun _ h => h

attribute [local instance] Rounding.exact

/-! ## status -/

theorem leads_attempted {α : Type} {P : Body → Prop} (k : OrganKind) {act : Act α}
    (h : Leads P act (fun _ => Meets R) fun _ => Meets R) :
    Leads P (attempt k act) (fun _ => Meets R) fun _ => Meets R := by
  refine leads_tryCatch (leads_map h) fun e => ?_
  split
  · refine Keeps.bind (P := Meets R) ?_ fun _ => keeps_pure _
    exact Keeps.bind (keeps_update fun _ h => h) fun _ => keeps_update fun _ h => h
  · exact keeps_throw _

theorem meets_sense (f : Family) : Keeps (Meets R) (sense f) := by
  unfold sense
  refine keeps_get.bind fun b => ?_
  dsimp only
  exact Keeps.bind (keeps_update fun _ h => h) fun _ => keeps_ofExcept _

theorem meets_remember (tick : Nat) (cpu memory io : Option Reading) :
    Keeps (Meets R) (remember tick cpu memory io) :=
  Keeps.ite (keeps_update fun _ h => h) (keeps_pure _)

theorem meets_forM_publish (alerts : List Alert) :
    Keeps (Meets R) (alerts.forM fun a => Act.publish (alertMessage a)) := by
  induction alerts with
  | nil => exact keeps_pure _
  | cons a alerts ih =>
    show Keeps (Meets R) (Act.publish (alertMessage a) >>= fun _ => alerts.forM _)
    exact Keeps.bind (keeps_update fun _ h => h) fun _ => ih

section
variable {setup : Setup} {step : Rat} (hl : setup.limits.Paces step) {t : Topology}
  {ε : OrganKind → Rat}
include hl

theorem leads_applied (k : OrganKind) (reading : Option Reading) :
    Leads (Meets (Strayed t ε)) (apply setup k reading)
      (fun _ => Meets (Strayed t (ε + Pi.single k step)))
      fun _ => Meets (Strayed t (ε + Pi.single k step)) := by
  have hstay : ∀ b : Body, b.Meets (Strayed t ε) → b.Meets (Strayed t (ε + Pi.single k step)) :=
    fun b hb => hb.mono (hl.le_add_single ε k)
  unfold apply
  cases reading with
  | none => exact leads_pure hstay
  | some r =>
    refine leads_bind (Q := fun _ => Meets (Strayed t ε)) (leads_get fun _ h => h) fun b => ?_
    refine leads_ite (fun _ => ?_) fun _ => leads_pure hstay
    refine leads_bind (leads_attempted k ?_) fun felt => keeps_pure _
    refine leads_bind (leads_onTopology ?_ ?_) fun c => keeps_update fun _ h => h
    · intro b hb t' c hf
      exact Strayed.feel hl hb hf
    · exact fun b hb e _ => hstay b hb

/-- **A run of the status daemon moves every health by a step at most**, whatever is read and
however far it gets. -/
theorem leads_status (tick : Nat) :
    Leads (Meets (Strayed t 0)) (status setup tick) (fun _ => Meets (Strayed t fun _ => step))
      fun _ => Meets (Strayed t fun _ => step) := by
  -- each organ feels one reading, so that the bounds of the three add up to one step for each
  have hsum : (0 : OrganKind → Rat) + Pi.single .cortex step + Pi.single .memory step
      + Pi.single .ioBridge step = fun _ => step := by
    funext k
    cases k <;> simp
  have hsense : ∀ k f, Leads (Meets (Strayed t 0)) (attempt k (sense f))
      (fun _ => Meets (Strayed t 0)) fun _ => Meets (Strayed t fun _ => step) := by
    intro k f
    refine (leads_attempted k (meets_sense f)).mono_fault fun _ b h => ?_
    rw [← hsum]
    exact h.mono (((hl.le_add_single _ _).trans (hl.le_add_single _ _)).trans (hl.le_add_single _ _))
  unfold status
  refine leads_bind (Q := fun _ => Meets (Strayed t 0)) (leads_update fun _ h => h) fun _ => ?_
  refine leads_bind (hsense _ _) fun cpu => ?_
  refine leads_bind (hsense _ _) fun memory => ?_
  refine leads_bind (hsense _ _) fun io => ?_
  refine leads_bind ((leads_applied hl .cortex cpu).mono_fault fun _ b h => ?_) fun cpu => ?_
  · rw [← hsum]
    exact h.mono ((hl.le_add_single _ _).trans (hl.le_add_single _ _))
  refine leads_bind ((leads_applied hl .memory memory).mono_fault fun _ b h => ?_) fun memory => ?_
  · rw [← hsum]
    exact h.mono (hl.le_add_single _ _)
  have happlied := leads_applied (t := t)
    (ε := 0 + Pi.single .cortex step + Pi.single .memory step) hl .ioBridge io
  rw [hsum] at happlied
  refine leads_bind happlied fun io => ?_
  refine Keeps.bind (meets_remember _ _ _ _) fun _ => ?_
  refine Keeps.bind meets_refresh fun awareness => ?_
  have hevaluate : Keeps (Meets (Strayed t fun _ => step)) evaluate := ⟨fun b h => h.evaluate⟩
  refine hevaluate.bind fun alerts => ?_
  refine (meets_forM_publish alerts).bind fun _ => ?_
  exact keeps_get.bind fun _ => keeps_update fun _ h => h

end

/-! ## policy -/

theorem meets_store (setup : Setup) (scope : Scope) (key : String) (v : Value) :
    Keeps (Meets R) (store setup scope key v) :=
  Keeps.ite (keeps_update fun _ h => h) (keeps_pure _)

theorem meets_adopt (p : Policy) (awareness : Number) : Keeps (Meets R) (adopt p awareness) := by
  have hset : Keeps (Meets R) (Act.update fun b => b.setPolicy p) := keeps_update fun _ h => h
  unfold adopt
  refine keeps_get.bind fun b => ?_
  exact Keeps.ite (Keeps.bind (keeps_update fun _ h => h) fun _ => hset) hset

section
variable {t : Topology} {ε : OrganKind → Rat}

theorem stays_protect (p : Policy) : Keeps (Meets (Strayed t ε)) (protect p) := by
  unfold protect
  refine keeps_get.bind fun b => ?_
  refine Keeps.ite (keeps_update fun b h => ?_) (keeps_pure _)
  obtain ⟨journal, hb⟩ := b.setSimLevel_eq .off
  rw [hb]
  exact ⟨h.near, h.inUnit, rfl⟩

theorem stays_policy (setup : Setup) : Keeps (Meets (Strayed t ε)) (policy setup) := by
  unfold policy
  refine keeps_get.bind fun b => ?_
  dsimp only
  refine (meets_adopt _ _).bind fun _ => ?_
  refine (stays_protect _).bind fun _ => ?_
  refine (meets_store _ _ _ _).bind fun _ => ?_
  refine (meets_store _ _ _ _).bind fun _ => ?_
  exact keeps_update fun _ h => h

theorem stays_simulation (setup : Setup) : Keeps (Meets (Strayed t ε)) (simulation setup) := by
  unfold simulation
  refine leads_bind (Q := fun c b => b.Meets (Strayed t ε) ∧ c.bus.simLevel = .off)
    (leads_get fun _ h => ⟨h, h.off⟩) fun c => leads_assume fun hoff => ?_
  rw [hoff]
  exact keeps_pure _

end
end Duty

/-! ## runs of daemons -/

namespace Daemon

attribute [local instance] Rounding.exact

/-- a run of the daemon moves every health by the amount at most, and keeps the simulation off -/
def Drifts (ε : Rat) (d : Daemon) : Prop :=
  ∀ tick t, Leads (Meets (Strayed t 0)) (d.act tick) (fun _ => Meets (Strayed t fun _ => ε))
    fun _ => Meets (Strayed t fun _ => ε)

variable {d : Daemon} {ε : Rat} {t : Topology} {δ : OrganKind → Rat} {b : Body}

theorem Drifts.run (hd : d.Drifts ε) (tick : Nat) (hb : b.Meets (Strayed t δ)) :
    (d.run tick b).2.1.Meets (Strayed t (δ + fun _ => ε)) := by
  have hact := (hd tick b.topology).body (b := b) ⟨b.topology.near_refl, hb.inUnit, hb.off⟩
  exact run_preserves (fun _ _ h => h) (Strayed.trans hb hact)

end Daemon
end Organism
