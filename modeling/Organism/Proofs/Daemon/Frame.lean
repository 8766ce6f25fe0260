import Organism.Daemon
import Organism.Proofs.Body.Frame

/-!
# What daemons leave alone

* `touches_heartbeat`    beats and pulses;
* `touches_status`       **healths, by calculated moves only**, and what follows from readings;
* `touches_policy`       the daemon that may turn the simulation off writes no health;
* `run_simulation_off`   nothing at all, while the simulation is off;
* `touches_simulation`   dice, healths and memory, **but never its own level**;
* `Daemon.course_run`    a run of a daemon, with the report if it fails.
-/

namespace Organism

attribute [local instance] Rounding.binary64

open Act Body

namespace Duty

variable {S : List Part}

theorem touches_heartbeat : Touches [.beats, .pulses] heartbeat := by
  unfold heartbeat
  refine Touches.bind (touches_update (p := .beats) (by decide) ?_) fun _ => ?_
  · exact fun b => .beats b _
  · exact touches_get.bind fun b => touches_publish (by decide) _

/-! ## status -/

section
variable {α : Type} (hp : .pulses ∈ S) (hn : .notes ∈ S)
include hp hn

theorem touches_attempt (k : OrganKind) {act : Act α} (h : Touches S act) :
    Touches S (attempt k act) := by
  refine Touches.tryCatch h.map fun e => ?_
  split
  · refine Touches.bind ?_ fun _ => touches_pure _
    exact (touches_note hn _ _ _).bind fun _ => touches_publish hp _
  · exact touches_throw _

theorem touches_apply (hh : .health ∈ S) (setup : Setup) (k : OrganKind)
    (reading : Option Reading) : Touches S (apply setup k reading) := by
  have hfeel : ∀ r, Touches S (feel setup k r) := by
    intro r
    refine Touches.bind (touches_moved hh ?_) fun _ => touches_note hn _ _ _
    exact fun _ _ _ => Topology.feel_moved
  unfold apply
  cases reading with
  | none => exact touches_pure _
  | some r =>
    refine touches_get.bind fun b => ?_
    refine Touches.ite ?_ (touches_pure _)
    exact (touches_attempt hp hn k (hfeel r)).bind fun _ => touches_pure _

end

theorem touches_sense (hS : .senses ∈ S) (f : Family) : Touches S (sense f) := by
  unfold sense
  refine touches_get.bind fun b => ?_
  refine Touches.bind (touches_update hS ?_) fun _ => touches_ofExcept _
  exact fun c => .senses c _

theorem touches_remember (hS : .readings ∈ S) (tick : Nat) (cpu memory io : Option Reading) :
    Touches S (remember tick cpu memory io) := by
  refine Touches.ite (touches_update hS ?_) (touches_pure _)
  exact fun b => .readings b _

theorem touches_forM_publish (hS : .pulses ∈ S) (alerts : List Alert) :
    Touches S (alerts.forM fun a => Act.publish (alertMessage a)) := by
  induction alerts with
  | nil => exact touches_pure _
  | cons a alerts ih =>
    show Touches S (Act.publish (alertMessage a) >>= fun _ => alerts.forM _)
    exact (touches_publish hS _).bind fun _ => ih

def statusParts : List Part :=
  [.senses, .readings, .health, .awareness, .alerts, .pulses, .notes]

/-- **The status daemon changes healths by calculated moves only.** -/
theorem touches_status (setup : Setup) (tick : Nat) :
    Touches statusParts (status setup tick) := by
  unfold status
  refine Touches.bind (touches_update (p := .senses) (by decide) ?_) fun _ => ?_
  · exact fun b => .senses b _
  have hsense : ∀ k f, Touches statusParts (attempt k (sense f)) := fun k f =>
    touches_attempt (by decide) (by decide) k (touches_sense (by decide) f)
  refine (hsense _ _).bind fun cpu => ?_
  refine (hsense _ _).bind fun memory => ?_
  refine (hsense _ _).bind fun io => ?_
  have happly : ∀ k reading, Touches statusParts (apply setup k reading) := fun k reading =>
    touches_apply (by decide) (by decide) (by decide) setup k reading
  refine (happly _ _).bind fun cpu => ?_
  refine (happly _ _).bind fun memory => ?_
  refine (happly _ _).bind fun io => ?_
  refine (touches_remember (by decide) _ _ _ _).bind fun _ => ?_
  refine (touches_refresh (by decide)).bind fun awareness => ?_
  refine (touches_evaluate (by decide)).bind fun alerts => ?_
  refine (touches_forM_publish (by decide) alerts).bind fun _ => ?_
  exact touches_get.bind fun b => touches_publish (by decide) _

/-! ## policy -/

theorem touches_store (hS : .memory ∈ S) (setup : Setup) (scope : Scope) (key : String)
    (v : Value) : Touches S (store setup scope key v) := by
  refine Touches.ite (touches_update hS ?_) (touches_pure _)
  exact fun b => .memory b _

theorem touches_adopt (hp : .policy ∈ S) (hn : .notes ∈ S) (p : Policy) (awareness : Number) :
    Touches S (adopt p awareness) := by
  have hset : Touches S (Act.update fun b => b.setPolicy p) :=
    touches_update hp fun b => .policy b p
  unfold adopt
  refine touches_get.bind fun b => ?_
  exact Touches.ite ((touches_note hn _ _ _).bind fun _ => hset) hset

theorem touches_protect (hS : .simLevel ∈ S) (p : Policy) : Touches S (protect p) := by
  unfold protect
  refine touches_get.bind fun b => ?_
  exact Touches.ite (touches_setSimLevel hS _) (touches_pure _)

theorem touches_policy (setup : Setup) :
    Touches [.policy, .simLevel, .memory, .pulses, .notes] (policy setup) := by
  unfold policy
  refine touches_get.bind fun b => ?_
  refine (touches_adopt (by decide) (by decide) _ _).bind fun _ => ?_
  refine (touches_protect (by decide) _).bind fun _ => ?_
  refine (touches_store (by decide) _ _ _ _).bind fun _ => ?_
  refine (touches_store (by decide) _ _ _ _).bind fun _ => ?_
  exact touches_publish (by decide) _

/-! ## simulation -/

theorem touches_roll {α : Type} (hS : .dice ∈ S) (draw : Dice → Except Fault α × Dice) :
    Touches S (roll draw) := by
  unfold roll
  refine touches_get.bind fun b => ?_
  refine Touches.bind (touches_update hS ?_) fun _ => touches_ofExcept _
  exact fun c => .dice c _

theorem touches_fault (hd : .dice ∈ S) (hh : .health ∈ S) (hm : .memory ∈ S) (setup : Setup)
    (i : Intensity) : Touches S (fault setup i) := by
  unfold fault
  refine touches_get.bind fun b => ?_
  refine (touches_roll hd _).bind fun place => ?_
  split
  · exact touches_throw _
  · refine (touches_ofExcept _).bind fun low => ?_
    refine (touches_ofExcept _).bind fun high => ?_
    refine (touches_roll hd _).bind fun amount => ?_
    refine Touches.bind (touches_moved hh fun _ _ _ => Topology.damage_moved) fun c => ?_
    exact (touches_store hm _ _ _ _).bind fun _ => touches_pure _

theorem touches_recovery (hS : .health ∈ S) (i : Intensity) : Touches S (recovery i) := by
  intro b
  unfold recovery
  refine leads_bind (Q := fun c b' => c = b' ∧ Course S b b') ?_ fun c => ?_
  · exact leads_get fun _ h => ⟨rfl, h⟩
  refine leads_bind (Q := fun _ => Course S b) (leads_update ?_) fun _ => ?_
  · rintro b' ⟨rfl, h⟩
    exact h.trans (course_moves hS (Topology.recoverBy_moves _ _ _))
  · exact (keeps_ofExcept _).bind fun _ => (keeps_ofExcept _).bind fun _ => keeps_pure _

theorem run_simulation_off [Rounding] {setup : Setup} {b : Body} (h : b.bus.simLevel = .off) :
    (simulation setup).run b = (.ok (), b) := by
  unfold simulation
  refine (run_bind_ok rfl).trans ?_
  rw [h]
  rfl

/-- **The simulation does not change its own level.** -/
theorem touches_simulation (setup : Setup) :
    Touches [.dice, .health, .memory, .awareness, .pulses] (simulation setup) := by
  unfold simulation
  refine touches_get.bind fun b => ?_
  split
  · exact touches_pure _
  · next i _ =>
    have hevent : Touches [.dice, .health, .memory, .awareness, .pulses] (event setup i) := by
      unfold event
      refine (touches_roll (by decide) _).bind fun x => ?_
      refine (touches_ofExcept _).bind fun p => ?_
      refine Touches.ite ?_ (touches_recovery (by decide) i)
      exact touches_fault (by decide) (by decide) (by decide) setup i
    refine hevent.bind fun e => ?_
    refine (touches_refresh (by decide)).bind fun _ => ?_
    exact touches_get.bind fun _ => touches_publish (by decide) _

end Duty

/-! ## runs of daemons -/

namespace Daemon

/-- a run is counted, and its failure with it; nothing else of the daemon changes -/
theorem run_daemon (d : Daemon) (tick : Nat) (b : Body) :
    (d.run tick b).1 = { d with
      count :=
        Runs.mark { d.count with errors := d.count.errors + (d.run tick b).2.2.toNat } tick } := by
  unfold run
  split <;> rfl

theorem run_preserves {P : Body → Prop} {d : Daemon} {tick : Nat} {b : Body}
    (hreport : ∀ e c, P c → P (d.report tick e c)) (h : P ((d.act tick).run b).2) :
    P (d.run tick b).2.1 := by
  unfold Daemon.run
  generalize (d.act tick).run b = r at h
  rcases r with ⟨e | x, c⟩
  · exact hreport e c h
  · exact h

theorem run_of_leads {P Q : Body → Prop} {d : Daemon} {tick : Nat} {b : Body}
    (h : Leads P (d.act tick) (fun _ => Q) fun _ _ => False) (hb : P b) :
    Q (d.run tick b).2.1 := by
  have hend := h.after b hb
  unfold Daemon.run
  generalize (d.act tick).run b = r at hend
  rcases r with ⟨e | x, c⟩
  · exact hend.elim
  · exact hend

theorem course_report (d : Daemon) (tick : Nat) (e : Fault) (b : Body) :
    Course [.pulses, .notes] b (d.report tick e b) := by
  have hnote : ∀ text, Course [.pulses, .notes] b (b.note .error .scheduler text) := fun text =>
    .single ⟨.notes, by decide, .note b _ _ text⟩
  exact (hnote _).tail ⟨.pulses, by decide, .publish _ (d.failure e)⟩

theorem course_run {S : List Part} {d : Daemon} {tick : Nat} (h : Touches S (d.act tick))
    (b : Body) : Course (.pulses :: .notes :: S) b (d.run tick b).2.1 := by
  have hact := (h.course b).mono (T := .pulses :: .notes :: S) fun p hp =>
    List.mem_cons_of_mem _ (List.mem_cons_of_mem _ hp)
  exact run_preserves (fun e c hc => hc.trans ((d.course_report tick e c).mono (by simp))) hact

end Daemon
end Organism
