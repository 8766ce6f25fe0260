import Organism.Daemon
import Organism.Proofs.Body.Blind

/-!
# Daemons do not look at pulses

What the daemons do depends on healths, readings, dice and settings, and never on the pulses on the
bus.  None of their own messages looks like the report on a failure, which is left to the run of a
daemon as a whole.

* `Message.isReport`                  the message reports that a daemon failed;
* `says_heartbeat`, `says_status`, `says_policy`, `says_simulation`   the four duties;
* `Daemon.Blind`                      a daemon of this sort;
* `Daemon.Blind.run`                  **its run is the same on bodies that are alike, and reported
                                      if and only if it fails**.
-/

namespace Organism

def Message.isReport (m : Message) : Bool := m.kind == .warning && m.source == "scheduler"

def Message.IsPlain (m : Message) : Prop := m.isReport = false

theorem countP_isReport_of_plain {ms : List Message} (h : ∀ m ∈ ms, m.IsPlain) :
    ms.countP Message.isReport = 0 :=
  List.countP_eq_zero.mpr fun m hm => Bool.eq_false_iff.mp (h m hm)

open Act Body

namespace Duty

variable {K : Message → Prop}

theorem says_heartbeat : Says Message.IsPlain heartbeat := by
  unfold heartbeat
  refine Says.bind (says_update ?_ ?_) fun _ => ?_
  · exact fun _ => rfl
  · exact fun _ => rfl
  refine says_get (fun _ => rfl) fun b => ?_
  exact says_publish rfl

/-! ## status -/

theorem says_unavailable (k : OrganKind) (reason : String) (e : Fault) :
    Says Message.IsPlain (unavailable k reason e) := by
  refine (says_note _ _ _).bind fun _ => says_publish ?_
  show (_ && ("status" == "scheduler")) = false
  rw [Bool.and_eq_false_iff]
  exact .inr (by decide)

theorem says_attempt {α : Type} (k : OrganKind) {act : Act α} (h : Says Message.IsPlain act) :
    Says Message.IsPlain (attempt k act) := by
  refine Says.tryCatch h.map fun e => ?_
  split
  · exact (says_unavailable k _ _).bind fun _ => says_pure _
  · exact says_throw _

theorem says_sense [Rounding] (f : Family) : Says K (sense f) := by
  unfold sense
  refine says_get (fun _ => rfl) fun b => ?_
  refine Says.bind (says_update ?_ ?_) fun _ => says_ofExcept _
  · exact fun _ => rfl
  · exact fun _ => rfl

theorem says_feel [Rounding] (setup : Setup) (k : OrganKind) (r : Reading) :
    Says K (feel setup k r) :=
  (says_onTopology _).bind fun _ => says_note _ _ _

theorem says_apply [Rounding] (setup : Setup) (k : OrganKind) (reading : Option Reading) :
    Says Message.IsPlain (apply setup k reading) := by
  unfold apply
  cases reading with
  | none => exact says_pure _
  | some r =>
    refine says_get (fun _ => rfl) fun b => ?_
    refine Says.ite ?_ (says_pure _)
    exact (says_attempt k (says_feel setup k r)).bind fun _ => says_pure _

theorem says_remember (tick : Nat) (cpu memory io : Option Reading) :
    Says K (remember tick cpu memory io) := by
  refine Says.ite (says_update ?_ ?_) (says_pure _)
  · exact fun _ => rfl
  · exact fun _ => rfl

theorem says_forM_publish (alerts : List Alert) :
    Says Message.IsPlain (alerts.forM fun a => Act.publish (alertMessage a)) := by
  induction alerts with
  | nil => exact says_pure _
  | cons a alerts ih =>
    show Says _ (Act.publish (alertMessage a) >>= fun _ => alerts.forM _)
    exact Says.bind (says_publish rfl) fun _ => ih

theorem says_status [Rounding] (setup : Setup) (tick : Nat) :
    Says Message.IsPlain (status setup tick) := by
  unfold status
  refine Says.bind (says_update ?_ ?_) fun _ => ?_
  · exact fun _ => rfl
  · exact fun _ => rfl
  refine (says_attempt _ (says_sense _)).bind fun cpu => ?_
  refine (says_attempt _ (says_sense _)).bind fun memory => ?_
  refine (says_attempt _ (says_sense _)).bind fun io => ?_
  refine (says_apply _ _ _).bind fun cpu => ?_
  refine (says_apply _ _ _).bind fun memory => ?_
  refine (says_apply _ _ _).bind fun io => ?_
  refine (says_remember _ _ _ _).bind fun _ => ?_
  refine says_refreshAwareness.bind fun awareness => ?_
  refine says_evaluate.bind fun alerts => ?_
  refine (says_forM_publish alerts).bind fun _ => ?_
  refine says_get (fun _ => rfl) fun b => ?_
  exact says_publish rfl

/-! ## policy -/

theorem says_store (setup : Setup) (scope : Scope) (key : String) (v : Value) :
    Says K (store setup scope key v) := by
  refine Says.ite (says_update ?_ ?_) (says_pure _)
  · exact fun _ => rfl
  · exact fun _ => rfl

theorem says_adopt (p : Policy) (awareness : Number) : Says K (adopt p awareness) := by
  have hset : Says K (Act.update fun b => b.setPolicy p) :=
    says_update (fun _ => rfl) fun _ => rfl
  unfold adopt
  refine says_get (fun _ => rfl) fun b => ?_
  exact Says.ite ((says_note _ _ _).bind fun _ => hset) hset

theorem says_protect (p : Policy) : Says K (protect p) := by
  unfold protect
  refine says_get (fun _ => rfl) fun b => ?_
  exact Says.ite (says_setSimLevel _) (says_pure _)

theorem says_policy [Rounding] (setup : Setup) : Says Message.IsPlain (policy setup) := by
  unfold policy
  refine says_get (fun _ => rfl) fun b => ?_
  refine (says_adopt _ _).bind fun _ => ?_
  refine (says_protect _).bind fun _ => ?_
  refine (says_store _ _ _ _).bind fun _ => ?_
  refine (says_store _ _ _ _).bind fun _ => ?_
  exact says_publish rfl

/-! ## simulation -/

theorem says_roll {α : Type} (draw : Dice → Except Fault α × Dice) : Says K (roll draw) := by
  unfold roll
  refine says_get (fun _ => rfl) fun b => ?_
  refine Says.bind (says_update ?_ ?_) fun _ => says_ofExcept _
  · exact fun _ => rfl
  · exact fun _ => rfl

theorem says_fault [Rounding] (setup : Setup) (i : Intensity) : Says K (fault setup i) := by
  unfold fault
  refine says_get (fun _ => rfl) fun b => ?_
  refine (says_roll _).bind fun place => ?_
  split
  · exact says_throw _
  · refine (says_ofExcept _).bind fun low => ?_
    refine (says_ofExcept _).bind fun high => ?_
    refine (says_roll _).bind fun amount => ?_
    refine (says_onTopology _).bind fun c => ?_
    exact (says_store _ _ _ _).bind fun _ => says_pure _

theorem says_recovery [Rounding] (i : Intensity) : Says K (recovery i) := by
  unfold recovery
  refine says_get (fun _ => rfl) fun b => ?_
  refine Says.bind (says_update ?_ ?_) fun _ => ?_
  · exact fun _ => rfl
  · exact fun _ => rfl
  refine (says_ofExcept _).bind fun _ => ?_
  exact (says_ofExcept _).bind fun _ => says_pure _

theorem says_event [Rounding] (setup : Setup) (i : Intensity) : Says K (event setup i) := by
  unfold event
  refine (says_roll _).bind fun x => ?_
  refine (says_ofExcept _).bind fun p => ?_
  exact Says.ite (says_fault setup i) (says_recovery i)

theorem says_simulation [Rounding] (setup : Setup) : Says Message.IsPlain (simulation setup) := by
  unfold simulation
  refine says_get (fun _ => rfl) fun b => ?_
  split
  · exact says_pure _
  · refine (says_event setup _).bind fun e => ?_
    refine says_refreshAwareness.bind fun _ => ?_
    refine says_get (fun _ => rfl) fun b => ?_
    exact says_publish rfl

end Duty

/-! ## runs of daemons -/

/-- the daemon does not look at pulses, and none of its own messages reports a failure -/
def Daemon.Blind (d : Daemon) : Prop := ∀ tick, Says Message.IsPlain (d.act tick)

namespace Daemon

variable {d : Daemon} {b c : Body}

theorem report_bare (d : Daemon) (tick : Nat) (e : Fault) (b : Body) :
    (d.report tick e b.bare).bare = (d.report tick e b).bare := rfl

theorem posted_report (d : Daemon) (tick : Nat) (e : Fault) (b : Body) :
    Posted [d.failure e] b (d.report tick e b) := rfl

theorem isReport_failure (d : Daemon) (e : Fault) : (d.failure e).isReport = true := by
  show (PulseKind.warning == .warning && "scheduler" == "scheduler") = true
  decide

/-- **The run of a blind daemon is the same on bodies that are alike**, and there is a report if and
only if it fails. -/
theorem Blind.run (hd : d.Blind) (tick : Nat) (h : Alike b c) :
    ∃ ms, ms.countP Message.isReport = (d.run tick b).2.2.toNat ∧
      (d.run tick c).1 = (d.run tick b).1 ∧ (d.run tick c).2.2 = (d.run tick b).2.2 ∧
      Joined ms b c (d.run tick b).2.1 (d.run tick c).2.1 := by
  obtain ⟨ms, hms, ho, hj⟩ := (hd tick).joined b c h
  unfold Daemon.run
  rcases hb : (d.act tick).run b with ⟨r, b'⟩
  rcases hc : (d.act tick).run c with ⟨r', c'⟩
  rw [hb, hc] at ho hj
  obtain rfl : r' = r := ho
  cases r' with
  | ok u => exact ⟨ms, countP_isReport_of_plain hms, rfl, rfl, hj⟩
  | error e =>
    have hr : Joined [d.failure e] b' c' (d.report tick e b') (d.report tick e c') :=
      ⟨hj.alike.congr (f := fun b => (d.report tick e b).bare) (d.report_bare tick e),
        d.posted_report tick e b', d.posted_report tick e c'⟩
    refine ⟨ms ++ [d.failure e], ?_, rfl, rfl, hj.trans hr⟩
    rw [List.countP_append, countP_isReport_of_plain hms, List.countP_singleton,
      isReport_failure]
    rfl

end Daemon
end Organism
