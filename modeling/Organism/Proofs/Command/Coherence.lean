import Organism.Command.Handle
import Organism.Proofs.Daemon.Coherence

/-!
# Commands leave coherent bodies behind

A command refreshes the awareness after its writes, so that it keeps every property that a refresh
restores.

* `keeps_change`    one health changed by an amount;
* `keeps_load`      the healths of a file taken over, whatever it holds;
* `keeps_perform`   what each operation does, by cases;
* `keeps_handle`    **a request carried out and reported, whether it succeeds, fails or breaks off**.
-/

namespace Organism.Command

attribute [local instance] Rounding.binary64

open Act Body

section
variable {N C : Body → Prop} (h : Stages C N C)
include h

theorem keeps_change (r : Request) (verb : String)
    {f : Topology → OrganKind → Number → Except Fault (Topology × HealthChange)}
    (hf : ∀ t k x t' c, f t k x = .ok (t', c) → t.Written t') : Keeps C (change r verb f) := by
  unfold change
  refine Keeps.bind (keeps_ofExcept _) fun target => ?_
  refine leads_bind (leads_written h fun _ _ _ hw => ?_) fun c => ?_
  · exact hf _ _ _ _ _ hw
  · exact leads_bind (leads_refresh h) fun _ => keeps_pure _

theorem keeps_setSim (r : Request) : Keeps C (setSim r) := by
  unfold setSim
  dsimp only
  split
  · exact keeps_throw _
  · exact Keeps.bind (Duty.leads_setSimLevel h.after _) fun _ => keeps_pure _

theorem keeps_setLogs (r : Request) : Keeps C (setLogs r) := by
  unfold setLogs
  dsimp only
  split
  · exact keeps_throw _
  · refine Keeps.bind (leads_quiet h.after ?_) fun _ => keeps_pure _
    exact fun _ => ⟨rfl, rfl, rfl⟩

theorem keeps_saved (setup : Setup) (r : Request) : Keeps C (save setup r) := by
  unfold save
  dsimp only
  exact (keeps_save h.after _).bind fun _ => keeps_pure _

theorem keeps_load (setup : Setup) (r : Request) : Keeps C (load setup r) := by
  unfold load
  dsimp only
  refine leads_bind (leads_loadState h _) fun values => ?_
  refine leads_bind (leads_refresh h) fun awareness => ?_
  split
  · exact keeps_pure _
  · exact keeps_pure _

theorem keeps_awareness : Keeps C Query.awareness := by
  unfold Query.awareness
  exact (keeps_refresh h).bind fun _ => keeps_pure _

theorem keeps_status : Keeps C Query.status := by
  unfold Query.status
  refine (keeps_refresh h).bind fun score => ?_
  refine keeps_get.bind fun b => ?_
  dsimp only
  exact (keeps_ofExcept _).bind fun _ => keeps_pure _

theorem keeps_perform (setup : Setup) (r : Request) : Keeps C (perform setup r) := by
  unfold perform
  refine keeps_get.bind fun b => ?_
  cases r.operation with
  | help => exact keeps_pure _
  | status => exact keeps_status h
  | topology => exact keeps_pure _
  | nodes => exact keeps_pure _
  | organs => exact keeps_pure _
  | peripherals => exact keeps_pure _
  | health => exact keeps_pure _
  | alerts => exact keeps_ofExcept _
  | awareness => exact keeps_awareness h
  | metrics => exact keeps_pure _
  | capabilities => exact keeps_pure _
  | memory => exact keeps_pure _
  | damage => exact keeps_change h r "damaged" fun _ _ _ _ _ => Topology.damage_written
  | heal => exact keeps_change h r "healed" fun _ _ _ _ _ => Topology.heal_written
  | setSim => exact keeps_setSim h r
  | setLogs => exact keeps_setLogs h r
  | save => exact keeps_saved h setup r
  | load => exact keeps_load h setup r

theorem keeps_execute (setup : Setup) (r : Request) : Keeps C (execute setup r) := by
  unfold execute
  refine (keeps_perform h setup r).bind fun result => ?_
  exact Keeps.bind (leads_publish h.after _) fun _ => keeps_pure _

theorem keeps_fail (r : Request) (e : Fault) : Keeps C (fail r e) := by
  unfold fail
  refine Keeps.bind (leads_note h.after _ _ _) fun _ => ?_
  exact Keeps.bind (leads_publish h.after _) fun _ => keeps_pure _

/-- **A request leaves a body behind whose awareness is up to date, whether it succeeds, fails or
breaks off.** -/
theorem keeps_handle (setup : Setup) (r : Request) : Keeps C (handle setup r) := by
  unfold handle
  exact (keeps_execute h setup r).tryCatch fun e => Keeps.ite (keeps_fail h r e) (keeps_throw e)

end

end Organism.Command
