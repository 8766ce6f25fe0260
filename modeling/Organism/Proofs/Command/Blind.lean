import Organism.Command.Handle
import Organism.Proofs.Body.Blind

/-!
# Commands do not look at pulses

An operation publishes nothing.  What is published of a command is its report, and there is one if
and only if the command has a result.

* `says_restore`    healths taken over from a file;
* `says_perform`    what each operation does, by cases;
* `Reported`        what is published with an outcome;
* `blind_handle`    **a request carried out: one report with a result, none with a crash**.
-/

namespace Organism

attribute [local instance] Rounding.binary64

open Body

namespace Act

variable {K : Message → Prop}

theorem says_saveState (path : FilePath) : Says K (saveState path) := by
  unfold saveState
  refine says_get (fun _ => rfl) fun b => ?_
  refine Says.bind (says_update ?_ ?_) fun _ => ?_
  · exact fun _ => rfl
  · exact fun _ => rfl
  split
  · exact says_note _ _ _
  · exact says_throw _
  · exact says_throw _

theorem says_loadState (path : FilePath) : Says K (loadState path) := by
  unfold loadState
  refine says_get (fun _ => rfl) fun b => ?_
  split
  · exact says_throw _
  · exact (says_note _ _ _).bind fun _ => says_pure _
  · exact says_throw _
  · refine Says.bind (says_onTopology _) fun values => ?_
    exact (says_note _ _ _).bind fun _ => says_pure _

theorem says_restore (path : FilePath) : Says K (restore path) := by
  have htake : Says K (takeOver path) :=
    (says_loadState path).bind fun _ => says_refreshAwareness.bind fun _ => says_pure _
  refine htake.tryCatch fun e => ?_
  refine Says.ite ?_ (says_throw e)
  exact (says_note _ _ _).bind fun _ => says_pure _

end Act

namespace Command

open Act

variable {K : Message → Prop}

theorem says_change (r : Request) (verb : String)
    (f : Topology → OrganKind → Number → Except Fault (Topology × HealthChange)) :
    Says K (change r verb f) := by
  unfold change
  refine (says_ofExcept _).bind fun target => ?_
  refine (says_onTopology _).bind fun c => ?_
  exact says_refreshAwareness.bind fun _ => says_pure _

theorem says_setSim (r : Request) : Says K (setSim r) := by
  unfold setSim
  dsimp only
  split
  · exact says_throw _
  · exact (says_setSimLevel _).bind fun _ => says_pure _

theorem says_setLogs (r : Request) : Says K (setLogs r) := by
  unfold setLogs
  dsimp only
  split
  · exact says_throw _
  · refine Says.bind (says_update ?_ ?_) fun _ => says_pure _
    · exact fun _ => rfl
    · exact fun _ => rfl

theorem says_save (setup : Setup) (r : Request) : Says K (save setup r) := by
  unfold save
  dsimp only
  exact (says_saveState _).bind fun _ => says_pure _

theorem says_load (setup : Setup) (r : Request) : Says K (load setup r) := by
  unfold load
  dsimp only
  refine (says_loadState _).bind fun values => ?_
  refine says_refreshAwareness.bind fun awareness => ?_
  split
  · exact says_pure _
  · exact says_pure _

theorem says_awareness : Says K Query.awareness :=
  says_refreshAwareness.bind fun _ => says_pure _

theorem says_query_status : Says K Query.status := by
  unfold Query.status
  refine says_refreshAwareness.bind fun score => ?_
  refine says_get (fun _ => rfl) fun b => ?_
  exact (says_ofExcept _).bind fun _ => says_pure _

theorem says_perform (setup : Setup) (r : Request) : Says K (perform setup r) := by
  unfold perform
  refine says_get (fun _ => rfl) fun b => ?_
  cases r.operation with
  | help => exact says_pure _
  | status => exact says_query_status
  | topology => exact says_pure _
  | nodes => exact says_pure _
  | organs => exact says_pure _
  | peripherals => exact says_pure _
  | health => exact says_pure _
  | alerts => exact says_ofExcept _
  | awareness => exact says_awareness
  | metrics => exact says_pure _
  | capabilities => exact says_pure _
  | memory => exact says_pure _
  | damage => exact says_change r "damaged" Topology.damage
  | heal => exact says_change r "healed" Topology.heal
  | setSim => exact says_setSim r
  | setLogs => exact says_setLogs r
  | save => exact says_save setup r
  | load => exact says_load setup r

/-! ## reports -/

/-- what is published with an outcome: one report on a result, and nothing on a crash -/
def Reported (r : Request) : Except Fault CommandResult → List Message → Prop
  | .ok _, ms => ∃ text payload, ms = [report r.operation text payload]
  | .error _, ms => ms = []

theorem blind_execute (setup : Setup) (r : Request) : Blind (Reported r) (execute setup r) := by
  unfold execute
  refine blind_bind (says_perform (K := fun _ => False) setup r) (fun result ms hms => ?_) ?_
  · obtain rfl : ms = [] := List.eq_nil_iff_forall_not_mem.mpr hms
    exact blind_publish_pure ⟨_, _, rfl⟩
  · exact fun e ms hms => List.eq_nil_iff_forall_not_mem.mpr hms

theorem blind_fail (r : Request) (e : Fault) : Blind (Reported r) (fail r e) := by
  unfold fail
  refine blind_bind (says_note (K := fun _ => False) _ _ _) (fun _ ms hms => ?_) ?_
  · obtain rfl : ms = [] := List.eq_nil_iff_forall_not_mem.mpr hms
    exact blind_publish_pure ⟨_, _, rfl⟩
  · exact fun e ms hms => List.eq_nil_iff_forall_not_mem.mpr hms

/-- **A request that is carried out has one report with a result, and none with a crash.** -/
theorem blind_handle (setup : Setup) (r : Request) : Blind (Reported r) (handle setup r) := by
  unfold handle
  refine blind_tryCatch (blind_execute setup r) (fun _ _ h => h) fun e ms hms => ?_
  obtain rfl : ms = [] := hms
  split
  · exact blind_fail r e
  · exact blind_throw rfl

end Command
end Organism
