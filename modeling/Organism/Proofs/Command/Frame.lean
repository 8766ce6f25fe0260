import Organism.Command.Handle
import Organism.Proofs.Body.Frame

/-!
# What commands leave alone

* `Operation.parts`    what each operation is there to change;
* `touches_perform`    **it changes nothing else**;
* `touches_handle`     with a pulse and a note, whatever becomes of it.
-/

namespace Organism

attribute [local instance] Rounding.binary64

open Act

/-- what the operation may change -/
def Operation.parts : Operation → List Part
  | status | awareness => [.awareness]
  | damage | heal => [.health, .awareness]
  | setSim => [.simLevel]
  | setLogs => [.verbosity]
  | save => [.files, .notes]
  | load => [.health, .awareness, .notes]
  | help | topology | nodes | organs | peripherals | health | alerts | metrics | capabilities
  | memory => []

theorem Operation.parts_files {op : Operation} (h : .files ∈ op.parts) : op = .save := by
  cases op <;> first | rfl | exact absurd h (by decide)

theorem Operation.parts_simLevel {op : Operation} (h : .simLevel ∈ op.parts) : op = .setSim := by
  cases op <;> first | rfl | exact absurd h (by decide)

namespace Command

theorem touches_change (r : Request) (verb : String)
    {f : Topology → OrganKind → Number → Except Fault (Topology × HealthChange)}
    (hf : ∀ t k x t' c, f t k x = .ok (t', c) → t.Moved t') :
    Touches [.health, .awareness] (change r verb f) := by
  unfold change
  refine (touches_ofExcept _).bind fun target => ?_
  refine Touches.bind (touches_moved (by decide) fun t t' c h => ?_) fun c => ?_
  · exact hf _ _ _ _ _ h
  · exact (touches_refresh (by decide)).bind fun _ => touches_pure _

theorem touches_setSim (r : Request) : Touches [.simLevel] (setSim r) := by
  unfold setSim
  dsimp only
  split
  · exact touches_throw _
  · exact (touches_setSimLevel (by decide) _).bind fun _ => touches_pure _

theorem touches_setLogs (r : Request) : Touches [.verbosity] (setLogs r) := by
  unfold setLogs
  dsimp only
  split
  · exact touches_throw _
  · refine Touches.bind (touches_update (p := .verbosity) (by decide) ?_) fun _ => touches_pure _
    exact fun b => .verbosity b _

theorem touches_save (setup : Setup) (r : Request) : Touches [.files, .notes] (save setup r) := by
  unfold save
  dsimp only
  exact (touches_saveState (by decide) (by decide) _).bind fun _ => touches_pure _

theorem touches_load (setup : Setup) (r : Request) :
    Touches [.health, .awareness, .notes] (load setup r) := by
  unfold load
  dsimp only
  refine (touches_loadState (by decide) (by decide) _).bind fun values => ?_
  refine (touches_refresh (by decide)).bind fun awareness => ?_
  split
  · exact touches_pure _
  · exact touches_pure _

theorem touches_awareness : Touches [.awareness] Query.awareness :=
  (touches_refresh (by decide)).bind fun _ => touches_pure _

theorem touches_status : Touches [.awareness] Query.status := by
  unfold Query.status
  refine (touches_refresh (by decide)).bind fun score => ?_
  refine touches_get.bind fun b => ?_
  exact (touches_ofExcept _).bind fun _ => touches_pure _

/-- **An operation changes what it is there to change, and nothing else.** -/
theorem touches_perform (setup : Setup) (r : Request) :
    Touches r.operation.parts (perform setup r) := by
  unfold perform
  refine touches_get.bind fun b => ?_
  cases r.operation with
  | help => exact touches_pure _
  | status => exact touches_status
  | topology => exact touches_pure _
  | nodes => exact touches_pure _
  | organs => exact touches_pure _
  | peripherals => exact touches_pure _
  | health => exact touches_pure _
  | alerts => exact touches_ofExcept _
  | awareness => exact touches_awareness
  | metrics => exact touches_pure _
  | capabilities => exact touches_pure _
  | memory => exact touches_pure _
  | damage => exact touches_change r "damaged" fun _ _ _ _ _ => Topology.damage_moved
  | heal => exact touches_change r "healed" fun _ _ _ _ _ => Topology.heal_moved
  | setSim => exact touches_setSim r
  | setLogs => exact touches_setLogs r
  | save => exact touches_save setup r
  | load => exact touches_load setup r

theorem touches_handle (setup : Setup) (r : Request) :
    Touches (.pulses :: .notes :: r.operation.parts) (handle setup r) := by
  have hperform := (touches_perform setup r).mono (T := .pulses :: .notes :: r.operation.parts)
    fun p hp => List.mem_cons_of_mem _ (List.mem_cons_of_mem _ hp)
  have hexecute : Touches (.pulses :: .notes :: r.operation.parts) (execute setup r) := by
    refine hperform.bind fun result => ?_
    exact (touches_publish List.mem_cons_self _).bind fun _ => touches_pure _
  refine hexecute.tryCatch fun e => Touches.ite ?_ (touches_throw e)
  refine (touches_note (by simp) _ _ _).bind fun _ => ?_
  exact (touches_publish List.mem_cons_self _).bind fun _ => touches_pure _

end Command
end Organism
