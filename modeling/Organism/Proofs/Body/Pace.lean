import Organism.Command.Handle
import Organism.Proofs.Body.Frame
import Organism.Proofs.Health.Pace

/-!
# Bodies whose healths move slowly

Most acts leave the topology and the level of the simulation alone, in every arithmetic.  Three
operations are there to write healths; every other leaves the whole topology as it is, whatever
becomes of the request.

* `Body.Meets`      a relation of the topology and the level: all that such an act can depend on;
* `meets_refresh`, `meets_saveState`, `Meets.advance`   what leaves both alone;
* `Command.meets_handle`   **a command that writes no health, with its reports**;
* `Body.Strayed`    the healths are within a bound of where they were, and the simulation is off.
-/

namespace Organism

open Act

namespace Body

/-- the topology and the level of the simulation are related -/
def Meets (R : Topology → SimLevel → Prop) (b : Body) : Prop := R b.topology b.bus.simLevel

variable {R : Topology → SimLevel → Prop} {b : Body}

theorem Meets.notify (h : b.Meets R) (shown : Observer × Pulse) : (b.notify shown).Meets R := by
  unfold Body.notify
  split
  · exact h
  · exact h
  · split
    · exact h
    · exact h

theorem Meets.advance (h : b.Meets R) (tick : Int) : (b.advance tick).Meets R := by
  unfold Body.advance
  dsimp only
  generalize Bus.surfaced _ = shown
  have h0 : Meets R { b with bus := b.bus.advance tick } := h
  generalize { b with bus := b.bus.advance tick } = b0 at h0
  induction shown generalizing b0 with
  | nil => exact h0
  | cons s shown ih => exact ih (b0.notify s) (h0.notify s)

end Body

open Body

section
variable [Rounding] {R : Topology → SimLevel → Prop}

theorem Act.meets_refresh : Keeps (Meets R) refreshAwareness := by
  unfold refreshAwareness
  refine keeps_get.bind fun b => ?_
  refine (keeps_ofExcept _).bind fun x => ?_
  exact Keeps.bind (keeps_update fun _ h => h) fun _ => keeps_pure _

theorem Act.meets_saveState (path : FilePath) : Keeps (Meets R) (saveState path) := by
  unfold saveState
  refine keeps_get.bind fun b => ?_
  dsimp only
  refine Keeps.bind (keeps_update fun _ h => h) fun _ => ?_
  split
  · exact keeps_update fun _ h => h
  · exact keeps_throw _
  · exact keeps_throw _

end

/-! ## commands -/

namespace Command

variable {R : Topology → SimLevel → Prop} {Q : Topology → Prop}

theorem meets_setSim (r : Request) : Keeps (Meets fun t _ => Q t) (setSim r) := by
  unfold setSim
  dsimp only
  split
  · exact keeps_throw _
  · next level _ =>
    refine Keeps.bind (keeps_update fun b h => ?_) fun _ => keeps_pure _
    obtain ⟨journal, hb⟩ := b.setSimLevel_eq level
    rw [hb]
    exact h

theorem meets_setLogs (r : Request) : Keeps (Meets R) (setLogs r) := by
  unfold setLogs
  dsimp only
  split
  · exact keeps_throw _
  · exact Keeps.bind (keeps_update fun _ h => h) fun _ => keeps_pure _

section
variable [Rounding]

theorem meets_save (setup : Setup) (r : Request) : Keeps (Meets R) (save setup r) := by
  unfold save
  dsimp only
  exact (meets_saveState _).bind fun _ => keeps_pure _

theorem meets_awareness : Keeps (Meets R) Query.awareness :=
  meets_refresh.bind fun _ => keeps_pure _

theorem meets_status : Keeps (Meets R) Query.status := by
  unfold Query.status
  refine meets_refresh.bind fun score => ?_
  refine keeps_get.bind fun b => ?_
  exact (keeps_ofExcept _).bind fun _ => keeps_pure _

variable {r : Request} (hr : r.operation ∉ [Operation.damage, .heal, .load])
include hr

theorem meets_perform (setup : Setup) : Keeps (Meets fun t _ => Q t) (perform setup r) := by
  unfold perform
  refine keeps_get.bind fun b => ?_
  cases hop : r.operation with
  | help => exact keeps_pure _
  | status => exact meets_status
  | topology => exact keeps_pure _
  | nodes => exact keeps_pure _
  | organs => exact keeps_pure _
  | peripherals => exact keeps_pure _
  | health => exact keeps_pure _
  | alerts => exact keeps_ofExcept _
  | awareness => exact meets_awareness
  | metrics => exact keeps_pure _
  | capabilities => exact keeps_pure _
  | memory => exact keeps_pure _
  | damage => exact absurd (by simp [hop]) hr
  | heal => exact absurd (by simp [hop]) hr
  | setSim => exact meets_setSim r
  | setLogs => exact meets_setLogs r
  | save => exact meets_save setup r
  | load => exact absurd (by simp [hop]) hr

theorem meets_handle (setup : Setup) : Keeps (Meets fun t _ => Q t) (handle setup r) := by
  have hexecute : Keeps (Meets fun t _ => Q t) (execute setup r) := by
    refine (meets_perform hr setup).bind fun result => ?_
    exact Keeps.bind (keeps_update fun _ h => h) fun _ => keeps_pure _
  refine hexecute.tryCatch fun e => Keeps.ite ?_ (keeps_throw e)
  refine Keeps.bind (keeps_update fun _ h => h) fun _ => ?_
  exact Keeps.bind (keeps_update fun _ h => h) fun _ => keeps_pure _

end
end Command

/-! ## healths that strayed -/

attribute [local instance] Rounding.exact

/-- the healths of a topology are within bounds of those of another, and the simulation is off -/
structure Body.Strayed (t : Topology) (ε : OrganKind → Rat) (t' : Topology) (level : SimLevel) :
    Prop where
  near : t.Near ε t'
  inUnit : t'.Each Number.InUnit
  off : level = .off

namespace Body.Strayed

variable {t t' t'' : Topology} {ε δ : OrganKind → Rat} {level level' : SimLevel}

theorem mono (h : Strayed t ε t' level) (hle : ε ≤ δ) : Strayed t δ t' level :=
  ⟨h.near.mono hle, h.inUnit, h.off⟩

theorem trans (h : Strayed t ε t' level) (h' : Strayed t' δ t'' level') :
    Strayed t (ε + δ) t'' level' := ⟨h.near.trans h'.near, h'.inUnit, h'.off⟩

theorem evaluate (h : Strayed t ε t' level) : Strayed t ε t'.evaluate.1 level := by
  refine ⟨?_, h.inUnit.evaluate, h.off⟩
  have hnear := h.near.trans t'.near_evaluate
  rwa [add_zero] at hnear

theorem feel {l : Limits} {step : Rat} (hl : l.Paces step) {k : OrganKind} {r : Reading}
    {c : HealthChange} (h : Strayed t ε t' level) (hf : t'.feel l k r = .ok (t'', c)) :
    Strayed t (ε + Pi.single k step) t'' level :=
  ⟨h.near.trans (hl.near_feel h.inUnit hf),
    h.inUnit.written Number.inUnit_toUnit (Topology.feel_written hf), h.off⟩

end Body.Strayed
end Organism
