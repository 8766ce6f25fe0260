import Organism.Body
import Organism.Proofs.Anatomy.Moves
import Organism.Proofs.Body.Act
import Organism.Proofs.Command.Failure
import Organism.Proofs.Files.Tree

/-!
# Healths that are saved and taken back

What is saved by one body can be taken back by another, or by the same one later, as long as the
file is there.

* `loadBytes_saved`        **the bytes of one whole topology put its healths into another**;
* `Body.Saved`             the file of a path holds the healths, and no other file was changed;
* `run_saveState`          saving is replacing the file, and fails if that does;
* `leads_saveState`        **saving does that, or fails and changes no file at all**;
* `Body.Holding`           all organs are there, and a file holds healths that were saved;
* `Body.Restored`          the healths are the saved ones, and awareness goes with them;
* `loadState_bears`, `takeOver_restores`   **from such a body, loading cannot fail**;
* `run_restore`            the same before the first tick;
* `Command.Wrote`          how a request to save ends: **the file is written, or no file is changed**;
* `Command.leads_save`     it ends so, whatever becomes of it;
* `Command.leads_load`     **a request to load from a file that holds saved healths succeeds**, and
                           takes them back.
-/

namespace Organism

attribute [local instance] Rounding.binary64

/-! ## topologies -/

namespace Topology

variable {s t t' : Topology}

theorem Whole.healths_eq (h : t.Whole) :
    ∃ c m i, t.healths = [(.cortex, c), (.memory, m), (.ioBridge, i)] ∧
      t.awareness = .ok (awarenessOf c m i) := by
  obtain ⟨c, hc, -⟩ := h.organ? .cortex
  obtain ⟨m, hm, -⟩ := h.organ? .memory
  obtain ⟨i, hi, -⟩ := h.organ? .ioBridge
  refine ⟨c.health, m.health, i.health, ?_, awareness_eq hc hm hi⟩
  have horgans : t.organs = [c, m, i] := by
    show List.filterMap t.organ? [.cortex, .memory, .ioBridge] = _
    rw [List.filterMap_cons_some hc, List.filterMap_cons_some hm, List.filterMap_cons_some hi]
    rfl
  unfold healths
  rw [horgans, ← kind_of_organ? hc, ← kind_of_organ? hm, ← kind_of_organ? hi]
  rfl

/-- **The bytes of one whole topology put its healths into another.** -/
theorem loadBytes_saved (hs : s.Whole) (hx : s.Each Number.IsHealth) (ht : t.Whole) :
    ∃ t', t.loadBytes (Utf8.encode (State.write s)) = .ok (t', s.healths) ∧ t'.Whole ∧
      t'.healths = s.healths := by
  obtain ⟨t', hl, hsaved, -⟩ := loadBytes_write (storable_iff_each.mpr hx) fun k _ => ht.has k
  refine ⟨t', hl, ht.loaded (loaded_of_loadBytes hl), healths_congr fun k => ?_⟩
  obtain ⟨o, ho, -⟩ := hs.organ? k
  obtain ⟨p, hp, -⟩ := ht.organ? k
  rw [hsaved k o p ho hp, ho]
  rfl

end Topology

/-! ## bodies -/

namespace Body

/-- the file of the path holds the healths of the first body, and no other file was changed -/
def Saved (path : FilePath) (b b' : Body) : Prop :=
  b'.files.read path = .ok (Utf8.encode (State.write b.topology)) ∧
    ∃ place, b'.files.place? path = some place ∧ FileSystem.Keeps [place] b.files b'.files

/-- all organs are there, and the file of the path holds the healths of the topology -/
structure Holding (path : FilePath) (s : Topology) (b : Body) : Prop where
  whole : b.topology.Whole
  file : b.files.read path = .ok (Utf8.encode (State.write s))

structure Bearing (s : Topology) (b : Body) : Prop where
  whole : b.topology.Whole
  healths : b.topology.healths = s.healths

/-- the healths are those of the topology, and the awareness is the one that goes with them -/
structure Restored (s : Topology) (b : Body) : Prop where
  healths : b.topology.healths = s.healths
  awareness : ∃ c m i, s.healths = [(.cortex, c), (.memory, m), (.ioBridge, i)] ∧
    b.bus.awareness = awarenessOf c m i

end Body

namespace Act

open Body

variable {b : Body} {path : FilePath} {s : Topology}

/-! ## saving -/

/-- **What saving does with files, and whether it fails, is what replacing does.** -/
theorem run_saveState (b : Body) (path : FilePath) :
    let replaced := b.files.replace path (Utf8.encode (State.write b.topology))
    ((saveState path).run b).2.files = replaced.1 ∧
      ((saveState path).run b).1.isOk = replaced.2.isOk := by
  intro replaced
  have hleads : Leads (fun b' => b' = b) (saveState path)
      (fun _ b' => b'.files = replaced.1 ∧ replaced.2.isOk = true)
      fun _ b' => b'.files = replaced.1 ∧ replaced.2.isOk = false := by
    unfold saveState
    refine leads_bind (Q := fun c b' => c = b ∧ b' = b) (leads_get fun b' h => ⟨h, h⟩) fun c => ?_
    dsimp only
    refine leads_bind (Q := fun _ b' => b'.files = replaced.1 ∧ c = b) (leads_update ?_)
      fun _ => leads_assume ?_
    · rintro b' ⟨rfl, rfl⟩
      exact ⟨rfl, rfl⟩
    rintro rfl
    split
    · next hr => exact leads_update fun b' h => ⟨h, congrArg Except.isOk hr⟩
    · next hr => exact leads_throw fun b' h => ⟨h, congrArg Except.isOk hr⟩
    · next hr => exact leads_throw fun b' h => ⟨h, congrArg Except.isOk hr⟩
  have hrun := hleads.after b rfl
  rcases h : (saveState path).run b with ⟨e | _, b'⟩
  · rw [h] at hrun
    exact ⟨hrun.1, hrun.2.symm⟩
  · rw [h] at hrun
    exact ⟨hrun.1, hrun.2.symm⟩

/-- **Saving puts the healths into the file and changes no other, or fails and changes none.** -/
theorem leads_saveState (b : Body) (path : FilePath) :
    Leads (fun b' => b' = b) (saveState path) (fun _ b' => b.Saved path b')
      fun _ b' => FileSystem.Keeps [] b.files b'.files := by
  refine ⟨?_⟩
  rintro b rfl
  obtain ⟨hfiles, hends⟩ := run_saveState b path
  rcases hr : b.files.replace path (Utf8.encode (State.write b.topology)) with ⟨files, e | _⟩
  · rw [hr] at hfiles hends
    rcases hrun : (saveState path).run b with ⟨e' | _, b'⟩
    · rw [hrun] at hfiles
      obtain rfl : b'.files = files := hfiles
      exact FileSystem.replace_error hr
    · rw [hrun] at hends
      cases hends
  · rw [hr] at hfiles hends
    rcases hrun : (saveState path).run b with ⟨e' | _, b'⟩
    · rw [hrun] at hends
      cases hends
    · rw [hrun] at hfiles
      obtain rfl : b'.files = files := hfiles
      obtain ⟨place, hp, hk, hread⟩ := FileSystem.replace_ok hr
      exact ⟨hread, place, hp, hk⟩

/-! ## taking back -/

section
variable (hs : s.Whole) (hx : s.Each Number.IsHealth)
include hs hx

theorem restoreBytes_bears :
    Leads (fun b => b.topology.Whole) (restoreBytes (Utf8.encode (State.write s)))
      (fun _ => Bearing s) fun _ _ => False := by
  refine leads_onTopology (fun b hb t values h => ?_) fun b hb e h => ?_
  · obtain ⟨t', hl, hw, hh⟩ := Topology.loadBytes_saved hs hx hb
    rw [hl] at h
    cases h
    exact ⟨hw, hh⟩
  · obtain ⟨t', hl, -, -⟩ := Topology.loadBytes_saved hs hx hb
    rw [hl] at h
    cases h

/-- **A file that holds saved healths can be loaded.** -/
theorem loadState_bears :
    Leads (Holding path s) (loadState path) (fun values b => Bearing s b ∧ values.isSome = true)
      fun _ _ => False := by
  unfold loadState
  refine leads_bind (Q := fun c b => b.topology.Whole ∧
    c.files.read path = .ok (Utf8.encode (State.write s))) ?_ fun c => leads_assume fun hc => ?_
  · exact leads_get fun b h => ⟨h.whole, h.file⟩
  rw [hc]
  refine leads_bind (restoreBytes_bears hs hx) fun values => ?_
  refine leads_bind (Q := fun _ => Bearing s) (leads_update fun b h => ⟨h.whole, h.healths⟩)
    fun _ => leads_pure fun b h => ⟨h, rfl⟩

end

theorem refresh_restores :
    Leads (Bearing s) refreshAwareness (fun _ => Restored s) fun _ _ => False := by
  unfold refreshAwareness
  refine leads_bind (Q := fun c b => c = b ∧ Bearing s b) (leads_get fun b h => ⟨rfl, h⟩)
    fun c => ?_
  refine leads_bind (Q := fun x b => Bearing s b ∧ b.topology.awareness = .ok x)
    (leads_ofExcept ?_ ?_) fun x => ?_
  · rintro x hx b ⟨rfl, hb⟩
    exact ⟨hb, hx⟩
  · rintro e he b ⟨rfl, hb⟩
    obtain ⟨x, hx, -⟩ := hb.whole.awareness
    rw [hx] at he
    cases he
  refine leads_bind (Q := fun _ => Restored s) (leads_update ?_) fun _ => leads_pure fun b h => h
  rintro b ⟨hb, hx⟩
  obtain ⟨c, m, i, e, ha⟩ := hb.whole.healths_eq
  refine ⟨hb.healths, c, m, i, hb.healths.symm.trans e, ?_⟩
  show x.toUnit = _
  rw [Number.toUnit_eq_self (hb.whole.awareness_inUnit hx)]
  exact Except.ok.inj (hx.symm.trans ha)

section
variable (hs : s.Whole) (hx : s.Each Number.IsHealth)
include hs hx

theorem takeOver_restores :
    Leads (Holding path s) (takeOver path) (fun taken b => taken = true ∧ Restored s b)
      fun _ _ => False := by
  unfold takeOver
  refine leads_bind (loadState_bears hs hx) fun values => leads_assume fun hv => ?_
  exact leads_bind refresh_restores fun _ => leads_pure fun b h => ⟨hv, h⟩

/-- **Before the first tick, healths are taken back from a file that holds them.** -/
theorem run_restore (hb : Holding path s b) :
    ((restore path).run b).1 = .ok true ∧ Restored s ((restore path).run b).2 := by
  have hrun := (takeOver_restores hs hx).after b hb
  rcases htake : (takeOver path).run b with ⟨e | taken, b'⟩
  · rw [htake] at hrun
    exact hrun.elim
  · rw [htake] at hrun
    obtain ⟨rfl, hr⟩ := hrun
    have hrestore : (restore path).run b = (.ok true, b') := run_tryCatch_ok htake
    rw [hrestore]
    exact ⟨rfl, hr⟩

end
end Act

/-! ## commands -/

namespace Command

open Act Body

variable (setup : Setup) {r : Request} {s : Topology}

/-- the file is written and the result says so, or no file is changed and the result says so -/
def Wrote (setup : Setup) (r : Request) (b : Body) (result : CommandResult) (b' : Body) : Prop :=
  (result.ok = true ∧ b.Saved (statePath setup r) b') ∨
    (result.ok = false ∧ FileSystem.Keeps [] b.files b'.files)

/-- **A request to save writes the file, or changes no file at all.** -/
theorem leads_save (hr : r.operation = .save) (b : Body) :
    Leads (fun b' => b' = b) (handle setup r) (Wrote setup r b)
      fun _ b' => FileSystem.Keeps [] b.files b'.files := by
  refine leads_handle
    (Q := fun result b' => result.ok = true ∧ b.Saved (statePath setup r) b')
    (E := fun _ b' => FileSystem.Keeps [] b.files b'.files) ?_ ?_ ?_ ?_
  · unfold perform
    refine leads_bind (Q := fun _ b' => b' = b) (leads_get fun _ h => h) fun _ => ?_
    rw [hr]
    unfold save
    exact leads_bind (leads_saveState b _) fun _ => leads_pure fun b' h => ⟨rfl, h⟩
  · exact fun result b' text payload h => .inl h
  · exact fun e b' level source note text payload _ h => .inr ⟨rfl, h⟩
  · exact fun e b' _ h => h

/-- **A request to load from a file that holds saved healths succeeds and takes them back.** -/
theorem leads_load (hr : r.operation = .load) (hs : s.Whole) (hx : s.Each Number.IsHealth) :
    Leads (Holding (statePath setup r) s) (handle setup r)
      (fun result b => result.ok = true ∧ Restored s b) fun _ _ => False := by
  refine leads_handle (Q := fun result b => result.ok = true ∧ Restored s b)
    (E := fun _ _ => False) ?_ ?_ ?_ ?_
  · unfold perform
    refine leads_bind (Q := fun _ => Holding (statePath setup r) s) (leads_get fun _ h => h)
      fun _ => ?_
    rw [hr]
    unfold load
    refine leads_bind (loadState_bears hs hx) fun values => leads_assume fun _ => ?_
    refine leads_bind refresh_restores fun x => ?_
    cases values with
    | none => exact leads_pure fun b h => ⟨rfl, h⟩
    | some values => exact leads_pure fun b h => ⟨rfl, h⟩
  · exact fun result b text payload h => ⟨h.1, h.2.healths, h.2.awareness⟩
  · exact fun e b level source note text payload _ h => h.elim
  · exact fun e b _ h => h

end Command
end Organism
