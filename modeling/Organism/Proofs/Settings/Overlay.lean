import Organism.Proofs.Settings.Entries

/-!
# Entries laid over settings

Each entry of a document changes one of the settings, or is read as one of their parts.  No part is
read from more than its own entry.

* `Overlays`            what one entry does, one rule for each name;
* `foldlM_part`         what becomes of one part of the settings in the end;
* `Overlaid`            all parts, each read from its own entry;
* `foldlM_overlay_iff`  **a document is read exactly if its names are known and its parts can be read**.
-/

namespace Organism.Settings

open Value

/-! ## one entry -/

section
variable [Rounding]

/-- the settings before an entry and after it -/
inductive Overlays (r : RawSettings) : Value → Value → RawSettings → Prop
  | telemetry (v : Value) : Overlays r (.text "telemetry") v { r with telemetry := v }
  | simLevel (v : Value) : Overlays r (.text "sim_level") v { r with simLevel := v }
  | verbosity (v : Value) : Overlays r (.text "log_filter") v { r with verbosity := v }
  | scheduler {v : Value} {x : SchedulerSettings} (read : readScheduler v = .ok x) :
    Overlays r (.text "scheduler") v { r with scheduler := x }
  | health {v : Value} {x : Limits} (read : readHealth v = .ok x) :
    Overlays r (.text "health") v { r with health := x }
  | simulation {v : Value} {x : SimulationSettings} (read : readSimulation v = .ok x) :
    Overlays r (.text "simulation") v { r with simulation := x }
  | storage {v : Value} {x : StorageSettings Value} (read : readStorage v = .ok x) :
    Overlays r (.text "persistence") v { r with storage := x }
  | logging {v : Value} {x : LoggingSettings Value} (read : readLogging v = .ok x) :
    Overlays r (.text "logging") v { r with logging := x }

theorem overlay_iff {r s : RawSettings} {k v : Value} :
    overlay r (k, v) = .ok s ↔ Overlays r k v s := by
  constructor
  · intro h
    unfold overlay at h
    dsimp only at h
    split at h
    · cases h
      exact .telemetry v
    · cases h
      exact .simLevel v
    · cases h
      exact .verbosity v
    · obtain ⟨x, hx, rfl⟩ := ok_of_map h
      exact .scheduler hx
    · obtain ⟨x, hx, rfl⟩ := ok_of_map h
      exact .health hx
    · obtain ⟨x, hx, rfl⟩ := ok_of_map h
      exact .simulation hx
    · obtain ⟨x, hx, rfl⟩ := ok_of_map h
      exact .storage hx
    · obtain ⟨x, hx, rfl⟩ := ok_of_map h
      exact .logging hx
    · cases h
  · intro h
    cases h with
    | telemetry | simLevel | verbosity => rfl
    | scheduler read | health read | simulation read | storage read | logging read =>
      unfold overlay
      dsimp only
      rw [read]
      rfl

/-! ## all entries -/

/-- the part of the settings is read from the entry of the name, and no other entry changes it -/
def ReadFrom {α : Type} (name : String) (read : Value → Except Fault α) (part : RawSettings → α) :
    Prop :=
  ∀ ⦃r s k v⦄, Overlays r k v s →
    k = .text name ∧ read v = .ok (part s) ∨ k ≠ .text name ∧ part s = part r

/-- **What becomes of one part of the settings.**  It is read from the value of its name, if that is
among the entries, and is left as it is by all others. -/
theorem foldlM_part {α : Type} {name : String} {read : Value → Except Fault α}
    {part : RawSettings → α} (hstep : ReadFrom name read part) {es : List (Value × Value)}
    (hkeys : (es.map (·.1)).Nodup) {r s : RawSettings} (h : es.foldlM overlay r = .ok s) :
    (field? es name).elim (.ok (part r)) read = .ok (part s) := by
  -- once the name has come no other entry is for this part, since the keys are all different
  have hrest : ∀ {es : List (Value × Value)} {r : RawSettings}, .text name ∉ es.map (·.1) →
      es.foldlM overlay r = .ok s → part s = part r := by
    intro es
    induction es with
    | nil =>
      intro r _ h
      cases h
      rfl
    | cons e es ih =>
      intro r hmem h
      obtain ⟨hne, hmem⟩ := not_or.mp (List.mem_cons.not.mp hmem)
      rw [List.foldlM_cons] at h
      obtain ⟨t, ht, h⟩ := ok_of_bind h
      rcases hstep (overlay_iff.mp ht) with ⟨heq, -⟩ | ⟨-, hpart⟩
      · exact absurd heq.symm hne
      · exact (ih hmem h).trans hpart
  induction es generalizing r with
  | nil =>
    cases h
    rfl
  | cons e es ih =>
    obtain ⟨k, v⟩ := e
    obtain ⟨hmem, hkeys⟩ := List.nodup_cons.mp hkeys
    rw [List.foldlM_cons] at h
    obtain ⟨t, ht, htail⟩ := ok_of_bind h
    rcases hstep (overlay_iff.mp ht) with ⟨rfl, hread⟩ | ⟨hne, hpart⟩
    · rw [field?_cons_self, hrest hmem htail]
      exact hread
    · rw [field?_cons_of_ne hne, ← hpart]
      exact ih hkeys htail

theorem foldlM_plain {name : String} {part : RawSettings → Value}
    (hstep : ReadFrom name .ok part) {es : List (Value × Value)} (hkeys : (es.map (·.1)).Nodup)
    {r s : RawSettings} (h : es.foldlM overlay r = .ok s) : part s = given es name (part r) := by
  have hpart := foldlM_part hstep hkeys h
  unfold given
  cases hn : field? es name with
  | none =>
    rw [hn] at hpart
    exact (Except.ok.inj hpart).symm
  | some v =>
    rw [hn] at hpart
    exact (Except.ok.inj hpart).symm

theorem foldlM_read {α : Type} {name : String} {read : Value → Except Fault α}
    {part : RawSettings → α} {r s : RawSettings} (hnone : read .none = .ok (part r))
    (hstep : ReadFrom name read part) {es : List (Value × Value)} (hkeys : (es.map (·.1)).Nodup)
    (h : es.foldlM overlay r = .ok s) : read (given es name .none) = .ok (part s) := by
  have hpart := foldlM_part hstep hkeys h
  unfold given
  cases hn : field? es name with
  | none =>
    rw [hn] at hpart
    exact hnone.trans hpart
  | some v =>
    rw [hn] at hpart
    exact hpart

/-- each part of the settings is read from its own entry, or is that of the defaults -/
structure Overlaid (es : List (Value × Value)) (s : RawSettings) : Prop where
  telemetry : s.telemetry = given es "telemetry" RawSettings.standard.telemetry
  simLevel : s.simLevel = given es "sim_level" RawSettings.standard.simLevel
  verbosity : s.verbosity = given es "log_filter" RawSettings.standard.verbosity
  scheduler : readScheduler (given es "scheduler" .none) = .ok s.scheduler
  health : readHealth (given es "health" .none) = .ok s.health
  simulation : readSimulation (given es "simulation" .none) = .ok s.simulation
  storage : readStorage (given es "persistence" .none) = .ok s.storage
  logging : readLogging (given es "logging" .none) = .ok s.logging

theorem Overlaid.unique {es : List (Value × Value)} {s t : RawSettings} (h : Overlaid es s)
    (h' : Overlaid es t) : s = t := by
  obtain ⟨telemetry, simLevel, verbosity, scheduler, health, simulation, storage, logging⟩ := s
  obtain ⟨telemetry', simLevel', verbosity', scheduler', health', simulation', storage',
    logging'⟩ := t
  congr 1
  · exact h.telemetry.trans h'.telemetry.symm
  · exact h.simLevel.trans h'.simLevel.symm
  · exact h.verbosity.trans h'.verbosity.symm
  · exact Except.ok.inj (h.scheduler.symm.trans h'.scheduler)
  · exact Except.ok.inj (h.health.symm.trans h'.health)
  · exact Except.ok.inj (h.simulation.symm.trans h'.simulation)
  · exact Except.ok.inj (h.storage.symm.trans h'.storage)
  · exact Except.ok.inj (h.logging.symm.trans h'.logging)

theorem known_of_foldlM {es : List (Value × Value)} {r s : RawSettings}
    (h : es.foldlM overlay r = .ok s) : Known Level.top.names (.map es) := by
  unfold Known
  rw [entries_map]
  induction es generalizing r with
  | nil => exact nofun
  | cons e es ih =>
    obtain ⟨k, v⟩ := e
    rw [List.foldlM_cons] at h
    obtain ⟨t, ht, h⟩ := ok_of_bind h
    rw [List.map_cons, List.forall_mem_cons]
    refine ⟨?_, ih h⟩
    cases overlay_iff.mp ht with
    | _ => exact ⟨_, by decide, rfl⟩

theorem overlaid_of_foldlM {es : List (Value × Value)} {s : RawSettings}
    (hkeys : (es.map (·.1)).Nodup) (h : es.foldlM overlay RawSettings.standard = .ok s) :
    Overlaid es s where
  telemetry := by
    refine foldlM_plain (fun _ _ _ _ h => ?_) hkeys h
    cases h with
    | telemetry => exact .inl ⟨rfl, rfl⟩
    | _ => exact .inr ⟨text_ne (by decide), rfl⟩
  simLevel := by
    refine foldlM_plain (fun _ _ _ _ h => ?_) hkeys h
    cases h with
    | simLevel => exact .inl ⟨rfl, rfl⟩
    | _ => exact .inr ⟨text_ne (by decide), rfl⟩
  verbosity := by
    refine foldlM_plain (fun _ _ _ _ h => ?_) hkeys h
    cases h with
    | verbosity => exact .inl ⟨rfl, rfl⟩
    | _ => exact .inr ⟨text_ne (by decide), rfl⟩
  scheduler := by
    refine foldlM_read rfl (fun _ _ _ _ h => ?_) hkeys h
    cases h with
    | scheduler read => exact .inl ⟨rfl, read⟩
    | _ => exact .inr ⟨text_ne (by decide), rfl⟩
  health := by
    refine foldlM_read rfl (fun _ _ _ _ h => ?_) hkeys h
    cases h with
    | health read => exact .inl ⟨rfl, read⟩
    | _ => exact .inr ⟨text_ne (by decide), rfl⟩
  simulation := by
    refine foldlM_read rfl (fun _ _ _ _ h => ?_) hkeys h
    cases h with
    | simulation read => exact .inl ⟨rfl, read⟩
    | _ => exact .inr ⟨text_ne (by decide), rfl⟩
  storage := by
    refine foldlM_read rfl (fun _ _ _ _ h => ?_) hkeys h
    cases h with
    | storage read => exact .inl ⟨rfl, read⟩
    | _ => exact .inr ⟨text_ne (by decide), rfl⟩
  logging := by
    refine foldlM_read rfl (fun _ _ _ _ h => ?_) hkeys h
    cases h with
    | logging read => exact .inl ⟨rfl, read⟩
    | _ => exact .inr ⟨text_ne (by decide), rfl⟩

theorem Overlaid.foldlM {es : List (Value × Value)} {s : RawSettings} (h : Overlaid es s)
    (hkeys : (es.map (·.1)).Nodup) (hknown : Known Level.top.names (.map es)) :
    es.foldlM overlay RawSettings.standard = .ok s := by
  have hgiven : ∀ {n v}, (.text n, v) ∈ es → given es n .none = v := by
    intro n v hmem
    unfold given
    rw [field?_of_mem hkeys hmem]
    rfl
  have hstep : ∀ e ∈ es, ∀ r, ∃ r', overlay r e = .ok r' := by
    rintro ⟨k, v⟩ hmem r
    unfold Known at hknown
    rw [entries_map] at hknown
    obtain ⟨n, hn, rfl⟩ := hknown k (List.mem_map.mpr ⟨_, hmem, rfl⟩)
    have hv := hgiven hmem
    suffices ∃ r', Overlays r (.text n) v r' from
      this.imp fun _ => overlay_iff.mpr
    simp only [Level.names, Level.top, List.cons_append, List.nil_append, List.mem_cons,
      List.not_mem_nil, or_false] at hn
    rcases hn with rfl | rfl | rfl | rfl | rfl | rfl | rfl | rfl
    · exact ⟨_, .telemetry v⟩
    · exact ⟨_, .simLevel v⟩
    · exact ⟨_, .verbosity v⟩
    · exact ⟨_, .scheduler (hv ▸ h.scheduler)⟩
    · exact ⟨_, .health (hv ▸ h.health)⟩
    · exact ⟨_, .simulation (hv ▸ h.simulation)⟩
    · exact ⟨_, .storage (hv ▸ h.storage)⟩
    · exact ⟨_, .logging (hv ▸ h.logging)⟩
  obtain ⟨t, ht⟩ := foldlM_ok hstep RawSettings.standard
  rw [ht, h.unique (overlaid_of_foldlM hkeys ht)]

/-- **The entries of a document are laid over the defaults exactly if their names are known and the
parts of the settings can be read from them.** -/
theorem foldlM_overlay_iff {es : List (Value × Value)} {s : RawSettings}
    (hkeys : (es.map (·.1)).Nodup) :
    es.foldlM overlay RawSettings.standard = .ok s ↔
      Known Level.top.names (.map es) ∧ Overlaid es s :=
  ⟨fun h => ⟨known_of_foldlM h, overlaid_of_foldlM hkeys h⟩, fun h => h.2.foldlM hkeys h.1⟩

theorem ofValue_map {es : List (Value × Value)} : ofValue (.map es) = ofEntries es := by
  unfold ofValue
  rw [entriesOf_map]
  rfl

end
end Organism.Settings
