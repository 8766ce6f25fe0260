import Organism.Proofs.Settings.Ranges
import Mathlib.Data.List.Perm.Basic

/-!
# The entries of documents

A document is a map of names to values, some of which are documents themselves.  Whatever counts as
absent stands for a document without entries.

* `Value.entries`       the entries that a value stands for;
* `Value.at?`           what stands in a document under names, one inside the other;
* `Settings.Known`      all keys of a document are among some names;
* `sectionEntries_ok`   only documents with known keys are read as a section;
* `readIntensity_ok`, `readSimulation_ok`   all that is looked at in the other documents;
* `Settings.levels`     the levels of the documents of settings, and the names at each of them.
-/

namespace Organism

/-! ## values of names -/

namespace Value

def entries (v : Value) : List (Value × Value) := (Settings.entriesOf v).toOption.getD []

/-- what stands in a value under names, one inside the other -/
def at? : List String → Value → Option Value
  | [], v => some v
  | name :: path, v => (field? v.entries name).bind (at? path)

theorem beq_text_iff {k : Value} {name : String} : (k == text name) = true ↔ k = text name := by
  cases k with
  | text s =>
    show (s == name) = true ↔ _
    rw [beq_iff_eq, text.injEq]
  | _ => exact ⟨nofun, nofun⟩

theorem text_ne {s t : String} (h : s ≠ t) : text s ≠ text t := fun heq => h (text.inj heq)

theorem entriesOf_map (es : List (Value × Value)) : Settings.entriesOf (map es) = .ok es := by
  cases es <;> rfl

theorem entries_map (es : List (Value × Value)) : (map es).entries = es := by
  cases es <;> rfl

theorem entries_of_isEmpty {v : Value} (h : v.isEmpty = true) : v.entries = [] := by
  unfold entries Settings.entriesOf
  rw [if_pos h]
  rfl

theorem entries_of_ok {v : Value} {es : List (Value × Value)} (h : Settings.entriesOf v = .ok es) :
    v.entries = es := by
  unfold entries
  rw [h]
  rfl

theorem at?_singleton (v : Value) (name : String) : v.at? [name] = field? v.entries name := by
  unfold at?
  cases field? v.entries name <;> rfl

theorem at?_append (v : Value) (path : List String) (name : String) :
    v.at? (path ++ [name]) = ((v.at? path).getD .none).at? [name] := by
  induction path generalizing v with
  | nil => rfl
  | cons first path ih =>
    show (field? v.entries first).bind (at? (path ++ [name])) =
      (((field? v.entries first).bind (at? path)).getD none).at? [name]
    cases field? v.entries first with
    | none => rfl
    | some w => exact ih w

theorem field?_cons (k v : Value) (es : List (Value × Value)) (name : String) :
    field? ((k, v) :: es) name = if k == text name then some v else field? es name := by
  unfold field?
  rw [List.find?_cons]
  cases k == text name <;> rfl

theorem field?_cons_self (v : Value) (es : List (Value × Value)) (name : String) :
    field? ((text name, v) :: es) name = some v := by
  rw [field?_cons, if_pos (beq_text_iff.mpr rfl)]

theorem field?_cons_of_ne {k : Value} {name : String} (h : k ≠ text name) (v : Value)
    (es : List (Value × Value)) : field? ((k, v) :: es) name = field? es name := by
  rw [field?_cons, if_neg fun hk => h (beq_text_iff.mp hk)]

theorem field?_of_mem {es : List (Value × Value)} (hkeys : (es.map (·.1)).Nodup) {name : String}
    {v : Value} (h : (text name, v) ∈ es) : field? es name = some v := by
  induction es with
  | nil => cases h
  | cons e es ih =>
    obtain ⟨k, w⟩ := e
    obtain ⟨hmem, hkeys⟩ := List.nodup_cons.mp hkeys
    rcases List.mem_cons.mp h with heq | h
    · cases heq
      exact field?_cons_self ..
    · have hne : k ≠ text name := fun hk => hmem (List.mem_map.mpr ⟨_, h, hk.symm⟩)
      exact (field?_cons_of_ne hne ..).trans (ih hkeys h)

theorem at?_record_map (f : String → Value → Value) {fields : List (String × Value)} {name : String}
    (h : name ∈ fields.map (·.1)) :
    ∃ d, (record fields).at? [name] = some d ∧
      (record (fields.map fun e => (e.1, f e.1 e.2))).at? [name] = some (f name d) := by
  unfold record
  simp only [at?_singleton, entries_map]
  induction fields with
  | nil => cases h
  | cons e fields ih =>
    rw [List.map_cons, List.map_cons, List.map_cons]
    by_cases he : e.1 = name
    · subst he
      exact ⟨e.2, field?_cons_self .., field?_cons_self ..⟩
    · have hne : text e.1 ≠ text name := text_ne he
      rw [field?_cons_of_ne hne, field?_cons_of_ne hne]
      refine ih ?_
      rcases List.mem_cons.mp h with rfl | h
      · exact absurd rfl he
      · exact h

end Value

namespace Settings

open Value

theorem given_eq_at? (es : List (Value × Value)) (name : String) :
    given es name .none = ((Value.map es).at? [name]).getD .none := by
  rw [at?_singleton, entries_map]
  rfl

/-! ## known keys -/

def Known (names : List String) (v : Value) : Prop :=
  ∀ k ∈ v.entries.map (·.1), ∃ n ∈ names, k = .text n

theorem known_of_entries {names : List String} {v : Value} (h : v.entries = []) :
    Known names v := by
  unfold Known
  rw [h]
  exact nofun

theorem strangers_eq_nil_iff {names : List String} {es : List (Value × Value)} :
    strangers names es = [] ↔ ∀ k ∈ es.map (·.1), ∃ n ∈ names, k = .text n := by
  unfold strangers
  rw [List.filter_eq_nil_iff]
  refine forall₂_congr fun k _ => ?_
  rw [Bool.not_eq_true', Bool.not_eq_false, List.any_eq_true]
  exact exists_congr fun n => and_congr_right fun _ => beq_text_iff

theorem checkNames_iff {part : String} {names : List String} {es : List (Value × Value)} :
    checkNames part names es = .ok () ↔ Known names (.map es) := by
  unfold Known
  rw [entries_map, ← strangers_eq_nil_iff]
  unfold checkNames
  dsimp only
  constructor
  · intro h
    split at h
    · cases h
    · split at h
      · next hempty => exact List.isEmpty_iff.mp hempty
      · cases h
  · intro h
    rw [h]
    rfl

theorem sectionEntries_ok {part : String} {names : List String} {v : Value}
    {es : List (Value × Value)} (h : sectionEntries part names v = .ok es) :
    v.entries = es ∧ Known names v := by
  unfold sectionEntries at h
  split at h
  · next hempty =>
    cases h
    exact ⟨entries_of_isEmpty hempty, known_of_entries (entries_of_isEmpty hempty)⟩
  · split at h
    · next es' _ =>
      obtain ⟨⟨⟩, hnames, h⟩ := ok_of_bind h
      cases h
      exact ⟨entries_map es, checkNames_iff.mp hnames⟩
    · cases h

theorem sectionEntries_map {part : String} {names : List String} {es : List (Value × Value)}
    (h : Known names (.map es)) : sectionEntries part names (.map es) = .ok es := by
  cases es with
  | nil => rfl
  | cons e es =>
    show (do checkNames part names (e :: es); return e :: es) = _
    rw [checkNames_iff.mpr h]
    rfl

/-! ## the simulation -/

variable {v : Value}

/-- the settings of an intensity that are given, and the others as they are -/
def overIntensity (es : List (Value × Value)) (d : Intensity) : Intensity where
  faultProbability := given es "fault_probability" d.faultProbability
  damageMin := given es "damage_min" d.damageMin
  damageMax := given es "damage_max" d.damageMax
  recovery := given es "recovery" d.recovery

theorem readIntensity_ok {part : String} {d x : Intensity} (h : readIntensity part d v = .ok x) :
    Known ["fault_probability", "damage_min", "damage_max", "recovery"] v ∧
      x = overIntensity v.entries d := by
  unfold readIntensity at h
  split at h
  · next hempty =>
    cases h
    have hes := entries_of_isEmpty hempty
    rw [hes]
    exact ⟨known_of_entries hes, rfl⟩
  · split at h
    · next es _ =>
      obtain ⟨⟨⟩, hnames, h⟩ := ok_of_bind h
      cases h
      rw [entries_map]
      exact ⟨checkNames_iff.mp hnames, rfl⟩
    · cases h

theorem readIntensity_map {part : String} {d : Intensity} {es : List (Value × Value)}
    (h : Known ["fault_probability", "damage_min", "damage_max", "recovery"] (.map es)) :
    readIntensity part d (.map es) = .ok (overIntensity es d) := by
  cases es with
  | nil => rfl
  | cons e es =>
    show (do checkNames _ _ _; return _) = _
    rw [checkNames_iff.mpr h]
    rfl

section
variable [Rounding]

theorem readSimulation_ok {x : SimulationSettings} (h : readSimulation v = .ok x) :
    ∃ es, entriesOf v = .ok es ∧ Known ["seed", "low", "high"] (.map es) ∧
      readIntensity "simulation.low" .low (given es "low" .none) = .ok x.low ∧
      readIntensity "simulation.high" .high (given es "high" .none) = .ok x.high ∧
      x.seed = given es "seed" (.whole 7) := by
  obtain ⟨es, hes, h⟩ := ok_of_bind h
  obtain ⟨low, hlow, h⟩ := ok_of_bind h
  obtain ⟨high, hhigh, h⟩ := ok_of_bind h
  obtain ⟨⟨⟩, hnames, h⟩ := ok_of_bind h
  cases h
  exact ⟨es, hes, checkNames_iff.mp hnames, hlow, hhigh, rfl⟩

theorem readSimulation_map {x : SimulationSettings} {es : List (Value × Value)}
    (hknown : Known ["seed", "low", "high"] (.map es))
    (hlow : readIntensity "simulation.low" .low (given es "low" .none) = .ok x.low)
    (hhigh : readIntensity "simulation.high" .high (given es "high" .none) = .ok x.high)
    (hseed : x.seed = given es "seed" (.whole 7)) : readSimulation (.map es) = .ok x := by
  unfold readSimulation
  dsimp only
  rw [entriesOf_map]
  show (do
    let low ← readIntensity "simulation.low" .low (given es "low" .none)
    let high ← readIntensity "simulation.high" .high (given es "high" .none)
    checkNames "simulation" ["seed", "low", "high"] es
    return (⟨given es "seed" (.whole 7), low, high⟩ : SimulationSettings)) = _
  rw [hlow, hhigh, ← hseed]
  show (do checkNames _ _ _; return _) = _
  rw [checkNames_iff.mpr hknown]
  rfl

end

/-! ## levels of a document -/

/-- one level of the documents of settings: where it stands, and what stands there -/
structure Level where
  path : List String
  settings : List String
  parts : List String

namespace Level

def names (l : Level) : List String := l.settings ++ l.parts

def top : Level where
  path := []
  settings := ["telemetry", "sim_level", "log_filter"]
  parts := ["scheduler", "health", "simulation", "persistence", "logging"]

def scheduler : Level where
  path := ["scheduler"]
  settings := ["tick_interval_sec", "heartbeat_interval", "status_interval", "ai_interval",
    "simulation_interval", "history_size"]
  parts := []

def health : Level where
  path := ["health"]
  settings := ["max_step", "recovery_step", "max_penalties"]
  parts := []

def simulation : Level where
  path := ["simulation"]
  settings := ["seed"]
  parts := ["low", "high"]

def intensity (level : String) : Level where
  path := ["simulation", level]
  settings := ["fault_probability", "damage_min", "damage_max", "recovery"]
  parts := []

def persistence : Level where
  path := ["persistence"]
  settings := ["state_path", "autoload", "autosave"]
  parts := []

def logging : Level where
  path := ["logging"]
  settings := ["level", "format", "file"]
  parts := []

end Level

def levels : List Level :=
  [.top, .scheduler, .health, .simulation, .intensity "low", .intensity "high", .persistence,
    .logging]

end Settings
end Organism
