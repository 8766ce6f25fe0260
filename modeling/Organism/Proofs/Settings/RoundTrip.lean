import Organism.Proofs.Files.Path
import Organism.Proofs.Settings.Ranges

/-!
# Settings that come back

Settings are written into a document with a name for every one of them, and levels and paths as
texts.  The document says nothing of how they were given, but it is read as the same settings.

* `readScheduler_toValue`, …   one section after the other;
* `foldlM_toValue`             all sections, laid over any settings;
* `refine_raw`                 levels and paths made of their texts;
* `paths_of_refine`            the paths in settings were read from texts;
* `ofValue_toValue_iff`        **settings are read back exactly if they are in range and their paths
                               can be read**;
* `settings_come_back`         so are all settings that were read from a document.
-/

namespace Organism.Settings

variable {s : Settings}

/-! ## sections -/

theorem readStorage_toValue (x : StorageSettings Value) : readStorage x.toValue = .ok x := rfl

theorem readLogging_toValue (x : LoggingSettings Value) : readLogging x.toValue = .ok x := rfl

theorem readIntensity_toValue (part : String) (d x : Intensity) :
    readIntensity part d x.toValue = .ok x := rfl

section
variable [Rounding]

theorem readScheduler_toValue (x : SchedulerSettings) : readScheduler x.toValue = .ok x := rfl

theorem readHealth_toValue (x : Limits) : readHealth x.toValue = .ok x := rfl

theorem readSimulation_toValue (x : SimulationSettings) : readSimulation x.toValue = .ok x := by
  show (do
    let low ← readIntensity "simulation.low" .low x.low.toValue
    let high ← readIntensity "simulation.high" .high x.high.toValue
    .ok { x with low, high }) = _
  rw [readIntensity_toValue, readIntensity_toValue]
  rfl

/-- **A document of settings names all of them**, so that it does not matter what it is laid over. -/
theorem foldlM_toValue (r t : RawSettings) :
    ∃ entries, r.toValue = .map entries ∧ entries.foldlM overlay t = .ok r := by
  refine ⟨_, rfl, ?_⟩
  show (do
    let scheduler ← readScheduler r.scheduler.toValue
    let health ← readHealth r.health.toValue
    let simulation ← readSimulation r.simulation.toValue
    let storage ← readStorage r.storage.toValue
    let logging ← readLogging r.logging.toValue
    .ok { r with scheduler, health, simulation, storage, logging }) = _
  rw [readScheduler_toValue, readHealth_toValue, readSimulation_toValue, readStorage_toValue,
    readLogging_toValue]
  rfl

end

/-! ## levels and paths -/

theorem readLevel_label [Rounding] (l : SimLevel) : readLevel (.text l.label) = .ok l := by
  cases l <;> rfl

theorem readVerbosity_label [Rounding] (v : Verbosity) :
    readVerbosity (.text v.label) = .ok v := by
  cases v <;> rfl

/-- the paths in settings are such that they can be read from texts -/
structure PathsRead (s : Settings) : Prop where
  statePath : s.storage.statePath.Read
  file : ∀ p, s.logging.file = some p → p.Read

theorem readPath_ok {v : Value} {p : FilePath} (h : readPath v = .ok p) :
    ∃ t, v = .text t ∧ p = .ofString t := by
  cases v with
  | text t =>
    cases h
    exact ⟨t, rfl, rfl⟩
  | _ => cases h

theorem readPath?_ok {v : Value} {p : Option FilePath} (h : readPath? v = .ok p) :
    v = .none ∧ p = none ∨ ∃ t, v = .text t ∧ p = some (.ofString t) := by
  cases v with
  | none =>
    cases h
    exact .inl ⟨rfl, rfl⟩
  | text t =>
    cases h
    exact .inr ⟨t, rfl, rfl⟩
  | _ => cases h

section
variable [Rounding]

theorem refine_ok {r : RawSettings} (h : refine r = .ok s) :
    readLevel r.simLevel = .ok s.simLevel ∧ readVerbosity r.verbosity = .ok s.verbosity ∧
      readPath r.storage.statePath = .ok s.storage.statePath ∧
      readPath? r.logging.file = .ok s.logging.file ∧
      s = { r with
        simLevel := s.simLevel
        verbosity := s.verbosity
        storage := { r.storage with statePath := s.storage.statePath }
        logging := { r.logging with file := s.logging.file } } := by
  obtain ⟨level, hlevel, h⟩ := ok_of_bind h
  obtain ⟨verbosity, hverbosity, h⟩ := ok_of_bind h
  obtain ⟨path, hpath, h⟩ := ok_of_bind h
  obtain ⟨file, hfile, h⟩ := ok_of_bind h
  cases h
  exact ⟨hlevel, hverbosity, hpath, hfile, rfl⟩

theorem paths_of_refine {r : RawSettings} (h : refine r = .ok s) : s.PathsRead := by
  obtain ⟨-, -, hpath, hfile, -⟩ := refine_ok h
  constructor
  · obtain ⟨t, -, ht⟩ := readPath_ok hpath
    rw [ht]
    exact FilePath.read_ofString t
  · intro p hp
    rcases readPath?_ok hfile with ⟨-, hnone⟩ | ⟨t, -, ht⟩
    · rw [hp] at hnone
      cases hnone
    · rw [hp] at ht
      rw [Option.some.inj ht]
      exact FilePath.read_ofString t

/-- **Levels and paths are read back from their texts.** -/
theorem refine_raw (h : s.PathsRead) : refine s.raw = .ok s := by
  have hpath : readPath s.raw.storage.statePath = .ok s.storage.statePath :=
    congrArg Except.ok h.statePath.ofString_text
  have hfile : readPath? s.raw.logging.file = .ok s.logging.file := by
    show readPath? ((s.logging.file.map fun p => Value.text p.text).getD .none) = _
    cases hf : s.logging.file with
    | none => rfl
    | some p => exact congrArg (fun p => Except.ok (some p)) (h.file p hf).ofString_text
  unfold refine
  rw [show readLevel s.raw.simLevel = .ok s.simLevel from readLevel_label s.simLevel,
    show readVerbosity s.raw.verbosity = .ok s.verbosity from readVerbosity_label s.verbosity,
    hpath, hfile]
  rfl

/-! ## documents -/

theorem ofValue_toValue (h : s.PathsRead) :
    ofValue s.toValue = (Settings.check s >>= fun _ => .ok s) := by
  obtain ⟨entries, hentries, hfold⟩ := foldlM_toValue s.raw .standard
  have hread : entriesOf s.toValue = .ok entries := by
    show entriesOf s.raw.toValue = _
    rw [hentries]
    cases entries <;> rfl
  unfold ofValue
  rw [hread]
  show ofEntries entries = _
  unfold ofEntries
  rw [hfold]
  show (refine s.raw >>= _) = _
  rw [refine_raw h]
  rfl

theorem in_order_of_ofValue {v : Value} (h : ofValue v = .ok s) : s.InRange ∧ s.PathsRead := by
  obtain ⟨entries, -, hentries⟩ := ok_of_bind h
  obtain ⟨raw, -, hrefine, hcheck⟩ := ofEntries_ok hentries
  exact ⟨check_iff.mp hcheck, paths_of_refine hrefine⟩

/-- **Settings are read back from their document exactly if they are in range and their paths are
such that they can be read.** -/
theorem ofValue_toValue_iff : ofValue s.toValue = .ok s ↔ s.InRange ∧ s.PathsRead := by
  constructor
  · exact in_order_of_ofValue
  · rintro ⟨hrange, hpaths⟩
    rw [ofValue_toValue hpaths, check_iff.mpr hrange]
    rfl

/-- **Settings come back from the document that is made of them.**  Whatever document they were read
from, their own document is accepted and read as the same settings, and so their document is the same
again. -/
theorem settings_come_back {v : Value} (h : ofValue v = .ok s) :
    ∃ again, ofValue s.toValue = .ok again ∧ again = s ∧ again.toValue = s.toValue := by
  exact ⟨s, ofValue_toValue_iff.mpr (in_order_of_ofValue h), rfl, rfl⟩

end

attribute [local instance] Rounding.binary64

/-- other names of levels, a path with more in it than it needs, a part of one intensity, a section
without anything in it, and a greatest penalty -/
theorem settings_come_back_given :
    let v : Value := .map [(.text "log_filter", .text " NONE "), (.text "sim_level", .flag false),
      (.text "persistence", .map [(.text "state_path", .text "//var/./aion//state")]),
      (.text "simulation", .list [.list [.text "low", .map [(.text "recovery", .text "?")]]]),
      (.text "scheduler", .flag false),
      (.text "health", .map [(.text "max_penalties", .map [(.text "loss", .whole 1)])])]
    ∃ s again, ofValue v = .ok s ∧ s.verbosity = .silent ∧
      s.storage.statePath.text = "//var/aion/state" ∧
      ofValue s.toValue = .ok again ∧ again = s ∧ again.toValue = s.toValue := by
  intro v
  have hread : (ofValue v).isOk = true := by decide +kernel
  obtain ⟨s, h⟩ := ok_of_isOk hread
  obtain ⟨again, hagain⟩ := settings_come_back h
  have hfields : (ofValue v).toOption.map (fun s => (s.verbosity, s.storage.statePath.text)) =
      some (.silent, "//var/aion/state") := by decide +kernel
  rw [h] at hfields
  obtain ⟨hverbosity, hpath⟩ := Prod.mk.inj (Option.some.inj hfields)
  exact ⟨s, again, h, hverbosity, hpath, hagain⟩

end Organism.Settings
