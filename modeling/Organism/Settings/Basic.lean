import Organism.Files
import Organism.Health.Change
import Organism.Named
import Organism.Value.Quantity

/-!
# Settings

What can be configured, with its defaults.  Settings come from documents and may be of any type;
only where a rule of the settings themselves depends on the type is it fixed here: the levels are
levels, and paths are paths.

Settings are checked one after the other, and the first that is out of its range is refused.  A
value that cannot be compared with a number is refused as well, where it is compared.  Only what
compares as too small is below its range, so that a period or a pace may be `nan`.

* `SettingsOf`        settings whose levels and paths are still of some other type;
* `Settings`          settings as they are used;
* `Settings.toValue`  the document that they are read from;
* `Settings.check`    every setting that has a range lies in it.
-/

namespace Organism

/-- the pace of ticks, and the periods of the daemons in ticks -/
structure SchedulerSettings where
  tickInterval : Value
  heartbeatInterval : Value
  statusInterval : Value
  aiInterval : Value
  simulationInterval : Value
  historySize : Value

/-- the synthetic events of one level of the simulation -/
structure Intensity where
  faultProbability : Value
  damageMin : Value
  damageMax : Value
  recovery : Value

structure SimulationSettings where
  seed : Value
  low : Intensity
  high : Intensity

/-- where healths are kept, and whether they are read at the start and written at the end -/
structure StorageSettings (Path : Type) where
  statePath : Path
  autoload : Value
  autosave : Value

/-- what is logged, and where to -/
structure LoggingSettings (File : Type) where
  level : Value
  format : Value
  file : File

structure SettingsOf (Level Verb Path File : Type) where
  telemetry : Value
  simLevel : Level
  verbosity : Verb
  scheduler : SchedulerSettings
  health : Limits
  simulation : SimulationSettings
  storage : StorageSettings Path
  logging : LoggingSettings File

/-- settings as they are used -/
abbrev Settings := SettingsOf SimLevel Verbosity FilePath (Option FilePath)

/-- settings as they stand in a document -/
abbrev RawSettings := SettingsOf Value Value Value Value

/-! ## defaults -/

def SchedulerSettings.standard [Rounding] : SchedulerSettings where
  tickInterval := .real 0.05
  heartbeatInterval := .whole 20
  statusInterval := .whole 100
  aiInterval := .whole 40
  simulationInterval := .whole 20
  historySize := .whole 256

def Intensity.low [Rounding] : Intensity where
  faultProbability := .real 0.3
  damageMin := .real 0.01
  damageMax := .real 0.04
  recovery := .real 0.01

def Intensity.high [Rounding] : Intensity where
  faultProbability := .real 0.6
  damageMin := .real 0.03
  damageMax := .real 0.10
  recovery := .real 0.02

def SimulationSettings.standard [Rounding] : SimulationSettings where
  seed := .whole 7
  low := .low
  high := .high

def SimulationSettings.intensity? (s : SimulationSettings) : SimLevel → Option Intensity
  | .off => none
  | .low => some s.low
  | .high => some s.high

def StorageSettings.standard : StorageSettings Value where
  statePath := .text "aion_state.txt"
  autoload := .flag false
  autosave := .flag false

def LoggingSettings.standard : LoggingSettings Value where
  level := .text "INFO"
  format := .text "%(asctime)s [%(levelname)s] %(name)s: %(message)s"
  file := .none

def RawSettings.standard [Rounding] : RawSettings where
  telemetry := .text "sim"
  simLevel := .text "off"
  verbosity := .text "commands"
  scheduler := .standard
  health := .standard
  simulation := .standard
  storage := .standard
  logging := .standard

/-! ## the document of settings -/

def SchedulerSettings.toValue (s : SchedulerSettings) : Value :=
  .record
    [("tick_interval_sec", s.tickInterval), ("heartbeat_interval", s.heartbeatInterval),
      ("status_interval", s.statusInterval), ("ai_interval", s.aiInterval),
      ("simulation_interval", s.simulationInterval), ("history_size", s.historySize)]

def Limits.toValue (l : Limits) : Value :=
  .record
    [("max_step", l.maxStep), ("recovery_step", l.recoveryStep),
      ("max_penalties", l.maxPenalties)]

def Intensity.fields (i : Intensity) : List (String × Value) :=
  [("fault_probability", i.faultProbability), ("damage_min", i.damageMin),
    ("damage_max", i.damageMax), ("recovery", i.recovery)]

def Intensity.toValue (i : Intensity) : Value := .record i.fields

def SimulationSettings.toValue (s : SimulationSettings) : Value :=
  .record [("seed", s.seed), ("low", s.low.toValue), ("high", s.high.toValue)]

def StorageSettings.toValue (s : StorageSettings Value) : Value :=
  .record [("state_path", s.statePath), ("autoload", s.autoload), ("autosave", s.autosave)]

def LoggingSettings.toValue (s : LoggingSettings Value) : Value :=
  .record [("level", s.level), ("format", s.format), ("file", s.file)]

def RawSettings.toValue (s : RawSettings) : Value :=
  .record
    [("telemetry", s.telemetry), ("sim_level", s.simLevel), ("log_filter", s.verbosity),
      ("scheduler", s.scheduler.toValue), ("health", s.health.toValue),
      ("simulation", s.simulation.toValue), ("persistence", s.storage.toValue),
      ("logging", s.logging.toValue)]

/-- settings in use, as they would stand in a document -/
def Settings.raw (s : Settings) : RawSettings where
  telemetry := s.telemetry
  simLevel := .text s.simLevel.label
  verbosity := .text s.verbosity.label
  scheduler := s.scheduler
  health := s.health
  simulation := s.simulation
  storage := { s.storage with statePath := .text s.storage.statePath.text }
  logging := { s.logging with file := (s.logging.file.map fun p => Value.text p.text).getD .none }

def Settings.toValue (s : Settings) : Value := RawSettings.toValue s.raw

/-! ## ranges -/

namespace Value

/-- order of two values, both of which must be quantities -/
def isLess (a b : Value) : Except Fault Bool :=
  match a.quantity?, b.quantity? with
  | some p, some q => .ok (p.exact < q.exact)
  | _, _ => .error (.incomparable "<" a.kind b.kind)

def isAtMost (a b : Value) : Except Fault Bool :=
  match a.quantity?, b.quantity? with
  | some p, some q => .ok (p.exact ≤ q.exact)
  | _, _ => .error (.incomparable "<=" a.kind b.kind)

end Value

namespace Settings

/-- the second question only if the answer to the first is yes -/
def both (first second : Except Fault Bool) : Except Fault Bool := do
  if ← first then second else return false

/-- the setting is refused unless the condition holds -/
def need (condition : Except Fault Bool) (e : SettingsError) : Except Fault Unit := do
  if ← condition then return () else throw (.settings e)

/-- the setting is refused if the condition holds -/
def deny (condition : Except Fault Bool) (e : SettingsError) : Except Fault Unit := do
  if ← condition then throw (.settings e) else return ()

def checkScheduler (s : SchedulerSettings) : Except Fault Unit := do
  deny (s.tickInterval.isLess (.whole 0)) .tickInterval
  deny (s.heartbeatInterval.isLess (.whole 1)) (.interval "heartbeat")
  deny (s.statusInterval.isLess (.whole 1)) (.interval "status")
  deny (s.aiInterval.isLess (.whole 1)) (.interval "ai")
  deny (s.simulationInterval.isLess (.whole 1)) (.interval "simulation")

def checkHealth (l : Limits) : Except Fault Unit := do
  need (both (Value.isLess (.real 0) l.maxStep) (l.maxStep.isAtMost (.real 1))) .maxStep
  need (both (Value.isAtMost (.real 0) l.recoveryStep) (l.recoveryStep.isAtMost l.maxStep))
    .recoveryStep

def checkIntensity (level : SimLevel) (i : Intensity) : Except Fault Unit := do
  need
    (both (Value.isAtMost (.real 0) i.faultProbability) (i.faultProbability.isAtMost (.real 1)))
    (.faultProbability level.label)
  need
    (both (Value.isAtMost (.real 0) i.damageMin)
      (both (i.damageMin.isAtMost i.damageMax) (i.damageMax.isAtMost (.real 1))))
    (.damageRange level.label)

def check (s : Settings) : Except Fault Unit := do
  checkScheduler s.scheduler
  checkHealth s.health
  checkIntensity .low s.simulation.low
  checkIntensity .high s.simulation.high

end Settings

end Organism
