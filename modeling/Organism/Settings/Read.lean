import Organism.Document.Block
import Organism.Files
import Organism.Journal
import Organism.Settings.Basic

/-!
# Reading settings

A document of settings names some of them, in sections; the others keep their defaults.  The
sections are read in the order of the document, and within a section all names are checked before
any value is.

* `Settings.ofEntries`       the settings of a document, or the first thing that is wrong with it;
* `RawSettings.refine`       levels and paths made of what the document says;
* `Settings.ofFile`          the settings in a file;
* `Settings.ofEnvironment`   the settings in the file that a variable names, or the defaults, and
                             two more variables that take precedence.
-/

namespace Organism

namespace Settings

def given (entries : List (Value × Value)) (name : String) (default : Value) : Value :=
  (Value.field? entries name).getD default

/-- the names in a section that are not settings -/
def strangers (names : List String) (entries : List (Value × Value)) : List Value :=
  (entries.map (·.1)).filter fun k => !names.any fun n => k == .text n

def texts (vs : List Value) : List String :=
  vs.filterMap fun v =>
    match v with
    | .text s => some s
    | _ => none

def checkNames (part : String) (names : List String) (entries : List (Value × Value)) :
    Except Fault Unit :=
  let unknown := strangers names entries
  match unknown.find? fun k => k.kind ≠ .text with
  | some k => .error (.wrongType "a name" k.kind)
  | none =>
    if unknown.isEmpty then .ok ()
    else
      .error (.settings (.unknownSettings part ((texts unknown).mergeSort fun a b => !(b < a))))

/-- the entries of a section; one that is empty in any way has none -/
def sectionEntries (part : String) (names : List String) (v : Value) :
    Except Fault (List (Value × Value)) :=
  if v.isEmpty then .ok []
  else
    match v with
    | .map entries => do
      checkNames part names entries
      return entries
    | _ => .error (.settings (.notASection part))

/-! ## entries in other shapes -/

def pair? (v : Value) : Except Nat (Value × Value) :=
  match v with
  | .list [k, w] => .ok (k, w)
  | .list vs => .error vs.length
  | .text s =>
    match s.toList with
    | [a, b] => .ok (.text (.singleton a), .text (.singleton b))
    | cs => .error cs.length
  | .map [(k, _), (l, _)] => .ok (k, l)
  | .map es => .error es.length
  | _ => .error 0

/-- the entries that items stand for, each of which is a pair -/
def pairs (place : Nat) (done : List (Value × Value)) :
    List Value → Except Fault (List (Value × Value))
  | [] => .ok done
  | v :: vs =>
    if v.kind = .list || v.kind = .text || v.kind = .map then
      match pair? v with
      | .error length => .error (.settings (.notPairs place length))
      | .ok (k, w) =>
        if k.isKey then pairs (place + 1) (Value.overwrite done k w) vs
        else .error (.wrongType "a key" k.kind)
    else .error (.wrongType "a pair" v.kind)

/-- the entries that a value stands for; nothing has none -/
def entriesOf (v : Value) : Except Fault (List (Value × Value)) :=
  if v.isEmpty then .ok []
  else
    match v with
    | .map entries => .ok entries
    | .list vs => pairs 0 [] vs
    | .text s => pairs 0 [] (s.toList.map fun c => .text (.singleton c))
    | _ => .error (.wrongType "entries" v.kind)

/-! ## sections -/

section
variable [Rounding]

def readScheduler (v : Value) : Except Fault SchedulerSettings := do
  let d := SchedulerSettings.standard
  let es ← sectionEntries "scheduler"
    ["tick_interval_sec", "heartbeat_interval", "status_interval", "ai_interval",
      "simulation_interval", "history_size"] v
  return {
    tickInterval := given es "tick_interval_sec" d.tickInterval
    heartbeatInterval := given es "heartbeat_interval" d.heartbeatInterval
    statusInterval := given es "status_interval" d.statusInterval
    aiInterval := given es "ai_interval" d.aiInterval
    simulationInterval := given es "simulation_interval" d.simulationInterval
    historySize := given es "history_size" d.historySize }

def readHealth (v : Value) : Except Fault Limits := do
  let d := Limits.standard
  let es ← sectionEntries "health" ["max_step", "recovery_step", "max_penalties"] v
  return {
    maxStep := given es "max_step" d.maxStep
    recoveryStep := given es "recovery_step" d.recoveryStep
    maxPenalties := given es "max_penalties" d.maxPenalties }

def readIntensity (part : String) (d : Intensity) (v : Value) : Except Fault Intensity :=
  if v.isEmpty then .ok d
  else
    match v with
    | .map es => do
      checkNames part ["fault_probability", "damage_min", "damage_max", "recovery"] es
      return {
        faultProbability := given es "fault_probability" d.faultProbability
        damageMin := given es "damage_min" d.damageMin
        damageMax := given es "damage_max" d.damageMax
        recovery := given es "recovery" d.recovery }
    | _ => .error (.wrongType "a map" v.kind)

def readSimulation (v : Value) : Except Fault SimulationSettings := do
  let d := SimulationSettings.standard
  let es ← entriesOf v
  let low ← readIntensity "simulation.low" d.low (given es "low" .none)
  let high ← readIntensity "simulation.high" d.high (given es "high" .none)
  checkNames "simulation" ["seed", "low", "high"] es
  return { seed := given es "seed" d.seed, low, high }

def readStorage (v : Value) : Except Fault (StorageSettings Value) := do
  let d := StorageSettings.standard
  let es ← sectionEntries "persistence" ["state_path", "autoload", "autosave"] v
  return {
    statePath := given es "state_path" d.statePath
    autoload := given es "autoload" d.autoload
    autosave := given es "autosave" d.autosave }

def readLogging (v : Value) : Except Fault (LoggingSettings Value) := do
  let d := LoggingSettings.standard
  let es ← sectionEntries "logging" ["level", "format", "file"] v
  return {
    level := given es "level" d.level
    format := given es "format" d.format
    file := given es "file" d.file }

/-- one entry of a document laid over the settings so far -/
def overlay (s : RawSettings) (entry : Value × Value) : Except Fault RawSettings :=
  let (key, v) := entry
  match key with
  | .text "telemetry" => .ok { s with telemetry := v }
  | .text "sim_level" => .ok { s with simLevel := v }
  | .text "log_filter" => .ok { s with verbosity := v }
  | .text "scheduler" => (readScheduler v).map fun x => { s with scheduler := x }
  | .text "health" => (readHealth v).map fun x => { s with health := x }
  | .text "simulation" => (readSimulation v).map fun x => { s with simulation := x }
  | .text "persistence" => (readStorage v).map fun x => { s with storage := x }
  | .text "logging" => (readLogging v).map fun x => { s with logging := x }
  | key => .error (.settings (.unknownSetting key.inText))

/-! ## levels and paths -/

/-- the level that a setting names; a flag that is not set means off -/
def readLevel (v : Value) : Except Fault SimLevel :=
  match v with
  | .flag false => .ok .off
  | v => v.toNamed SimLevel "SimLevel"

/-- the verbosity that a setting names; a flag that is not set means silence -/
def readVerbosity (v : Value) : Except Fault Verbosity :=
  match v with
  | .flag false => .ok .silent
  | .text s =>
    (Verbosity.ofWord? s).elim
      (.error (.unknownName (Text.quoted (Verbosity.key s)) "LogFilter")) .ok
  | _ => .error (.unknownName v.shown "LogFilter")

def readPath (v : Value) : Except Fault FilePath :=
  match v with
  | .text s => .ok (.ofString s)
  | _ => .error (.wrongType "a path" v.kind)

def readPath? (v : Value) : Except Fault (Option FilePath) :=
  match v with
  | .none => .ok none
  | _ => (readPath v).map some

def refine (r : RawSettings) : Except Fault Settings := do
  let simLevel ← readLevel r.simLevel
  let verbosity ← readVerbosity r.verbosity
  let statePath ← readPath r.storage.statePath
  let file ← readPath? r.logging.file
  return {
    telemetry := r.telemetry
    simLevel
    verbosity
    scheduler := r.scheduler
    health := r.health
    simulation := r.simulation
    storage := { r.storage with statePath }
    logging := { r.logging with file } }

/-- the settings of the entries of a document -/
def ofEntries (entries : List (Value × Value)) : Except Fault Settings := do
  let raw ← entries.foldlM overlay RawSettings.standard
  let s ← refine raw
  s.check
  return s

def ofValue (v : Value) : Except Fault Settings := do
  ofEntries (← entriesOf v)

end
end Settings

/-! ## files and the environment -/

namespace Settings

section
variable [Rounding]

/-- the text of a file, which is read in pieces that end where a character ends -/
def readText (files : FileSystem) (path : FilePath) : Except Fault String := do
  let bytes ← (files.read path).mapError Fault.file
  match Utf8.decode bytes with
  | .ok cs => return .ofList cs
  | .error e => throw (.notUtf8 e.ofPieces)

def ofFile (files : FileSystem) (path : FilePath) : Except Fault (Settings × List LogRecord) := do
  let v ← Document.parse (← readText files path)
  let entries ←
    if v.isEmpty then pure []
    else
      match v with
      | .map entries => pure entries
      | _ => throw (.settings (.topLevel path.text))
  let s ← ofEntries entries
  return (s, [⟨.info, .settings, s!"Loaded kernel config from {path.text}"⟩])

/-- the value of a variable, unless it is empty -/
def entry? (env : List (String × String)) (name : String) : Option String :=
  match env.lookup name with
  | some v => if v.isEmpty then none else some v
  | none => none

def ofEnvironment (files : FileSystem) (env : List (String × String)) :
    Except Fault (Settings × List LogRecord) := do
  let (s, notes) ←
    match entry? env "AION_CONFIG" with
    | some path => ofFile files (.ofString path)
    | none => (ofEntries []).map fun s => (s, [])
  let s :=
    match entry? env "AION_TELEMETRY" with
    | some word => { s with telemetry := .text (Text.toLower (Text.trim word)) }
    | none => s
  let s :=
    match entry? env "AION_STATE_FILE" with
    | some path => { s with storage := { s.storage with statePath := .ofString path } }
    | none => s
  return (s, notes)

end
end Settings

end Organism
