import Organism.Journal
import Organism.Scheduler
import Organism.Settings.Read
import Organism.Shell.Basic
import Organism.Shell.Options
import Organism.Snapshot

/-!
# Starting the program

What the program does with its options: it reads its settings, puts the organism together and either
runs some ticks and prints a snapshot, or opens the shell.

* `Launch.settings`   the settings, with what the options change in them;
* `Launch.scheduler`  a new organism;
* `Launch.ticks`      some ticks of it, without a pause;
* `Launch.logText`    what is logged of the journal;
* `Launch.conduct`    a whole run.
-/

namespace Organism.Launch

section
variable [Rounding]

def settings (o : Options) (files : FileSystem) (env : List (String × String)) :
    Except Fault Settings := do
  let (s, _) ←
    match o.config with
    | some path => Settings.ofFile files (.ofString path)
    | none => Settings.ofEnvironment files env
  return {
    s with
    telemetry := o.telemetry.elim s.telemetry .text
    simLevel := o.simLevel.getD s.simLevel
    verbosity := o.verbosity.getD s.verbosity
    storage :=
      { s.storage with statePath := o.stateFile.elim s.storage.statePath .ofString }
    logging := { s.logging with level := o.logLevel.elim s.logging.level .text } }

/-! ## the log -/

def threshold (level : String) : Nat :=
  let word := level.map Char.toUpper
  (([("DEBUG", 10), ("INFO", 20), ("WARNING", 30), ("WARN", 30), ("ERROR", 40), ("CRITICAL", 50),
    ("FATAL", 50), ("NOTSET", 0)] : List (String × Nat)).lookup word).getD 20

/-- how notes are logged -/
structure Log where
  threshold : Nat
  template : String
  file : Option FilePath

/-- the template that a setting gives; an empty one stands for the plain one -/
def template (v : Value) : Except Fault String :=
  if v.isEmpty then .ok Template.plain
  else
    match v with
    | .text t => if Template.isValid t then .ok t else .error (.badTemplate t)
    | v => .error (.wrongType "a template" v.kind)

/-- the file of the log made, unless it is there or the log has none -/
def openLog (files : FileSystem) (file : Option FilePath) : FileSystem × Except Fault Unit :=
  match file with
  | none => (files, .ok ())
  | some path =>
    let (files, made) := files.append path []
    (files, made.mapError .file)

/-- the log that settings ask for; its file is made before the template is looked at -/
def log (s : LoggingSettings (Option FilePath)) (files : FileSystem) :
    FileSystem × Except Fault Log :=
  match s.level with
  | .text level =>
    match openLog files s.file with
    | (files, .error e) => (files, .error e)
    | (files, .ok ()) =>
      (files, (template s.format).map fun t => ⟨threshold level, t, s.file⟩)
  | v => (files, .error (.noAttribute v.kind "upper"))

def logText (l : Log) (time : String) (journal : List LogRecord) : String :=
  String.join ((journal.filter fun r => l.threshold ≤ r.level.rank).map fun r =>
    Template.render l.template time r ++ "\n")

/-! ## the organism -/

def scheduler (s : Settings) (counters : Nat → HostCounters) (files : FileSystem) :
    Except Fault Scheduler := do
  let senses ← Senses.configured s counters
  Scheduler.build s (setupOf s) (.sample 1) senses files

def shell (s : Settings) (scheduler : Scheduler) : Shell :=
  .create scheduler (!s.storage.autoload.isEmpty) (!s.storage.autosave.isEmpty)

/-- the state file taken over if that is configured, and some ticks without a pause -/
def ticks (s : Settings) (scheduler : Scheduler) (count : Int) : Except Fault Unit × Scheduler :=
  let restored :=
    if s.storage.autoload.isEmpty then (.ok false, scheduler)
    else scheduler.act (Act.restore scheduler.setup.statePath)
  match restored with
  | (.error e, scheduler) => (.error e, scheduler)
  | (.ok _, scheduler) =>
    (.ok (), (Scheduler.run { scheduler with tickInterval := .real 0 } count.toNat).1)

/-! ## a whole run -/

structure Outcome where
  out : String := ""
  log : String := ""
  files : FileSystem
  fault : Option Fault := none

def leave (l : Log) (out : String) (b : Body) (result : Except Fault Unit) : Outcome :=
  let text := logText l "" b.journal
  let fault :=
    match result with
    | .ok () => none
    | .error e => some e
  match l.file with
  | none => { out, log := text, files := b.files, fault }
  | some path => { out, files := (b.files.append path (Utf8.encode text.toList)).1, fault }

def conductTicks (l : Log) (s : Settings) (scheduler : Scheduler) (count : Int) (time : Value) :
    Outcome :=
  let (result, scheduler) := ticks s scheduler count
  let out :=
    match result with
    | .ok () => scheduler.snapshot.print time ++ "\n"
    | .error _ => ""
  leave l out scheduler.body result

def conductSession (l : Log) (shell : Shell) (input : List String) : Outcome :=
  let (result, shell) := shell.session input
  leave l shell.look.1 shell.scheduler.body result

/-- a run with given ticks, or with given lines for the shell -/
def conduct (s : Settings) (o : Options) (counters : Nat → HostCounters) (files : FileSystem)
    (input : List String) (time : Value) : Outcome :=
  match log s.logging files with
  | (files, .error e) => { files, fault := some e }
  | (files, .ok l) =>
    match scheduler s counters files with
    | .error e => { files, fault := some e }
    | .ok scheduler =>
      match o.ticks with
      | some n => conductTicks l s scheduler n time
      | none => conductSession l (shell s scheduler) (if o.noShell then [] else input)

end
end Organism.Launch
