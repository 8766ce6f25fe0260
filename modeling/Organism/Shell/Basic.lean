import Organism.Request
import Organism.Scheduler

/-!
# The shell

The shell turns lines of text into commands and shows what becomes of them, together with the pulses
that surface.  It also reads the state of the organism when it starts, and writes it when it stops,
if that is configured.

* `start`, `stop`   the two ends of a session;
* `line`            one line: a command, or the word that ends the session;
* `session`         a whole session.
-/

namespace Organism

structure Shell where
  scheduler : Scheduler
  autoload : Bool
  autosave : Bool
  /-- commands are carried out in a tick right after they are given, and not some time later -/
  prompt : Bool := true
  isRunning : Bool := false
  /-- the end of the session is asked for -/
  isClosing : Bool := false

namespace Shell

def withBody (s : Shell) (f : Body → Body) : Shell :=
  { s with scheduler := { s.scheduler with body := f s.scheduler.body } }

def note (s : Shell) (level : LogLevel) (text : String) : Shell :=
  s.withBody fun b => b.note level .shell text

def print (s : Shell) (line : String) : Shell := s.withBody fun b => b.print line

/-- a shell for an organism, whose pulses it shows from now on -/
def create (scheduler : Scheduler) (autoload autosave : Bool) : Shell :=
  Shell.withBody { scheduler, autoload, autosave } fun b =>
    { b with bus := { b.bus with observers := b.bus.observers ++ [.console] } }

def typed (s : String) : List String :=
  let ls := s.splitOn "\n"
  if ls.getLast? == some "" then ls.dropLast else ls

def look (s : Shell) : String × Shell :=
  (String.join (s.scheduler.body.console.map fun l => l ++ "\n"),
    s.withBody fun b => { b with console := [] })

def isQuit (text : String) : Bool :=
  let word := Text.toLower text
  word == "quit" || word == "exit"

def banner : String := "AION kernel shell; type 'help' for commands, 'quit' to exit"

/-- the end of the session asked for from outside -/
def close (s : Shell) : Shell := { s with isClosing := true }

/-- the end of the session asked for by the system -/
def signal (s : Shell) (number : Nat) : Shell :=
  (s.note .info s!"Received signal {number}, shutting down...").close

section
variable [Rounding]

def act {α : Type} (s : Shell) (a : Act α) : Except Fault α × Shell :=
  let (result, scheduler) := s.scheduler.act a
  (result, { s with scheduler })

def restore (s : Shell) : Except Fault Unit × Shell :=
  if s.autoload then
    let (result, s) := s.act (Act.restore s.scheduler.setup.statePath)
    (result.map fun _ => (), s)
  else (.ok (), s)

def start (s : Shell) : Except Fault Unit × Shell :=
  if s.isRunning then (.ok (), s.note .warning "Runtime already running")
  else
    match (s.note .info "Starting AION kernel...").restore with
    | (.error e, s) => (.error e, s)
    | (.ok (), s) =>
      (.ok (), Shell.note { s with isRunning := true } .info "AION kernel started")

/-- the state file written; a failure is noted -/
def persist (path : FilePath) : Act Unit :=
  tryCatch (Act.saveState path) fun e =>
    if Act.isStorageFault e then
      Act.note .error .shell s!"Failed to persist state: {e.message}"
    else throw e

def keep (s : Shell) : Except Fault Unit × Shell :=
  if s.autosave then s.act (persist s.scheduler.setup.statePath) else (.ok (), s)

def stop (s : Shell) : Except Fault Unit × Shell :=
  if s.isRunning then
    match (s.note .info "Stopping AION kernel...").keep with
    | (.error e, s) => (.error e, s)
    | (.ok (), s) =>
      (.ok (), Shell.note { s with isRunning := false } .info "AION kernel stopped")
  else (.ok (), s)

def answer (r : Request) : Option Ticket → Except Fault String
  | some (.done result) => .ok ((if result.ok then "" else "error: ") ++ result.message)
  | some (.crashed e) => .error e
  | _ => .ok s!"error: {r.operation.label} timed out"

/-- a request submitted, and its outcome shown -/
def ask (s : Shell) (r : Request) : Except Fault Bool × Shell :=
  let (scheduler, id) := s.scheduler.submit r
  let scheduler := if s.prompt then scheduler.step else scheduler
  let s := { s with scheduler }
  match answer r (scheduler.queue.outcome? id) with
  | .ok text => (.ok true, s.print text)
  | .error e => (.error e, s)

/-- one line; false if it ends the session -/
def line (s : Shell) (text : String) : Except Fault Bool × Shell :=
  let text := Text.trim text
  if text.isEmpty then (.ok true, s)
  else if isQuit text then (.ok false, s)
  else
    match Request.ofLine text with
    | .error e => (.ok true, s.print s!"error: {e.message}")
    | .ok r => s.ask r

def lines (s : Shell) : List String → Except Fault Unit × Shell
  | [] => (.ok (), s)
  | l :: ls =>
    if s.isClosing then (.ok (), s)
    else
      match s.line l with
      | (.ok true, s) => lines s ls
      | (.ok false, s) => (.ok (), s)
      | (.error e, s) => (.error e, s)

def converse (s : Shell) (input : List String) : Except Fault Unit × Shell :=
  match (s.print banner).lines input with
  | (.ok (), s) => s.close.stop
  | (.error e, s) => (.error e, s)

def session (s : Shell) (input : List String) : Except Fault Unit × Shell :=
  match s.start with
  | (.error e, s) => (.error e, s)
  | (.ok (), s) => s.converse input

end
end Shell
end Organism
