import Organism.Journal
import Organism.Number.Basic
import Organism.Sense.Counters
import Organism.Shell.Launch

/-!
# The program

Everything that the organism needs of the world outside: the files and counters of the host, the
terminal, and the time.  What is done with them is decided elsewhere.

* `Program.gather`   the files that paths lead to, as a tree;
* `Program.settle`   the changes in a tree, made in the world;
* `Program.sense`    the counters of the host;
* `Program.serve`    ticks at their pace, and commands as they are typed.
-/

namespace Organism.Program

/-! ## files -/

def leads (path : String) : IO Bool := do
  try
    let _ ← IO.FS.realPath path
    return true
  catch _ => return false

def probe (path : String) : IO (Option FileEntry) := do
  try
    return some (.file (← IO.FS.readBinFile path).toList)
  catch _ => return if ← leads path then some .folder else none

def refresh (fs : FileSystem) (p : FilePath) : IO FileSystem := do
  match fs.find p with
  | .error _ => return fs
  | .ok (place, _) =>
    match ← probe (FileSystem.absolute place) with
    | some e => return fs.put place e
    | none => return fs.remove place

/-- the tree with what is on the way to a path and at its end -/
def gather (fs : FileSystem) (p : FilePath) : IO FileSystem :=
  (List.range (p.names.length + 1)).foldlM
    (fun fs n => refresh fs { p with names := p.names.take n }) fs

def install (place : List String) (e : FileEntry) : IO Unit := do
  let path := FileSystem.absolute place
  match e with
  | .folder => IO.FS.createDirAll path
  | .file bytes =>
    let beside := path ++ ".new"
    IO.FS.writeBinFile beside ⟨bytes.toArray⟩
    IO.FS.rename beside path

/-- the changes in a tree, made in the world -/
def settle (before after : FileSystem) : IO Unit := do
  for (place, e) in after.entries do
    if before.entry? place ≠ some e then
      try install place e
      catch problem => IO.eprintln (toString problem)

def workplace : IO FileSystem := do
  return { home := (FilePath.ofString (toString (← IO.currentDir))).names }

/-! ## time and counters -/

def textOf (path : String) : IO String := do
  try IO.FS.readFile path catch _ => return ""

def now : IO Nat := do
  let booted := ((amount? (tableRows (← textOf "/proc/stat")) "btime").getD 0).toNat
  match (tableRows (← textOf "/proc/uptime")).head? with
  | some (up :: _) =>
    let whole := up.toList.takeWhile (· ≠ '.')
    let hundredths := (up.toList.drop (whole.length + 1)).take 2
    return booted * 1000 + Text.digitsValue whole * 1000 + Text.digitsValue hundredths * 10
  | _ => return booted * 1000

def devices (table : String) : IO (List String) :=
  (DiskCounters.names table).filterM fun name => leads ("/sys/block/" ++ name)

def orReason {α : Type} (x : Option α) : Except String α :=
  match x with
  | some a => .ok a
  | none => .error "no such counter"

section
variable [Rounding]

/-- the counters of the host; the load is the one since a time of work -/
def sense (last : WorkTime) : IO (HostCounters × WorkTime) := do
  let memory ← textOf "/proc/meminfo"
  let disks ← textOf "/proc/diskstats"
  let time := (WorkTime.ofTable? (← textOf "/proc/stat")).getD last
  let swap :=
    (Share.ofTable? memory "SwapTotal" "SwapFree").map fun s => ⟨s.total, s.total - s.part⟩
  let counters :=
    { load := .ok (last.percent time)
      temperatures := .ok []
      ram := orReason (Share.ofTable? memory "MemTotal" "MemAvailable")
      swap := orReason swap
      disk := .ok (DiskCounters.ofTable? (← devices disks) disks)
      net := .ok (NetCounters.ofTable? (← textOf "/proc/net/dev")) }
  return (counters, time)

/-- a scheduler whose senses have the counters of this moment, if they need any -/
def attune (s : Scheduler) (last : WorkTime) : IO (Scheduler × WorkTime) := do
  if s.body.senses.isHost then
    let (counters, time) ← sense last
    return ({ s with body := { s.body with senses := s.body.senses.setCounters counters } }, time)
  else return (s, last)

/-! ## the terminal and the log -/

def record (l : Launch.Log) (text : String) : IO Unit := do
  match l.file with
  | none => IO.eprint text
  | some path =>
    let handle ← IO.FS.Handle.mk path.text .append
    handle.putStr text

/-- what was noted and printed goes out, and is not kept -/
def flush (l : Launch.Log) (b : Body) : IO Body := do
  if !b.journal.isEmpty then
    record l (Launch.logText l (Clock.text (← now)) b.journal)
  for line in b.console do
    IO.println line
  (← IO.getStdout).flush
  return { b with journal := [], console := [] }

def flushScheduler (l : Launch.Log) (s : Scheduler) : IO Scheduler := do
  return { s with body := ← flush l s.body }

def flushShell (l : Launch.Log) (s : Shell) : IO Shell := do
  return { s with scheduler := ← flushScheduler l s.scheduler }

/-! ## ticks -/

def repeatSteps (l : Launch.Log) : Nat → WorkTime → Scheduler → IO Scheduler
  | 0, _, s => return s
  | n + 1, last, s => do
    let (s, last) ← attune s last
    repeatSteps l n last (← flushScheduler l s.step)

def runTicks (l : Launch.Log) (s : Settings) (scheduler : Scheduler) (count : Int) : IO Unit := do
  let restored :=
    if s.storage.autoload.isEmpty then scheduler
    else (scheduler.act (Act.restore scheduler.setup.statePath)).2
  let begun := Scheduler.begin { restored with tickInterval := .real 0 }
  let ended ← repeatSteps l count.toNat {} (← flushScheduler l begun)
  let _ ← flushScheduler l (ended.close count.toNat)
  let seconds := Rounding.round (((← now : Nat) : Rat) / 1000)
  IO.println (ended.snapshot.print (.real seconds))

/-! ## the shell -/

def pause (interval : Value) : UInt32 :=
  match interval.quantity? with
  | some q => (q.exact.value * 1000).floor.toNat.toUInt32
  | none => 0

def fileOf (s : Scheduler) (r : Request) : Option FilePath :=
  if r.operation = .save || r.operation = .load then
    some ((r.path.map FilePath.ofString).getD s.setup.statePath)
  else none

/-- a shell that knows the files that a line is about -/
def prepare (s : Shell) (line : String) : IO Shell := do
  match (Request.ofLine (Text.trim line)).toOption.bind (fileOf s.scheduler) with
  | none => return s
  | some p =>
    let files ← gather s.scheduler.body.files p
    return s.withBody fun b => { b with files }

/-- one line that was typed; false if it ends the session -/
def attend (l : Launch.Log) (s : Shell) (line : String) : IO (Bool × Shell) := do
  let s ← prepare s line
  let (result, t) := s.line line
  settle s.scheduler.body.files t.scheduler.body.files
  let t ← flushShell l t
  match result with
  | .ok goesOn => return (goesOn, t)
  | .error e =>
    IO.eprintln s!"{e.label}: {e.message}"
    return (false, t)

/-- the next line, while the ticks go on -/
def listen : IO (Task (Except IO.Error String)) := do
  let input ← IO.getStdin
  IO.asTask input.getLine

/-- ticks at their pace, and commands as they are typed, until the session ends -/
partial def serve (l : Launch.Log) (s : Shell) (last : WorkTime)
    (typed : Option (Task (Except IO.Error String))) : IO Shell := do
  let line ←
    match typed with
    | none => pure none
    | some task => if ← IO.hasFinished task then pure (some task.get) else pure none
  match line with
  | some (.ok text) =>
    if text.isEmpty then return s
    let (goesOn, s) ← attend l s text
    if goesOn then serve l s last (some (← listen)) else return s
  | some (.error _) => return s
  | none =>
    let (scheduler, last) ← attune s.scheduler last
    let s ← flushShell l { s with scheduler := scheduler.step }
    IO.sleep (pause s.scheduler.tickInterval)
    serve l s last typed

def runSession (l : Launch.Log) (s : Shell) (silent : Bool) : IO Unit := do
  let s ← flushShell l (s.note .info "Starting AION kernel...").restore.2
  let s := { s with scheduler := s.scheduler.begin, isRunning := true }
  let s ← flushShell l (Shell.note s .info "AION kernel started")
  if !silent then IO.println Shell.banner
  let typed ← if silent then pure none else (listen >>= fun task => pure (some task))
  let s ← serve l s {} typed
  let s := s.note .info "Stopping AION kernel..."
  let (result, t) := Shell.keep { s with scheduler := s.scheduler.close s.scheduler.clock }
  settle s.scheduler.body.files t.scheduler.body.files
  let _ ← flushShell l (t.note .info "AION kernel stopped")
  if let .error e := result then IO.eprintln s!"{e.label}: {e.message}"

/-! ## the whole -/

def fail (e : Fault) : IO UInt32 := do
  IO.eprintln s!"{e.label}: {e.message}"
  return 1

def work (o : Options) (s : Settings) (files : FileSystem) : IO UInt32 := do
  let files ← gather files s.storage.statePath
  let files ← (s.logging.file.toList).foldlM gather files
  let (_, l) := Launch.log s.logging files
  match l, Launch.scheduler s (fun _ => .absent) files with
  | .error e, _ => fail e
  | _, .error e => fail e
  | .ok l, .ok scheduler =>
    match o.ticks with
    | some n => runTicks l s scheduler n
    | none => runSession l (Launch.shell s scheduler) o.noShell
    return 0

def environment : IO (List (String × String)) := do
  let names := ["AION_CONFIG", "AION_TELEMETRY", "AION_STATE_FILE"]
  let values ← names.mapM fun n => do return (n, (← IO.getEnv n).getD "")
  return values

def run (argv : List String) : IO UInt32 := do
  match Options.parse argv with
  | .error e =>
    IO.eprintln s!"aion-kernel: error: {e.message}"
    return 2
  | .ok o =>
    if o.help then
      IO.println Options.usage
      return 0
    let env ← environment
    let paths := (o.config.orElse fun _ => env.lookup "AION_CONFIG").toList
    let files ← (paths.map FilePath.ofString).foldlM gather (← workplace)
    match Launch.settings o files env with
    | .error e => fail e
    | .ok s => work o s files

end
end Organism.Program

def main (argv : List String) : IO UInt32 := @Organism.Program.run .binary64 argv
