import Organism.Fault
import Organism.Named

/-!
# Readings

What the sensors of one organ report at one time.  There is a family of readings for each organ.  A
value is whatever the sensor delivers: it need not be a number.

* `Reading.organ`    the organ that a reading is about;
* `Reading.fields`   the values by name;
* `Family.read`      the reading with some values given by name, the others nominal.
-/

namespace Organism

/-- processor and graphics, for the cortex -/
structure CpuReading where
  load : Value
  temperature : Value
  throttling : Value
  gpuLoad : Value
  gpuMemory : Value

/-- memory and storage, for the memory -/
structure MemoryReading where
  ramUsed : Value
  swapUsed : Value
  pageFaults : Value
  diskLatency : Value

/-- network and queues, for the IO bridge -/
structure IoReading where
  packetLoss : Value
  latency : Value
  queueDepth : Value
  errorRate : Value

inductive Reading where
  | cpu (r : CpuReading)
  | memory (r : MemoryReading)
  | io (r : IoReading)

inductive Family where
  | cpu
  | memory
  | io
deriving DecidableEq

namespace Family

instance : Named Family where
  all := [cpu, memory, io]
  label
    | cpu => "cpu"
    | memory => "memory"
    | io => "io"

/-- the name of the sort of readings in messages -/
def sort : Family → String
  | cpu => "CpuGpuMetrics"
  | memory => "MemoryMetrics"
  | io => "IoMetrics"

def organ : Family → OrganKind
  | cpu => .cortex
  | memory => .memory
  | io => .ioBridge

end Family

def OrganKind.family : OrganKind → Family
  | .cortex => .cpu
  | .memory => .memory
  | .ioBridge => .io

theorem Family.organ_family (k : OrganKind) : k.family.organ = k := by cases k <;> rfl

namespace Reading

def family : Reading → Family
  | cpu _ => .cpu
  | memory _ => .memory
  | io _ => .io

def organ (r : Reading) : OrganKind := r.family.organ

def fields : Reading → List (String × Value)
  | cpu r =>
    [("cpu_load", r.load), ("cpu_temp_c", r.temperature), ("throttling_events", r.throttling),
      ("gpu_load", r.gpuLoad), ("gpu_mem_util", r.gpuMemory)]
  | memory r =>
    [("ram_used_ratio", r.ramUsed), ("swap_used_ratio", r.swapUsed),
      ("major_page_faults", r.pageFaults), ("disk_latency_ms", r.diskLatency)]
  | io r =>
    [("net_packet_loss", r.packetLoss), ("net_latency_ms", r.latency),
      ("io_queue_depth", r.queueDepth), ("io_error_rate", r.errorRate)]

def toValue (r : Reading) : Value := .record r.fields

end Reading

section
variable [Rounding]

/-! ## nominal readings -/

def CpuReading.nominal : CpuReading where
  load := .real 0.15
  temperature := .real 45.0
  throttling := .whole 0
  gpuLoad := .real 0.10
  gpuMemory := .real 0.08

def MemoryReading.nominal : MemoryReading where
  ramUsed := .real 0.30
  swapUsed := .real 0.0
  pageFaults := .real 0.0
  diskLatency := .real 2.0

def IoReading.nominal : IoReading where
  packetLoss := .real 0.0
  latency := .real 5.0
  queueDepth := .real 0.1
  errorRate := .real 0.0

/-! ## readings by name -/

def given (fields : List (String × Value)) (name : String) (nominal : Value) : Value :=
  (fields.lookup name).getD nominal

def Family.nominal : Family → Reading
  | .cpu => .cpu .nominal
  | .memory => .memory .nominal
  | .io => .io .nominal

def Family.overlay (f : Family) (fields : List (String × Value)) : Reading :=
  match f with
  | .cpu =>
    let n := CpuReading.nominal
    .cpu {
      load := given fields "cpu_load" n.load
      temperature := given fields "cpu_temp_c" n.temperature
      throttling := given fields "throttling_events" n.throttling
      gpuLoad := given fields "gpu_load" n.gpuLoad
      gpuMemory := given fields "gpu_mem_util" n.gpuMemory }
  | .memory =>
    let n := MemoryReading.nominal
    .memory {
      ramUsed := given fields "ram_used_ratio" n.ramUsed
      swapUsed := given fields "swap_used_ratio" n.swapUsed
      pageFaults := given fields "major_page_faults" n.pageFaults
      diskLatency := given fields "disk_latency_ms" n.diskLatency }
  | .io =>
    let n := IoReading.nominal
    .io {
      packetLoss := given fields "net_packet_loss" n.packetLoss
      latency := given fields "net_latency_ms" n.latency
      queueDepth := given fields "io_queue_depth" n.queueDepth
      errorRate := given fields "io_error_rate" n.errorRate }

/-- the reading with the given values; a name that the family lacks is refused -/
def Family.read (f : Family) (fields : List (String × Value)) : Except Fault Reading :=
  match fields.find? fun e => !(f.nominal.fields.any fun n => n.1 == e.1) with
  | some (name, _) => .error (.unknownSignal f.sort name)
  | none => .ok (f.overlay fields)

end

/-! ## readings of one time -/

/-- the last complete set of readings, with its tick -/
structure Readings where
  tick : Nat
  cpu : Option Reading
  memory : Option Reading
  io : Option Reading

namespace Readings

def shownReading : Option Reading → Value
  | none => .none
  | some r => r.toValue

def fields (r : Readings) : List (String × Value) :=
  [("tick", .whole r.tick), ("cpu", shownReading r.cpu), ("memory", shownReading r.memory),
    ("io", shownReading r.io)]

def toValue (r : Readings) : Value := .record r.fields

end Readings
end Organism
