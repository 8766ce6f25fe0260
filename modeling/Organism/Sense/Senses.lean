import Organism.Named
import Organism.Sense.Host
import Organism.Sense.Reading

/-!
# Senses

Where the readings of an organism come from: a simulation, the counters of the host, or a script
that has an answer for every time that a family is read.  An answer may be a failure.

A simulated organism goes through phases of sixty readings.  The level of the simulation decides
how the readings follow the phase: not at all, mildly, or so that some of them are adverse.  Noise
is added to the loads and ratios; it is a sequence of standard deviates, scaled by the jitter.
-/

namespace Organism

/-! ## simulated readings -/

structure Simulated where
  level : SimLevel
  jitter : Number
  step : Nat := 0
  /-- the standard deviates, in order -/
  deviate : Nat → Number
  /-- count of the deviates used so far -/
  drawn : Nat := 0

namespace Simulated

def phaseSteps : Nat := 60

section
variable [Rounding]

/-- the place in the phase, from 0 to below 1 -/
def phase (s : Simulated) : Number :=
  .finite (s.step % phaseSteps : Nat) / .finite (phaseSteps : Nat)

/-- deviates that come round again; none at all are zeros -/
def cycle (deviates : List Number) (n : Nat) : Number :=
  deviates[n % deviates.length]?.getD 0

def advance (s : Simulated) : Simulated := { s with step := s.step + 1 }

/-- the next noise; without jitter there is none, and no deviate is used -/
def noise (s : Simulated) : Number × Simulated :=
  if s.jitter ≤ 0 then (0, s)
  else (0 + s.jitter * s.deviate s.drawn, { s with drawn := s.drawn + 1 })

def ratio (x : Number) : Value := .real x.clipUnit

def readCpu (s : Simulated) : CpuReading × Simulated :=
  let s := s.advance
  let p := s.phase
  match s.level with
  | .off => (.nominal, s)
  | .low =>
    let (a, s) := s.noise
    let (b, s) := s.noise
    ({ load := ratio (0.2 + 0.25 * (p - 0.5).abs + a)
       temperature := .real (45.0 + p * 10.0)
       throttling := .whole 0
       gpuLoad := ratio (0.15 + 0.2 * p + b)
       gpuMemory := ratio (0.10 + 0.15 * (1.0 - p)) }, s)
  | .high =>
    let temperature := 55.0 + p * 25.0
    let (a, s) := s.noise
    let (b, s) := s.noise
    ({ load := ratio (0.4 + 0.5 * p + a)
       temperature := .real temperature
       throttling := .whole (if 75.0 < temperature then 1 else 0)
       gpuLoad := ratio (0.5 + 0.45 * (1.0 - p) + b)
       gpuMemory := ratio (0.4 + 0.4 * p) }, s)

def readMemory (s : Simulated) : MemoryReading × Simulated :=
  let s := s.advance
  let p := s.phase
  match s.level with
  | .off => (.nominal, s)
  | .low =>
    let (a, s) := s.noise
    ({ ramUsed := ratio (0.35 + 0.15 * p + a)
       swapUsed := .real 0.0
       pageFaults := .real 0.5
       diskLatency := .real (3.0 + 2.0 * p) }, s)
  | .high =>
    let (a, s) := s.noise
    ({ ramUsed := ratio (0.6 + 0.35 * p + a)
       swapUsed := .real 0.0
       pageFaults := .real (2.0 + 5.0 * p)
       diskLatency := .real (5.0 + 12.0 * p) }, s)

def readIo (s : Simulated) : IoReading × Simulated :=
  let s := s.advance
  let p := s.phase
  match s.level with
  | .off | .low => (.nominal, s)
  | .high =>
    let (a, s) := s.noise
    ({ packetLoss := ratio (0.02 * p + a.abs * 0.1)
       latency := .real (5.0 + 40.0 * p)
       queueDepth := ratio (0.1 + 0.6 * p)
       errorRate := .real 0.0 }, s)

def read (s : Simulated) : Family → Reading × Simulated
  | .cpu => (.cpu s.readCpu.1, s.readCpu.2)
  | .memory => (.memory s.readMemory.1, s.readMemory.2)
  | .io => (.io s.readIo.1, s.readIo.2)

end
end Simulated

/-! ## senses -/

inductive Senses where
  | simulated (s : Simulated)
  | host (h : Host) (counters : Nat → HostCounters) (reads : Nat)
  | script (answer : Nat → Family → Except Fault Reading) (reads : Nat)

namespace Senses

/-- the level of the simulation made known; only a simulation heeds it -/
def setLevel (level : SimLevel) : Senses → Senses
  | simulated s => simulated { s with level }
  | other => other

/-- new counters of the host, for senses that rest on them -/
def setCounters (c : HostCounters) : Senses → Senses
  | host h _ reads => host h (fun _ => c) reads
  | other => other

def isHost : Senses → Bool
  | host .. => true
  | _ => false

def read [Rounding] (f : Family) : Senses → Except Fault Reading × Senses
  | simulated s => (.ok (s.read f).1, simulated (s.read f).2)
  | host h counters reads =>
    let (reading, h) := h.read (counters reads) f
    (reading, host h counters (reads + 1))
  | script answer reads => (answer reads f, script answer (reads + 1))

end Senses

/-- the providers of readings that can be configured -/
inductive Provider where
  | simulation
  | host
deriving DecidableEq

instance : Named Provider where
  all := [.simulation, .host]
  label
    | .simulation => "sim"
    | .host => "real"

/-- the provider that a word names, trimmed and in any case -/
def Provider.ofWord (word : String) : Except Fault Provider :=
  let key := Text.toLower (Text.trim word)
  match Named.find? key with
  | some p => .ok p
  | none => .error (.unknownProvider key)

end Organism
