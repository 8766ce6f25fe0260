import Organism.Sense.Reading

/-!
# Readings of the host

The counters of the machine that the organism runs on become readings.  Rates are taken over the
time since the last reading that had counters; the first reading has rate 0, and a reading that
fails leaves the base for the next one as it was.

A counter that could not be taken is given by the reason for it.
-/

namespace Organism

/-- counts of finished disk operations, and the milliseconds spent on them -/
structure DiskCounters where
  reads : Int
  writes : Int
  readTime : Int
  writeTime : Int

namespace DiskCounters

def operations (d : DiskCounters) : Int := d.reads + d.writes

def busy (d : DiskCounters) : Int := d.readTime + d.writeTime

end DiskCounters

/-- counts of packets, and of those that were dropped or bad -/
structure NetCounters where
  sent : Int
  received : Int
  droppedIn : Int
  droppedOut : Int
  badIn : Int
  badOut : Int

namespace NetCounters

def packets (n : NetCounters) : Int := n.sent + n.received

def dropped (n : NetCounters) : Int := n.droppedIn + n.droppedOut

def bad (n : NetCounters) : Int := n.badIn + n.badOut

end NetCounters

/-- an amount of memory, and how much of it is meant -/
structure Share where
  total : Int
  part : Int

/-- all that the machine tells about itself -/
structure HostCounters where
  load : Except String Number
  temperatures : Except String (List (String × List Number))
  ram : Except String Share
  swap : Except String Share
  disk : Except String (Option DiskCounters)
  net : Except String (Option NetCounters)

/-- what is remembered from one reading to the next -/
structure Host where
  /-- the temperature where there is no sensor -/
  fallback : Value
  lastDisk : Option DiskCounters := none
  lastNet : Option NetCounters := none

namespace Host

/-- a counter that a reading of the organ depends on -/
def require {α : Type} (organ : OrganKind) (counter : Except String α) : Except Fault α :=
  match counter with
  | .ok a => .ok a
  | .error reason => .error (.unavailable organ.label reason)

/-- the sensors that know the temperature of the processor, the best first -/
def sensors : List String := ["coretemp", "k10temp", "cpu_thermal", "acpitz"]

def temperature? (temperatures : List (String × List Number)) : Option Number :=
  sensors.findSome? fun name => ((temperatures.lookup name).getD []).head?

section
variable [Rounding]

def quotient (a b : Int) : Except Fault Number :=
  if b = 0 then .error .divisionByZero
  else
    let x := Rounding.round ((a : Rat) / (b : Rat))
    if x.isFinite then .ok x else .error .quotientTooLarge

/-- a part of a whole, in `[0, 1]`; 0 of nothing -/
def ratio (part whole : Int) : Except Fault Number :=
  if whole ≤ 0 then .ok 0 else (quotient part whole).map Number.toUnit

def readCpu (h : Host) (c : HostCounters) : Except Fault CpuReading := do
  let load ← require .cortex c.load
  let temperatures ← require .cortex c.temperatures
  return {
    load := .real (load / 100).toUnit
    temperature :=
      match temperature? temperatures with
      | some x => .real x
      | none => h.fallback
    throttling := .whole 0
    gpuLoad := .real 0
    gpuMemory := .real 0 }

/-- milliseconds per operation since the last counters -/
def diskLatency (last now : Option DiskCounters) : Except Fault Number :=
  match last, now with
  | some a, some b =>
    let operations := b.operations - a.operations
    if 0 < operations then (quotient (b.busy - a.busy) operations).map (Number.larger 0) else .ok 0
  | _, _ => .ok 0

/-- the counters of a reading of the memory, and the host that has taken note of the disk -/
def takeMemory (h : Host) (c : HostCounters) : Except Fault (Share × Share × Number × Host) := do
  let ram ← require .memory c.ram
  let swap ← require .memory c.swap
  let disk ← require .memory c.disk
  let latency ← diskLatency h.lastDisk disk
  return (ram, swap, latency, { h with lastDisk := disk.or h.lastDisk })

def memoryReading (ram swap : Share) (latency : Number) : Except Fault MemoryReading := do
  let ramUsed ← ratio (ram.total - ram.part) ram.total
  let swapUsed ← ratio swap.part swap.total
  return {
    ramUsed := .real ramUsed
    swapUsed := .real swapUsed
    pageFaults := .real 0
    diskLatency := .real latency }

def readMemory (h : Host) (c : HostCounters) : Except Fault MemoryReading × Host :=
  match h.takeMemory c with
  | .ok (ram, swap, latency, h) => (memoryReading ram swap latency, h)
  | .error e => (.error e, h)

/-- the share of some count in the packets since the last counters -/
def packetRatio (count : NetCounters → Int) (last : Option NetCounters) (now : NetCounters) :
    Except Fault Number :=
  match last with
  | some a => ratio (count now - count a) (now.packets - a.packets)
  | none => .ok 0

def readIo (h : Host) (c : HostCounters) : Except Fault (IoReading × Host) := do
  match ← require .ioBridge c.net with
  | none => throw (.unavailable OrganKind.ioBridge.label "no network counters")
  | some net =>
    let loss ← packetRatio NetCounters.dropped h.lastNet net
    let errors ← packetRatio NetCounters.bad h.lastNet net
    let reading := {
      packetLoss := .real loss
      latency := .real 5.0
      queueDepth := .real 0.1
      errorRate := .real errors }
    return (reading, { h with lastNet := some net })

/-- the next reading of a family; where counters are missing, everything is as before -/
def read (h : Host) (c : HostCounters) : Family → Except Fault Reading × Host
  | .cpu => ((h.readCpu c).map .cpu, h)
  | .memory => ((h.readMemory c).1.map .memory, (h.readMemory c).2)
  | .io =>
    match h.readIo c with
    | .ok (r, h) => (.ok (.io r), h)
    | .error e => (.error e, h)

end
end Host
end Organism
