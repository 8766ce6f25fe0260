import Organism.Text.Basic
import Organism.Text.Lower

/-!
# Things with names

Most sorts of things in the organism are finite lists, each thing with the name that it has in
documents, commands and reports: organs, what they can do, the devices that are attached to them,
the intensity of the simulation, and the verbosity towards observers.
-/

namespace Organism

/-- a finite sort of things with names -/
class Named (α : Type) where
  all : List α
  label : α → String

namespace Named

variable {α : Type} [Named α]

def find? (name : String) : Option α := all.find? fun a => label a == name

theorem label_of_find? {name : String} {a : α} (h : find? name = some a) : label a = name := by
  simpa [find?] using List.find?_some h

end Named

/-! ## parts of the organism -/

/-- the organs of the organism, in the order of reports and state files -/
inductive OrganKind where
  | cortex
  | memory
  | ioBridge
deriving DecidableEq, Inhabited

namespace OrganKind

instance : Named OrganKind where
  all := [cortex, memory, ioBridge]
  label
    | cortex => "cortex"
    | memory => "memory"
    | ioBridge => "io_bridge"

def label (k : OrganKind) : String := Named.label k

/-- the organ that a word stands for: trimmed, in any case, with `-` for `_`, short names allowed -/
def ofWord? (word : String) : Option OrganKind :=
  let key := (Text.lower (Text.strip Text.isBlank word.toList)).map fun c =>
    if c == '-' then '_' else c
  if key == "cortex".toList then some cortex
  else if key == "memory".toList then some memory
  else if key == "io".toList || key == "io_bridge".toList || key == "iobridge".toList then
    some ioBridge
  else none

end OrganKind

inductive Ability where
  | compute
  | storage
  | perception
  | networking
  | actuation
  | planning
  | learning
deriving DecidableEq

instance : Named Ability where
  all := [.compute, .storage, .perception, .networking, .actuation, .planning, .learning]
  label
    | .compute => "compute"
    | .storage => "storage"
    | .perception => "perception"
    | .networking => "networking"
    | .actuation => "actuation"
    | .planning => "planning"
    | .learning => "learning"

inductive DeviceKind where
  | cpu
  | gpu
  | nic
  | disk
  | usb
  | sensor
  | motor
  | display
  | unknown
deriving DecidableEq

instance : Named DeviceKind where
  all := [.cpu, .gpu, .nic, .disk, .usb, .sensor, .motor, .display, .unknown]
  label
    | .cpu => "cpu"
    | .gpu => "gpu"
    | .nic => "nic"
    | .disk => "disk"
    | .usb => "usb"
    | .sensor => "sensor"
    | .motor => "motor"
    | .display => "display"
    | .unknown => "unknown"

inductive DeviceStatus where
  | online
  | degraded
  | offline
deriving DecidableEq

instance : Named DeviceStatus where
  all := [.online, .degraded, .offline]
  label
    | .online => "online"
    | .degraded => "degraded"
    | .offline => "offline"

/-! ## levels -/

/-- intensity of synthetic events -/
inductive SimLevel where
  | off
  | low
  | high
deriving DecidableEq, Inhabited

instance : Named SimLevel where
  all := [.off, .low, .high]
  label
    | .off => "off"
    | .low => "low"
    | .high => "high"

namespace SimLevel

def label (l : SimLevel) : String := Named.label l

/-- the level that a word names, trimmed and in any case -/
def ofWord? (word : String) : Option SimLevel := Named.find? (Text.toLower (Text.trim word))

end SimLevel

/-- which pulses observers get to see -/
inductive Verbosity where
  | all
  | commands
  | silent
deriving DecidableEq, Inhabited

instance : Named Verbosity where
  all := [.all, .commands, .silent]
  label
    | .all => "all"
    | .commands => "commands"
    | .silent => "silent"

namespace Verbosity

def label (v : Verbosity) : String := Named.label v

def key (word : String) : String := Text.toLower (Text.trim word)

/-- the verbosity that a word names; some have two more names -/
def ofWord? (word : String) : Option Verbosity :=
  let k := key word
  if k == "off" || k == "none" then some silent
  else if k == "command" || k == "commands_only" then some commands
  else Named.find? k

end Verbosity

end Organism
