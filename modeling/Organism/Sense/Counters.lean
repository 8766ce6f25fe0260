import Organism.Sense.Host
import Organism.Text.Basic

/-!
# The counters of a kernel

A kernel writes its counters as tables of text, one row a line, with blanks between the columns.

* `Share.ofTable?`           an amount of memory from the table of amounts;
* `DiskCounters.ofTable?`    the disk operations of all devices together;
* `NetCounters.ofTable?`     the packets of all interfaces together;
* `WorkTime.ofTable?`        how long the processors have worked, and `WorkTime.percent` the load
                             between two such times.
-/

namespace Organism

/-- the rows of a table; colons stand for blanks -/
def tableRows (text : String) : List (List String) :=
  let rows := Text.splitWith (· == '\n') (text.toList.map fun c => if c == ':' then ' ' else c)
  rows.map fun row => (Text.words row).map .ofList

def cell (s : String) : Int := Text.digitsValue s.toList

def amount? (rows : List (List String)) (name : String) : Option Int :=
  rows.findSome? fun row =>
    match row with
    | n :: x :: _ => if n = name then some (cell x) else none
    | _ => none

def Share.ofTable? (text total part : String) : Option Share := do
  let rows := tableRows text
  return ⟨← amount? rows total, ← amount? rows part⟩

namespace DiskCounters

def add (a b : DiskCounters) : DiskCounters :=
  ⟨a.reads + b.reads, a.writes + b.writes, a.readTime + b.readTime, a.writeTime + b.writeTime⟩

def names (text : String) : List String := (tableRows text).filterMap fun row => row[2]?

def ofRow? (devices : List String) : List String → Option DiskCounters
  | _ :: _ :: name :: reads :: _ :: _ :: readTime :: writes :: _ :: _ :: writeTime :: _ =>
    if devices.contains name then
      some ⟨cell reads, cell writes, cell readTime, cell writeTime⟩
    else none
  | _ => none

/-- the counters of all the devices together, if there are any -/
def ofTable? (devices : List String) (text : String) : Option DiskCounters :=
  match (tableRows text).filterMap (ofRow? devices) with
  | [] => none
  | d :: ds => some (ds.foldl add d)

end DiskCounters

namespace NetCounters

def add (a b : NetCounters) : NetCounters :=
  ⟨a.sent + b.sent, a.received + b.received, a.droppedIn + b.droppedIn,
    a.droppedOut + b.droppedOut, a.badIn + b.badIn, a.badOut + b.badOut⟩

def ofRow? : List String → Option NetCounters
  | _ :: _ :: received :: badIn :: droppedIn :: _ :: _ :: _ :: _ :: _ :: sent :: badOut ::
      droppedOut :: _ =>
    some ⟨cell sent, cell received, cell droppedIn, cell droppedOut, cell badIn, cell badOut⟩
  | _ => none

/-- the counters of all interfaces together, if there are any -/
def ofTable? (text : String) : Option NetCounters :=
  match ((tableRows text).drop 2).filterMap ofRow? with
  | [] => none
  | n :: ns => some (ns.foldl add n)

end NetCounters

/-- how long the processors have worked, and how long they have been there -/
structure WorkTime where
  busy : Int := 0
  total : Int := 0

namespace WorkTime

/-- the first row has the times of all processors: the fourth and fifth are idle, and from the
ninth on they are contained in others -/
def ofTable? (text : String) : Option WorkTime :=
  match tableRows text with
  | (_ :: times) :: _ =>
    let times := (times.take 8).map cell
    let total := times.foldl (· + ·) 0
    let idle := ((times.drop 3).take 2).foldl (· + ·) 0
    some ⟨total - idle, total⟩
  | _ => none

def percent [Rounding] (last now : WorkTime) : Number :=
  if now.total ≤ last.total then 0
  else Rounding.round ((100 * (now.busy - last.busy) : Int) / (now.total - last.total : Int))

end WorkTime
end Organism
