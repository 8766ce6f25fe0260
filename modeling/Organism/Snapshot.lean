import Organism.Anatomy.Topology
import Organism.Signal.Bus

/-!
# Snapshots

A snapshot is what a reader from outside sees of the organism between two ticks.  It is printed for
other programs as maps and lists in brackets, with two blanks for each level of indentation, and
every text in double quotes.

* `Snapshot.take`      the organism as it stands;
* `Snapshot.toValue`   the snapshot as data;
* `Value.render`       data as a document;
* `Snapshot.print`     both, with the time of printing.
-/

namespace Organism

structure OrganView where
  kind : OrganKind
  nodeId : Int
  health : Number
  tier : Tier
  devices : List String
deriving DecidableEq

structure Snapshot where
  tick : Int
  organs : List OrganView
  awareness : Number
  awarenessTier : Tier
  policy : Policy
  simLevel : SimLevel
  verbosity : Verbosity
deriving DecidableEq

namespace Snapshot

def view [Rounding] (o : Organ) : OrganView where
  kind := o.kind
  nodeId := o.nodeId
  health := o.health
  tier := o.tier
  devices := o.devices.map (·.id)

/-- the organism as it stands -/
def take [Rounding] (t : Topology) (b : Bus) (tick : Int) : Snapshot where
  tick := tick
  organs := t.organs.map view
  awareness := b.awareness
  awarenessTier := .ofNumber b.awareness
  policy := b.policy
  simLevel := b.simLevel
  verbosity := b.verbosity

def healths (s : Snapshot) : List (OrganKind × Number) := s.organs.map fun o => (o.kind, o.health)

end Snapshot

/-! ## data -/

def OrganView.toValue (o : OrganView) : Value :=
  .record
    [("kind", .text o.kind.label), ("node_id", .whole o.nodeId), ("health", .real o.health),
      ("tier", .text (Named.label o.tier)), ("label", .text o.tier.healthLabel),
      ("peripherals", .list (o.devices.map .text))]

def Snapshot.fields (s : Snapshot) : List (String × Value) :=
  [("tick", .whole s.tick), ("organs", .list (s.organs.map OrganView.toValue)),
    ("awareness", .real s.awareness), ("awareness_label", .text s.awarenessTier.awarenessLabel),
    ("policy", .text (Named.label s.policy)), ("sim_level", .text s.simLevel.label),
    ("log_filter", .text s.verbosity.label)]

def Snapshot.toValue (s : Snapshot) : Value := .record s.fields

/-! ## documents -/

namespace Value

def escape (c : Char) : List Char :=
  if c == '\x22' then ['\\', '\x22']
  else if c == '\\' then ['\\', '\\']
  else if c == '\n' then ['\\', 'n']
  else if c == '\r' then ['\\', 'r']
  else if c == '\t' then ['\\', 't']
  else if c == '\x08' then ['\\', 'b']
  else if c == '\x0c' then ['\\', 'f']
  else if c.toNat < 0x20 then '\\' :: 'u' :: Text.hexDigits 4 c.toNat
  else [c]

def inQuotes (s : String) : String := .ofList ('\x22' :: (s.toList.flatMap escape ++ ['\x22']))

def newline (level : Nat) : String := .ofList ('\n' :: List.replicate (2 * level) ' ')

def bracket (left right : String) (level : Nat) (pieces : List String) : String :=
  if pieces.isEmpty then left ++ right
  else
    left ++ newline (level + 1) ++ ("," ++ newline (level + 1)).intercalate pieces ++
      newline level ++ right

section
variable [Rounding]

mutual
/-- data as a document at a level of indentation -/
def render (level : Nat) : Value → String
  | none => "null"
  | flag b => if b then "true" else "false"
  | whole n => toString n
  | real x => x.text .document
  | text s => inQuotes s
  | bytes bs => inQuotes (Text.quotedBytes bs)
  | list items => bracket "[" "]" level (renderItems (level + 1) items)
  | map entries => bracket "\x7b" "\x7d" level (renderEntries (level + 1) entries)

def renderItems (level : Nat) : List Value → List String
  | [] => []
  | v :: vs => render level v :: renderItems level vs

def renderEntries (level : Nat) : List (Value × Value) → List String
  | [] => []
  | (k, v) :: es => (inQuotes k.inText ++ ": " ++ render level v) :: renderEntries level es
end

end
end Value

/-- the document of a snapshot with the time at which it is printed -/
def Snapshot.print [Rounding] (s : Snapshot) (time : Value) : String :=
  Value.render 0 (.record (s.fields ++ [("timestamp", time)]))

end Organism
