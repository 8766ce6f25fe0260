import Organism.Fault
import Organism.Table

/-!
# Working memory

A store of values under a scope and a key.  Entries are texts, numbers, flags, and maps of those;
the keys of a map become texts when it is stored.

* `set?`, `get?`, `get`, `delete`, `pop`   the operations on one entry;
* `Memory.View`                            the same operations on the entries of one scope;
* `listing`                                all entries by the names of their scopes, in order;
* `dump`                                   the listing as text.
-/

namespace Organism

/-- where an entry belongs: the whole organism, or one node, organ or task -/
structure Scope where
  kind : String
  ref : Option Int := none
deriving DecidableEq

namespace Scope

def everywhere : Scope := { kind := "global" }

def organ (id : Int) : Scope := { kind := "organ", ref := some id }

def name (s : Scope) : String :=
  match s.ref with
  | none => s.kind
  | some r => s!"{s.kind}:{r}"

end Scope

/-! ## what can be stored -/

section
variable [Rounding]

mutual
/-- the value as it is stored: the keys of maps as texts -/
def Value.stored : Value → Except Fault Value
  | .flag b => .ok (.flag b)
  | .whole n => .ok (.whole n)
  | .real x => .ok (.real x)
  | .text s => .ok (.text s)
  | .map entries => (storedEntries [] entries).map .map
  | v => .error (.unsupportedEntry v.kind)

def storedEntries (done : List (Value × Value)) :
    List (Value × Value) → Except Fault (List (Value × Value))
  | [] => .ok done
  | (k, v) :: es => do
    let w ← v.stored
    storedEntries (Value.overwrite done (.text k.inText) w) es
end

end

/-! ## the store -/

structure Memory where
  entries : Table (Scope × String) Value := {}

namespace Memory

def get? (m : Memory) (scope : Scope) (key : String) : Option Value := m.entries.get? (scope, key)

/-- the value of an entry; the default if there is none -/
def get (m : Memory) (scope : Scope) (key : String) (default : Value) : Value :=
  (m.get? scope key).getD default

def put (m : Memory) (scope : Scope) (key : String) (v : Value) : Memory :=
  { entries := m.entries.put (scope, key) v }

/-- an entry written, if its value can be stored -/
def set? [Rounding] (m : Memory) (scope : Scope) (key : String) (v : Value) :
    Except Fault Memory :=
  v.stored.map (m.put scope key)

def delete (m : Memory) (scope : Scope) (key : String) : Memory :=
  { entries := m.entries.erase (scope, key) }

/-- the store without the entry, and whether a value other than nothing has gone with it -/
def pop (m : Memory) (scope : Scope) (key : String) : Memory × Bool :=
  (m.delete scope key, (m.get scope key .none).kind != .none)

def size (m : Memory) : Nat := m.entries.size

/-- the store as it is reached from one scope -/
structure View where
  scope : Scope

namespace View

def get (w : View) (m : Memory) (key : String) (default : Value) : Value :=
  m.get w.scope key default

def set? [Rounding] (w : View) (m : Memory) (key : String) (v : Value) : Except Fault Memory :=
  m.set? w.scope key v

end View

/-! ## listing -/

/-- order of the listing: by the name of the scope, then by the key -/
def precedes (a b : (Scope × String) × Value) : Bool :=
  if a.1.1.name < b.1.1.name then true
  else if b.1.1.name < a.1.1.name then false
  else !(b.1.2 < a.1.2)

def sorted (m : Memory) : List ((Scope × String) × Value) := m.entries.rows.mergeSort precedes

def putGroup (groups : Table String (Table String Value)) (e : (Scope × String) × Value) :
    Table String (Table String Value) :=
  groups.put e.1.1.name (((groups.get? e.1.1.name).getD {}).put e.1.2 e.2)

/-- the entries in groups by the names of their scopes -/
def listing (m : Memory) : List (String × List (String × Value)) :=
  (m.sorted.foldl putGroup {}).rows.map fun (name, fields) => (name, fields.rows)

def toValue (m : Memory) : Value := .record (m.listing.map fun (name, fs) => (name, .record fs))

def dump [Rounding] (m : Memory) : String :=
  let lines := m.listing.flatMap fun (name, fields) =>
    fields.map fun (key, v) => s!" - {name} / {key} = {v.shown}"
  "\n".intercalate ("Working memory snapshot:" :: lines)

end Memory
end Organism
