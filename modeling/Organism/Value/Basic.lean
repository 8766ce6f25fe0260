import Organism.Number.Decimal
import Organism.Text.Basic

/-!
# Values

A `Value` is a piece of plain data: what a settings document, a working memory entry, the payload of
a pulse or a field of a request may hold.  Nothing is presumed about its type; the parts of the
organism that want a number or a text ask for it and say what they found instead.

* `Value.kind`       the type, under the name that messages use;
* `Value.isEmpty`    nothing, zero, or an empty text or collection;
* `Value.shown`      the value as it is listed, texts in quotes;
* `Value.inText`     the value as it stands inside a sentence, texts as they are.
-/

namespace Organism

inductive Value where
  | none
  | flag (b : Bool)
  | whole (n : Int)
  | real (x : Number)
  | text (s : String)
  | bytes (bs : List UInt8)
  | list (items : List Value)
  | map (entries : List (Value × Value))
deriving Inhabited

inductive Kind where
  | none
  | flag
  | whole
  | real
  | text
  | bytes
  | list
  | map
deriving DecidableEq

def Kind.label : Kind → String
  | .none => "NoneType"
  | .flag => "bool"
  | .whole => "int"
  | .real => "float"
  | .text => "str"
  | .bytes => "bytes"
  | .list => "list"
  | .map => "dict"

namespace Value

def kind : Value → Kind
  | none => .none
  | flag _ => .flag
  | whole _ => .whole
  | real _ => .real
  | text _ => .text
  | bytes _ => .bytes
  | list _ => .list
  | map _ => .map

/-- a key that entries can be found under -/
def isKey (v : Value) : Bool := v.kind != .list && v.kind != .map

/-- a map with texts as its keys -/
def record (fields : List (String × Value)) : Value :=
  map (fields.map fun (k, v) => (text k, v))

/-- what counts as absent: nothing, zero, an empty text or collection -/
def isEmpty : Value → Bool
  | none => true
  | flag b => !b
  | whole n => n == 0
  | real x => x == .minusZero || x == .finite 0
  | text s => s.isEmpty
  | bytes bs => bs.isEmpty
  | list items => items.isEmpty
  | map entries => entries.isEmpty

/-! ## equality -/

mutual
def same : Value → Value → Bool
  | none, none => true
  | flag a, flag b => a == b
  | whole a, whole b => a == b
  | real a, real b => a == b
  | text a, text b => a == b
  | bytes a, bytes b => a == b
  | list a, list b => sameItems a b
  | map a, map b => sameEntries a b
  | _, _ => false

def sameItems : List Value → List Value → Bool
  | [], [] => true
  | a :: as, b :: bs => same a b && sameItems as bs
  | _, _ => false

def sameEntries : List (Value × Value) → List (Value × Value) → Bool
  | [], [] => true
  | (k, v) :: as, (l, w) :: bs => same k l && same v w && sameEntries as bs
  | _, _ => false
end

instance : BEq Value := ⟨same⟩

/-! ## text -/

section
variable [Rounding]

mutual
/-- the value as it is listed -/
def shown : Value → String
  | none => "None"
  | flag b => if b then "True" else "False"
  | whole n => toString n
  | real x => x.text .shown
  | text s => Text.quoted s
  | bytes bs => Text.quotedBytes bs
  | list items => "[" ++ ", ".intercalate (shownItems items) ++ "]"
  | map entries => "\x7b" ++ ", ".intercalate (shownEntries entries) ++ "\x7d"

def shownItems : List Value → List String
  | [] => []
  | v :: vs => shown v :: shownItems vs

def shownEntries : List (Value × Value) → List String
  | [] => []
  | (k, v) :: es => (shown k ++ ": " ++ shown v) :: shownEntries es
end

/-- the value inside a sentence -/
def inText : Value → String
  | text s => s
  | v => shown v

end

/-! ## maps -/

def field? (entries : List (Value × Value)) (key : String) : Option Value :=
  (entries.find? fun e => e.1 == text key).map (·.2)

/-- the value of a key set: in the place that the key has, or at the end -/
def overwrite (entries : List (Value × Value)) (key v : Value) : List (Value × Value) :=
  match entries with
  | [] => [(key, v)]
  | (k, w) :: es => if k == key then (k, v) :: es else (k, w) :: overwrite es key v

end Value
end Organism
