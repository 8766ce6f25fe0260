import Organism.Fault
import Organism.Number.Decimal
import Organism.Number.Numeral

/-!
# Quantities

A `Quantity` is a value that counts as a number: a flag as 0 or 1, a whole number of any size, or a
number proper.  Quantities are compared by their exact values.  A whole number is rounded when it
becomes a number, and may be too large for one.

* `Value.quantity?`    the values that are quantities;
* `Value.compared`     the exact value on one side of a comparison;
* `Value.operand`      the number on one side of a sum or product;
* `Value.toNumber`     the number that any value is read as, numerals included;
* `Value.toNamed`      the member of a finite sort that a value names;
* `Number.toHealth`    a finite number, brought into `[0, 1]`.
-/

namespace Organism

inductive Quantity where
  | flag (b : Bool)
  | whole (n : Int)
  | real (x : Number)
deriving DecidableEq

namespace Quantity

def value : Quantity → Value
  | flag b => .flag b
  | whole n => .whole n
  | real x => .real x

/-- the exact value -/
def exact : Quantity → Number
  | flag b => .finite (if b then 1 else 0)
  | whole n => .finite n
  | real x => x

/-- the value as a number proper -/
def number [Rounding] : Quantity → Except Fault Number
  | flag b => .ok (.finite (if b then 1 else 0))
  | whole n =>
    let x := Rounding.round n
    if x.isFinite then .ok x else .error .tooLarge
  | real x => .ok x

end Quantity

namespace Value

def quantity? : Value → Option Quantity
  | flag b => some (.flag b)
  | whole n => some (.whole n)
  | real x => some (.real x)
  | _ => Option.none

/-- the exact value of a quantity that is compared with something of the kind `other`; `flipped`
when it stands on the right -/
def compared (comparison : String) (other : Kind) (v : Value) (flipped : Bool) :
    Except Fault Number :=
  match v.quantity? with
  | some q => .ok q.exact
  | Option.none =>
    .error (if flipped then .incomparable comparison other v.kind
      else .incomparable comparison v.kind other)

section
variable [Rounding]

/-- the number of a quantity that an operation combines with a number -/
def operand (operator : String) (v : Value) : Except Fault Number :=
  match v.quantity? with
  | some q => q.number
  | Option.none => .error (.notOperand operator .real v.kind)

/-- the number that a value is read as -/
def toNumber : Value → Except Fault Number
  | text s => (Number.ofText? s).elim (.error (.notNumeral (text s).shown)) .ok
  | bytes bs => (Number.ofBytes? bs).elim (.error (.notNumeral (bytes bs).shown)) .ok
  | v =>
    match v.quantity? with
    | some q => q.number
    | Option.none => .error (.notNumber v.kind)

def fixed (places : Nat) (v : Value) : Except Fault String :=
  match v.quantity? with
  | some q => q.number.map (Number.fixed places)
  | Option.none => .error (.notPlaces v.kind)

end
end Value

/-- the member of a finite sort that a value names -/
def Value.toNamed (α : Type) [Named α] [Rounding] (sort : String) (v : Value) : Except Fault α :=
  match v with
  | text s => (Named.find? s).elim (.error (.unknownName v.shown sort)) .ok
  | _ => .error (.unknownName v.shown sort)

/-! ## healths -/

def Number.toHealth (x : Number) : Except Fault Number :=
  match x with
  | nan => .error (.notFinite "nan")
  | infinite s => .error (.notFinite (if s then "-inf" else "inf"))
  | x => .ok x.toUnit

def Value.toHealth [Rounding] (v : Value) : Except Fault Number := do
  (← v.toNumber).toHealth

end Organism
