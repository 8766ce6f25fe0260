/-!
# Numbers

A health, an awareness or a reading is a `Number`: an exact rational value, minus zero, one of the
two infinities, or `nan`.  What a calculation does with a value that has no exact representation is
not fixed here but by the ambient `Rounding`, so that every rule of the organism is written once and
holds both for 64-bit binary numbers (`Rounding.binary64`) and in exact arithmetic
(`Rounding.exact`).

* `Number.lt`, `Number.le`     the numerical order: `nan` is comparable with nothing and the two
                               zeros are equal;
* `lesser`, `larger`           the choice that keeps its first argument unless the second is
                               strictly better, which decides where a `nan` goes;
* `toUnit`, `clipUnit`         the two ways into `[0, 1]`: the first sends `nan` to 1 and minus zero
                               to 0, the second keeps both;
* `+`, `-`, `*`, `/`           the exact result, rounded once;
* `Binary64.round`             a rational value to the nearest 64-bit binary number.
-/

namespace Organism

/-- an exact value, or one of the numbers that have none -/
inductive Number where
  | nan
  | infinite (negative : Bool)
  | minusZero
  | finite (value : Rat)
deriving DecidableEq

/-- how an exact result becomes a number -/
class Rounding where
  round : Rat → Number
  /-- `coefficient * 10 ^ exponent`, rounded; apart from the cost the same as `round` -/
  roundDecimal : Nat → Int → Number := fun c e => round (c * (10 : Rat) ^ e)

namespace Rounding

/-- exact arithmetic: every result is its own value -/
@[reducible] def exact : Rounding := { round := Number.finite }

end Rounding

namespace Number

instance : Inhabited Number := ⟨finite 0⟩

/-- whole numbers are written as they are, whatever the rounding -/
instance (n : Nat) : OfNat Number n := ⟨finite n⟩

/-- a decimal constant of a rule is rounded like any other value -/
instance [Rounding] : OfScientific Number where
  ofScientific m s e := Rounding.round (OfScientific.ofScientific m s e)

/-- the exact value; 0 for the numbers without one -/
def value : Number → Rat
  | finite q => q
  | _ => 0

def isFinite : Number → Bool
  | nan | infinite _ => false
  | _ => true

def isNegative : Number → Bool
  | nan => false
  | infinite s => s
  | minusZero => true
  | finite q => q < 0

/-! ## order -/

protected def lt : Number → Number → Bool
  | nan, _ => false
  | _, nan => false
  | infinite s, infinite t => s && !t
  | infinite s, _ => s
  | _, infinite t => !t
  | a, b => a.value < b.value

protected def le : Number → Number → Bool
  | nan, _ => false
  | _, nan => false
  | infinite s, infinite t => s || !t
  | infinite s, _ => s
  | _, infinite t => !t
  | a, b => a.value ≤ b.value

instance : LT Number := ⟨fun a b => a.lt b = true⟩
instance : LE Number := ⟨fun a b => a.le b = true⟩
instance (a b : Number) : Decidable (a < b) := inferInstanceAs (Decidable (a.lt b = true))
instance (a b : Number) : Decidable (a ≤ b) := inferInstanceAs (Decidable (a.le b = true))

theorem lt_finite (p q : Rat) : (finite p < finite q) ↔ p < q := by
  show (decide (p < q)) = true ↔ p < q
  simp

theorem le_finite (p q : Rat) : (finite p ≤ finite q) ↔ p ≤ q := by
  show (decide (p ≤ q)) = true ↔ p ≤ q
  simp

/-- the second argument only if it is strictly smaller -/
def lesser (a b : Number) : Number := if b < a then b else a

/-- the second argument only if it is strictly larger -/
def larger (a b : Number) : Number := if a < b then b else a

/-- into `[0, 1]`; a `nan` becomes 1 and minus zero becomes 0 -/
def toUnit (x : Number) : Number := larger 0 (lesser 1 x)

/-- into `[0, 1]`; a `nan` stays, and so does minus zero -/
def clipUnit (x : Number) : Number := lesser (larger x 0) 1

/-! ## signs -/

protected def neg : Number → Number
  | nan => nan
  | infinite s => infinite (!s)
  | minusZero => finite 0
  | finite q => if q = 0 then minusZero else finite (-q)

instance : Neg Number := ⟨Number.neg⟩

def abs (x : Number) : Number := if x.isNegative then -x else x

def zero (negative : Bool) : Number := if negative then minusZero else finite 0

/-! ## arithmetic -/

section
variable [Rounding]

protected def add : Number → Number → Number
  | nan, _ => nan
  | _, nan => nan
  | infinite s, infinite t => if s = t then infinite s else nan
  | infinite s, _ => infinite s
  | _, infinite t => infinite t
  | minusZero, minusZero => minusZero
  | a, b => Rounding.round (a.value + b.value)

protected def mul : Number → Number → Number
  | nan, _ => nan
  | _, nan => nan
  | infinite s, b => if b.isFinite && b.value = 0 then nan else infinite (s != b.isNegative)
  | a, infinite t => if a.value = 0 then nan else infinite (a.isNegative != t)
  | a, b =>
    if a.value * b.value = 0 then zero (a.isNegative != b.isNegative)
    else Rounding.round (a.value * b.value)

protected def div : Number → Number → Number
  | nan, _ => nan
  | _, nan => nan
  | infinite _, infinite _ => nan
  | infinite s, b => infinite (s != b.isNegative)
  | a, infinite t => zero (a.isNegative != t)
  | a, b =>
    if b.value = 0 then
      if a.value = 0 then nan else infinite (a.isNegative != b.isNegative)
    else if a.value = 0 then zero (a.isNegative != b.isNegative)
    else Rounding.round (a.value / b.value)

instance : Add Number := ⟨Number.add⟩
instance : Mul Number := ⟨Number.mul⟩
instance : Div Number := ⟨Number.div⟩
instance : Sub Number := ⟨fun a b => a + -b⟩

/-- the sum from the left, starting at zero -/
def total (xs : List Number) : Number := xs.foldl (· + ·) 0

end
end Number

/-! ## binary numbers of 64 bits -/

/-- nearest whole number, a half to the even one -/
def roundEven (q : Rat) : Int :=
  let k := q.floor
  let r := q - k
  if r < 1 / 2 then k
  else if 1 / 2 < r then k + 1
  else k + k % 2

/-- whole part of the binary logarithm of a positive value -/
def log2 (q : Rat) : Int :=
  let e : Int := q.num.natAbs.log2 - q.den.log2
  if q < (2 : Rat) ^ e then e - 1 else e

namespace Binary64

/-- distance of the 64-bit numbers around a positive value -/
def unit (q : Rat) : Rat := (2 : Rat) ^ max (log2 q - 52) (-1074)

/-- first value without a number: half a unit above the largest one rounds up to it -/
def limit : Rat := (Nat.pow 2 1024 : Nat)

/-- nearest number of a value that is not negative -/
def roundNonneg (q : Rat) : Number :=
  if q = 0 then 0
  else
    let u := unit q
    let r := u * roundEven (q / u)
    if limit ≤ r then .infinite false else .finite r

def round (q : Rat) : Number :=
  if q < 0 then -roundNonneg (-q) else roundNonneg q

/-- a decimal beyond `10 ^ 400` is above all numbers, one below `10 ^ -400` is nearest to zero -/
def roundDecimal (coefficient : Nat) (exponent : Int) : Number :=
  let top : Int := (Nat.toDigits 10 coefficient).length + exponent
  if coefficient = 0 then 0
  else if 400 < top then .infinite false
  else if top < -400 then 0
  else round (coefficient * (10 : Rat) ^ exponent)

end Binary64

/-- the arithmetic of 64-bit binary numbers -/
@[reducible] def Rounding.binary64 : Rounding where
  round := Binary64.round
  roundDecimal := Binary64.roundDecimal

end Organism
