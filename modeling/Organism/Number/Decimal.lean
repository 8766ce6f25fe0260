import Organism.Number.Basic

/-!
# Decimals

`Decimal` is a decimal numeral without its sign: `coefficient * 10 ^ exponent`.  `Decimal.ofRat`
chooses one for a positive value: the fewest digits that read back as the value under the ambient
rounding, and of those the nearest, of two equally near the one whose last digit is even.  When
seventeen digits are not enough the value is written out in full.

* `Decimal.number`     what the numeral reads back as;
* `Decimal.point`      where its decimal point stands, counted from the first digit;
* `neighbours`         the two numerals of a grid around a value, the nearer first;
* `shortest?`          the search;
* `Number.text`        the digits set out in one of several layouts;
* `Number.fixed`       a fixed count of places instead, rounded from the exact value.
-/

namespace Organism

structure Decimal where
  coefficient : Nat
  exponent : Int
deriving DecidableEq

namespace Decimal

def number [Rounding] (d : Decimal) : Number := Rounding.roundDecimal d.coefficient d.exponent

def digits (d : Decimal) : List Char := Nat.toDigits 10 d.coefficient

/-- `0.digits * 10 ^ point` is the value -/
def point (d : Decimal) : Int := d.digits.length + d.exponent

/-- the same value without zeros at the end of the coefficient -/
def trim (d : Decimal) : Decimal :=
  if h : d.coefficient ≠ 0 ∧ d.coefficient % 10 = 0 then
    trim ⟨d.coefficient / 10, d.exponent + 1⟩
  else d
termination_by d.coefficient
decreasing_by
  exact Nat.div_lt_self (Nat.pos_of_ne_zero h.1) (by decide)

end Decimal

def decimalLength (n : Nat) : Nat := (Nat.toDigits 10 n).length

/-- the `p` with `10 ^ (p - 1) ≤ q < 10 ^ p`, for a positive value -/
def decimalPoint (q : Rat) : Int :=
  let e : Int := decimalLength q.num.natAbs - decimalLength q.den
  if (10 : Rat) ^ e ≤ q then e + 1 else e

/-- the multiples of `10 ^ exponent` below and above a positive value, the nearer first -/
def neighbours (q : Rat) (exponent : Int) : List Decimal :=
  let s := q / (10 : Rat) ^ exponent
  let k := s.floor.toNat
  let r := s - s.floor
  let below : Decimal := ⟨k, exponent⟩
  let above : Decimal := ⟨k + 1, exponent⟩
  if r < 1 / 2 then [below, above]
  else if 1 / 2 < r then [above, below]
  else if k % 2 = 0 then [below, above]
  else [above, below]

/-- the first of at most seventeen digits that reads back -/
def shortest? [Rounding] (q : Rat) : Option Decimal :=
  (List.range 17).findSome? fun (k : Nat) =>
    (neighbours q (decimalPoint q - (k + 1))).find? fun d => d.number = .finite q

/-- a value whose denominator is a power of two, written out in full -/
def Decimal.ofDyadic (q : Rat) : Decimal :=
  let places := q.den.log2
  ⟨q.num.natAbs * Nat.pow 5 places, -places⟩

/-- the numeral that a positive value is written with -/
def Decimal.ofRat [Rounding] (q : Rat) : Decimal :=
  ((shortest? q).getD (.ofDyadic q)).trim

theorem shortest?_number [Rounding] {q : Rat} {d : Decimal} (h : shortest? q = some d) :
    d.number = .finite q := by
  obtain ⟨k, -, hk⟩ := List.exists_of_findSome?_eq_some h
  simpa using List.find?_some hk

/-! ## layouts -/

/-- how digits are set out -/
structure Layout where
  /-- the positions of the point that are written without an exponent; `none` is all of them -/
  plain : Option (Int × Int)
  /-- a whole number ends in `.0` -/
  fraction : Bool
  /-- least count of digits in an exponent -/
  exponentWidth : Nat
  /-- a positive exponent has its sign -/
  exponentPlus : Bool

namespace Layout

/-- numbers in messages and listings: `0.1`, `1.0`, `1e-05`, `1e+16` -/
def shown : Layout := ⟨some (-3, 16), true, 2, true⟩

/-- healths in a state file: `1`, `0.25`, `0.00001` -/
def stored : Layout := ⟨none, false, 2, true⟩

/-- numbers in a snapshot document: `1.0`, `0.00001`, `1e-6`, `1e16` -/
def document : Layout := ⟨some (-4, 16), true, 1, false⟩

def positional (l : Layout) (digits : List Char) (point : Int) : List Char :=
  let n := point.toNat
  if point ≤ 0 then '0' :: '.' :: (List.replicate (-point).toNat '0' ++ digits)
  else if digits.length ≤ n then
    digits ++ List.replicate (n - digits.length) '0' ++ (if l.fraction then ['.', '0'] else [])
  else digits.take n ++ '.' :: digits.drop n

def scientific (l : Layout) (digits : List Char) (point : Int) : List Char :=
  let e := point - 1
  let mantissa := digits.take 1 ++ if digits.length ≤ 1 then [] else '.' :: digits.drop 1
  let size := Nat.toDigits 10 e.natAbs
  let sign := if e < 0 then ['-'] else if l.exponentPlus then ['+'] else []
  mantissa ++ 'e' :: (sign ++ List.replicate (l.exponentWidth - size.length) '0' ++ size)

def isPlain (l : Layout) (point : Int) : Bool :=
  match l.plain with
  | none => true
  | some (first, last) => first ≤ point && point ≤ last

def magnitude [Rounding] (l : Layout) (q : Rat) : List Char :=
  if q = 0 then '0' :: (if l.fraction then ['.', '0'] else [])
  else
    let d := Decimal.ofRat q
    if l.isPlain d.point then l.positional d.digits d.point else l.scientific d.digits d.point

end Layout

namespace Number

def chars [Rounding] (l : Layout) : Number → List Char
  | nan => "nan".toList
  | infinite s => (if s then "-inf" else "inf").toList
  | minusZero => '-' :: l.magnitude 0
  | finite q => if q < 0 then '-' :: l.magnitude (-q) else l.magnitude q

def text [Rounding] (l : Layout) (x : Number) : String := .ofList (x.chars l)

/-- a whole number of units of `10 ^ -places`, with the point in its place -/
def fixedDigits (places units : Nat) : List Char :=
  let ds := Nat.toDigits 10 units
  let all := List.replicate (places + 1 - ds.length) '0' ++ ds
  let split := all.length - places
  all.take split ++ if places = 0 then [] else '.' :: all.drop split

end Number

/-! ## fixed places -/

namespace Number

def fixed (places : Nat) : Number → String
  | nan => "nan"
  | infinite s => if s then "-inf" else "inf"
  | minusZero => "-" ++ .ofList (fixedDigits places 0)
  | finite q =>
    let units := (roundEven ((if q < 0 then -q else q) * (10 : Rat) ^ places)).toNat
    (if q < 0 then "-" else "") ++ .ofList (fixedDigits places units)

end Number

end Organism
