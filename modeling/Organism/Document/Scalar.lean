import Organism.Number.Numeral
import Organism.Value.Basic

/-!
# Scalars of a document

A scalar without quotes is nothing, a flag, a whole number, a number proper or, if it is none of
these, a text.  Underscores may stand among the digits of numbers.

* whole numbers are decimal, hexadecimal (`0x1F`), binary (`0b101`), octal (`017`) or sexagesimal
  (`12:30`);
* a number proper has a point, and an exponent in it has a sign.
-/

namespace Organism.Document

def isNull (s : String) : Bool := ["", "~", "null", "Null", "NULL"].contains s

def flag? (s : String) : Option Bool :=
  if ["yes", "Yes", "YES", "true", "True", "TRUE", "on", "On", "ON"].contains s then some true
  else if ["no", "No", "NO", "false", "False", "FALSE", "off", "Off", "OFF"].contains s then
    some false
  else none

/-! ## whole numbers -/

def hexValue (c : Char) : Nat :=
  if c.isDigit then c.toNat - 0x30 else c.toLower.toNat - 0x61 + 10

/-- the number that digits of a base spell, underscores aside -/
def digitsIn (base : Nat) (cs : List Char) : Nat :=
  (cs.filter (· != '_')).foldl (fun n c => base * n + hexValue c) 0

def isRun (isDigit : Char → Bool) (cs : List Char) : Bool :=
  !cs.isEmpty && cs.all fun c => isDigit c || c == '_'

def isBinary (c : Char) : Bool := c == '0' || c == '1'

def isOctal (c : Char) : Bool := '0' ≤ c && c ≤ '7'

def isHex (c : Char) : Bool := c.isDigit || ('a' ≤ c && c ≤ 'f') || ('A' ≤ c && c ≤ 'F')

def isSixtieth (cs : List Char) : Bool :=
  match cs with
  | [a] => a.isDigit
  | [a, b] => '0' ≤ a && a ≤ '5' && b.isDigit
  | _ => false

/-- digits in groups of sixty -/
def sexagesimal? (cs : List Char) : Option Nat :=
  match Text.splitWith (· == ':') cs with
  | first :: second :: more =>
    let groups := second :: more
    if isRun Char.isDigit first && first.head?.any Char.isDigit && groups.all isSixtieth then
      some (groups.foldl (fun n g => 60 * n + digitsIn 10 g) (digitsIn 10 first))
    else none
  | _ => none

def magnitude? (cs : List Char) : Option Nat :=
  match cs with
  | ['0'] => some 0
  | '0' :: 'b' :: ds => if isRun isBinary ds then some (digitsIn 2 ds) else none
  | '0' :: 'x' :: ds => if isRun isHex ds then some (digitsIn 16 ds) else none
  | '0' :: ds => if isRun isOctal ds then some (digitsIn 8 ds) else none
  | d :: ds =>
    if !d.isDigit then none
    else if isRun Char.isDigit (d :: ds) then some (digitsIn 10 (d :: ds))
    else sexagesimal? (d :: ds)
  | [] => none

def whole? (cs : List Char) : Option Int :=
  let (negative, body) := takeSign cs
  (magnitude? body).map fun n => if negative then -(n : Int) else n

/-! ## numbers proper -/

def isExponent (cs : List Char) : Bool :=
  match cs with
  | [] => true
  | e :: sign :: ds =>
    (e == 'e' || e == 'E') && (sign == '+' || sign == '-') && !ds.isEmpty && ds.all Char.isDigit
  | _ => false

/-- digits, a point, digits and an exponent; a sign in front only if a digit follows it -/
def isPointed (cs : List Char) : Bool :=
  let (_, body) := takeSign cs
  let isPart := fun (c : Char) => c.isDigit || c == '_'
  match body with
  | '.' :: d :: rest => cs.head? == some '.' && d.isDigit && isExponent (rest.dropWhile isPart)
  | d :: rest =>
    match rest.dropWhile isPart with
    | '.' :: more => d.isDigit && isExponent (more.dropWhile isPart)
    | _ => false
  | [] => false

section
variable [Rounding]

def named? (cs : List Char) : Option Number :=
  let (negative, body) := takeSign cs
  if [".inf", ".Inf", ".INF"].contains (String.ofList body) then some (.infinite negative)
  else if [".nan", ".NaN", ".NAN"].contains (String.ofList cs) then some .nan
  else none

/-- groups of sixty with a fraction at the end, added up from the last on -/
def pointedSixtieths? (cs : List Char) : Option Number :=
  let (negative, body) := takeSign cs
  let isPart := fun (c : Char) => c.isDigit || c == '_'
  let seconds := (body.reverse.takeWhile (· != ':')).reverse
  let (whole, fraction) := seconds.span (· != '.')
  let groups := body.take (body.length - seconds.length) ++ whole
  match sexagesimal? groups, fraction with
  | some _, '.' :: ds =>
    if ds.all isPart then do
      let parts ← ((Text.splitWith (· == ':') body).map (·.filter (· != '_'))).mapM readNumeral?
      let x := (parts.reverse.zipIdx.map fun (p, i) =>
        p * Rounding.round ((Nat.pow 60 i : Nat) : Rat)).foldl (· + ·) 0
      return if negative then -x else x
    else none
  | _, _ => none

def real? (cs : List Char) : Option Number :=
  match named? cs with
  | some x => some x
  | none =>
    if isPointed cs then readNumeral? (cs.filter (· != '_')) else pointedSixtieths? cs

def plain (cs : List Char) : Value :=
  let s := String.ofList cs
  if isNull s then .none
  else
    match flag? s, whole? cs, real? cs with
    | some b, _, _ => .flag b
    | none, some n, _ => .whole n
    | none, none, some x => .real x
    | none, none, none => .text s

end
end Organism.Document
