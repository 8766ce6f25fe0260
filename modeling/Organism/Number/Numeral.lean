import Organism.Number.Decimal
import Organism.Text.Basic

/-!
# Numerals

What a text may say where a number is expected.

* `readPlain?`      sign, digits and point, as in a state file: `-0.25`, `7.`, `.5`;
* `readNumeral?`    the same with an exponent, or the name of an infinity or of `nan`;
* `Number.ofText?`  a numeral with spaces around it, digits of any script, and single underscores
                    between digits;
* `Number.ofBytes?` the same in bytes;
* `Number.ofField?` a numeral with spaces around it, or one of ASCII digits with underscores inside,
                    single but anywhere.
-/

namespace Organism

open Text

def takeSign : List Char → Bool × List Char
  | '+' :: cs => (false, cs)
  | '-' :: cs => (true, cs)
  | cs => (false, cs)

def signed (negative : Bool) (x : Number) : Number := if negative then -x else x

/-- the digits before and after the point -/
structure Numeral where
  whole : List Char
  part : List Char

namespace Numeral

/-- digits with at most one point among them, and the rest; there has to be a digit -/
def take? (isDigit : Char → Bool) (cs : List Char) : Option (Numeral × List Char) :=
  let whole := cs.takeWhile isDigit
  match cs.dropWhile isDigit with
  | '.' :: rest =>
    let part := rest.takeWhile isDigit
    if whole.isEmpty && part.isEmpty then none
    else some (⟨whole, part⟩, rest.dropWhile isDigit)
  | rest => if whole.isEmpty then none else some (⟨whole, []⟩, rest)

/-- the decimal with its point moved `shift` places to the right -/
def decimal (n : Numeral) (shift : Int) : Decimal :=
  ⟨digitsValue (n.whole ++ n.part), shift - n.part.length⟩

end Numeral

section
variable [Rounding]

/-- sign, digits and point, and nothing else -/
def readPlain? (cs : List Char) : Option Number :=
  let (negative, body) := takeSign cs
  match Numeral.take? isDigit body with
  | some (n, []) => some (signed negative (n.decimal 0).number)
  | _ => none

def readExponent? : List Char → Option Int
  | [] => some 0
  | e :: cs =>
    if e == 'e' || e == 'E' then
      let (negative, ds) := takeSign cs
      if ds.isEmpty || !ds.all Char.isDigit then none
      else
        let n : Int := digitsValue ds
        some (if negative then -n else n)
    else none

def readNamed? (cs : List Char) : Option Number :=
  let name := cs.map Char.toLower
  if name == "inf".toList || name == "infinity".toList then some (.infinite false)
  else if name == "nan".toList then some .nan
  else none

def readNumeral? (cs : List Char) : Option Number :=
  let (negative, body) := takeSign cs
  match readNamed? body with
  | some x => some (signed negative x)
  | none =>
    match Numeral.take? Char.isDigit body with
    | none => none
    | some (n, rest) => (readExponent? rest).map fun e => signed negative (n.decimal e).number

/-- every underscore has a digit on both sides -/
def underscoresBetweenDigits (previous : Char) : List Char → Bool
  | [] => previous != '_'
  | c :: cs =>
    (if c == '_' then previous.isDigit else previous != '_' || c.isDigit) &&
      underscoresBetweenDigits c cs

def asciiDigit (c : Char) : Char :=
  match digitValue? c with
  | some n => digitChar n
  | none => c

/-- a numeral as people write it -/
def Number.ofText? (s : String) : Option Number :=
  let cs := (strip isSpace s.toList).map asciiDigit
  if underscoresBetweenDigits ' ' cs then readNumeral? (cs.filter (· != '_')) else none

/-- the same in bytes, all of them ASCII -/
def Number.ofBytes? (bs : List UInt8) : Option Number :=
  if bs.all (· < 0x80) then Number.ofText? (.ofList (bs.map ofByte)) else none

def hasDoubleUnderscore : List Char → Bool
  | '_' :: '_' :: _ => true
  | _ :: cs => hasDoubleUnderscore cs
  | [] => false

/-- a numeral in a field of a request -/
def Number.ofField? (s : String) : Option Number :=
  let cs := s.toList
  match readNumeral? (strip isSpace cs) with
  | some x => some x
  | none =>
    if cs.head? == some '_' || cs.getLast? == some '_' || hasDoubleUnderscore cs then none
    else readNumeral? (cs.filter (· != '_'))

end

/-- a whole number with sign, single underscores between digits and spaces around it -/
def wholeOfText? (s : String) : Option Int :=
  let (negative, ds) := takeSign ((strip isSpace s.toList).map asciiDigit)
  let plain := ds.filter (· != '_')
  if plain.isEmpty || !plain.all Char.isDigit || !underscoresBetweenDigits ' ' ds then none
  else
    let n : Int := digitsValue plain
    some (if negative then -n else n)

end Organism
