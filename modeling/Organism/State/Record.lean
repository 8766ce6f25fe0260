import Organism.Anatomy.Topology
import Organism.Number.Numeral
import Organism.Text.Basic

/-!
# State files

The healths of an organism are kept as lines of text, one for every organ:

    version=1
    cortex=0.92
    memory=1

Blank lines and lines that begin with `#` say nothing.  A line with anything else in it is a record,
and the first record that is wrong makes the whole text unreadable.

* `State.write`       the text of a topology;
* `State.parse`       the healths in a text, at most one for every organ;
* `Topology.restore`  healths put into a topology that has the organs;
* `Topology.load`     both: a text put into a topology, or nothing changed.
-/

namespace Organism

namespace State

def versionKey : List Char := "version".toList

/-- the version that is written, and the only one that is read -/
def version : List Char := ['1']

/-! ## writing -/

section
variable [Rounding]

def record (key value : List Char) : List Char := key ++ '=' :: value

def organRecord (k : OrganKind) (health : Number) : List Char :=
  record k.label.toList (health.chars .stored)

def ended (ls : List (List Char)) : List Char := ls.flatMap fun l => l ++ ['\n']

/-- the state of a topology -/
def write (t : Topology) : List Char :=
  ended (record versionKey version :: t.healths.map fun (k, h) => organRecord k h)

end

/-! ## reading -/

/-- what the records so far said -/
structure Records where
  versioned : Bool := false
  healths : List (OrganKind × Number) := []

/-- the two sides of the first `=` -/
def splitRecord? : List Char → Option (List Char × List Char)
  | [] => none
  | '=' :: cs => some ([], cs)
  | c :: cs => (splitRecord? cs).map fun (key, value) => (c :: key, value)

def isRemark (line : List Char) : Bool :=
  match line with
  | [] => true
  | c :: _ => c == '#'

section
variable [Rounding]

/-- the record of an organ -/
def readHealth (r : Records) (organ : OrganKind) (value : List Char) :
    Except StateCause Records :=
  if r.healths.any (·.1 = organ) then .error (.secondRecord organ)
  else
    match readPlain? value with
    | none => .error (.notDecimal (.ofList value) organ)
    | some x =>
      if x.isFinite then .ok { r with healths := r.healths ++ [(organ, x.toUnit)] }
      else .error (.notFinite organ)

def readVersion (r : Records) (value : List Char) : Except StateCause Records :=
  if r.versioned then .error .secondVersion
  else if value = version then .ok { r with versioned := true }
  else .error (.unsupportedVersion (.ofList value))

/-- a trimmed line that is a record -/
def readRecord (r : Records) (line : List Char) : Except StateCause Records :=
  match splitRecord? line with
  | none => .error (.noSeparator (.ofList line))
  | some (left, right) =>
    let key := Text.strip Text.isBlank left
    let value := Text.strip Text.isBlank right
    if key = versionKey then readVersion r value
    else
      match Named.find? (String.ofList key) with
      | none => .error (.unknownOrgan (.ofList key))
      | some organ => readHealth r organ value

def readLine (r : Records) (line : List Char) : Except StateCause Records :=
  let trimmed := Text.strip Text.isBlank line
  if isRemark trimmed then .ok r else readRecord r trimmed

/-- lines numbered from `number` on -/
def readLines (number : Nat) (r : Records) : List (List Char) → Except StateError Records
  | [] => .ok r
  | line :: rest =>
    match readLine r line with
    | .error cause => .error ⟨some number, cause⟩
    | .ok r => readLines (number + 1) r rest

/-- the healths in a text, in the order of their records -/
def parse (text : List Char) : Except StateError (List (OrganKind × Number)) :=
  (readLines 1 {} (Text.lines text)).map (·.healths)

def parseBytes (bytes : List UInt8) : Except StateError (List (OrganKind × Number)) :=
  match Utf8.decode bytes with
  | .error e => .error ⟨none, .notText e⟩
  | .ok text => parse text

end
end State

section
variable [Rounding]

namespace Topology

def put (t : Topology) (entry : OrganKind × Number) : Topology :=
  { t with
    organList := t.organList.map fun o =>
      if o.kind = entry.1 then { o with health := entry.2.toUnit } else o }

/-- healths put into a topology, if it has all their organs -/
def restore (t : Topology) (values : List (OrganKind × Number)) : Except StateError Topology :=
  match (values.map (·.1)).filter fun k => !t.has k with
  | [] => .ok (values.foldl put t)
  | absent => .error ⟨none, .absentOrgans absent⟩

def loadParsed (t : Topology) (parsed : Except StateError (List (OrganKind × Number))) :
    Except StateError (Topology × List (OrganKind × Number)) := do
  let values ← parsed
  let t ← t.restore values
  return (t, values)

def load (t : Topology) (text : List Char) :
    Except StateError (Topology × List (OrganKind × Number)) :=
  t.loadParsed (State.parse text)

def loadBytes (t : Topology) (bytes : List UInt8) :
    Except StateError (Topology × List (OrganKind × Number)) :=
  t.loadParsed (State.parseBytes bytes)

end Topology
end
end Organism
