import Organism.Named
import Organism.Text.Basic

/-!
# The journal

What the organism notes about its own working, in order, and how a note becomes a line.

A moment is a count of milliseconds since the beginning of 1970, in universal time, and `Clock.text`
words it as log lines do: `1970-01-01 00:00:00,000`.  The calendar repeats every 400 years, which
are 146097 days; years are taken to begin in March, so that the day that some years lack is their
last one.

In a template `%(levelname)s`, `%(name)s`, `%(message)s`, `%(asctime)s` and the like are replaced,
and `%%` is a percent sign.  As in `%(name)-12.8s`, a minus sign, a width and a greatest length may
be given.

* `Clock.text`         a moment in words;
* `Template.render`    a note as a line;
* `Template.isValid`   the templates that have a field at all.
-/

namespace Organism

/-! ## notes -/

inductive LogLevel where
  | debug
  | info
  | warning
  | error
deriving DecidableEq

namespace LogLevel

instance : Named LogLevel where
  all := [debug, info, warning, error]
  label
    | debug => "DEBUG"
    | info => "INFO"
    | warning => "WARNING"
    | error => "ERROR"

def label (l : LogLevel) : String := Named.label l

def rank : LogLevel → Nat
  | debug => 10
  | info => 20
  | warning => 30
  | error => 40

end LogLevel

/-- the parts of the organism that keep notes -/
inductive LogSource where
  | bus
  | health
  | storage
  | commands
  | daemons
  | scheduler
  | settings
  | shell
deriving DecidableEq

def LogSource.part : LogSource → String
  | bus => "bus"
  | health => "health"
  | storage => "persistence"
  | commands => "commands"
  | daemons => "daemons"
  | scheduler => "scheduler"
  | settings => "config"
  | shell => "runtime"

def LogSource.name (s : LogSource) : String := "aion_kernel." ++ s.part

structure LogRecord where
  level : LogLevel
  source : LogSource
  text : String
deriving DecidableEq

def LogRecord.line (r : LogRecord) : String := r.level.label ++ " " ++ r.text

/-! ## dates -/

namespace Clock

/-- year of the 400 that a day of them lies in -/
def yearOfEra (day : Nat) : Nat := (day - day / 1460 + day / 36524 - day / 146096) / 365

/-- year, month and day of a day since the beginning of 1970 -/
def date (days : Nat) : Nat × Nat × Nat :=
  let shifted := days + 719468
  let era := shifted / 146097
  let day := shifted % 146097
  let year := yearOfEra day
  let dayOfYear := day - (365 * year + year / 4 - year / 100)
  let march := (5 * dayOfYear + 2) / 153
  let month := if march < 10 then march + 3 else march - 9
  (400 * era + year + (if month ≤ 2 then 1 else 0), month, dayOfYear - (153 * march + 2) / 5 + 1)

def padded (width n : Nat) : String :=
  let ds := Nat.toDigits 10 n
  .ofList (List.replicate (width - ds.length) '0' ++ ds)

/-- the moment in words -/
def text (milliseconds : Nat) : String :=
  let seconds := milliseconds / 1000
  let (year, month, day) := date (seconds / 86400)
  let hour := padded 2 (seconds / 3600 % 24)
  let minute := padded 2 (seconds / 60 % 60)
  let second := padded 2 (seconds % 60)
  s!"{padded 4 year}-{padded 2 month}-{padded 2 day} {hour}:{minute}:{second}," ++
    padded 3 (milliseconds % 1000)

end Clock

/-! ## templates -/

namespace Template

structure Field where
  name : String
  /-- short texts are put on the left of their place -/
  left : Bool
  width : Nat
  limit : Option Nat
  conversion : Char
deriving DecidableEq

inductive Piece where
  | text (c : Char)
  | field (f : Field)
deriving DecidableEq

def number (ds : List Char) : Nat := ds.foldl (fun n c => 10 * n + (c.toNat - 0x30)) 0

def readLimit (cs : List Char) : Option Nat × List Char :=
  match cs with
  | '.' :: rest => (some (number (rest.takeWhile Char.isDigit)), rest.dropWhile Char.isDigit)
  | _ => (none, cs)

def isConversion (c : Char) : Bool := "diouxefgcrsaDIOUXEFGCRSA%".toList.contains c

/-- the rest of a field after its name: flags, width, limit and a letter -/
def readField (name : String) (cs : List Char) : Option (Field × List Char) :=
  let flags := cs.takeWhile fun c => ['#', '0', '+', ' ', '-'].contains c
  let cs := cs.drop flags.length
  let digits := cs.takeWhile Char.isDigit
  let (limit, cs) := readLimit (cs.drop digits.length)
  match cs with
  | c :: rest =>
    if isConversion c then some (⟨name, flags.contains '-', number digits, limit, c⟩, rest)
    else none
  | [] => none

def field? (cs : List Char) : Option (Field × List Char) :=
  let name := cs.takeWhile (· ≠ ')')
  readField (.ofList name) (cs.drop (name.length + 1))

/-- the pieces of a template; `skipped` characters belong to a piece already read -/
def pieces : (skipped : Nat) → List Char → List Piece
  | _, [] => []
  | n + 1, _ :: cs => pieces n cs
  | 0, '%' :: '%' :: cs => .text '%' :: pieces 0 cs
  | 0, '%' :: '(' :: cs =>
    match field? cs with
    | some (f, rest) => .field f :: pieces (cs.length - rest.length) cs
    | none => .text '%' :: .text '(' :: pieces 0 cs
  | 0, c :: cs => .text c :: pieces 0 cs

def content (time : String) (r : LogRecord) (name : String) : String :=
  let part := r.source.part
  if name = "levelname" then r.level.label
  else if name = "levelno" then toString r.level.rank
  else if name = "name" then r.source.name
  else if name = "module" then part
  else if name = "filename" then part ++ ".py"
  else if name = "message" then r.text
  else if name = "asctime" then time
  else ""

def Field.fit (f : Field) (s : String) : String :=
  let s := f.limit.elim s fun n => String.ofList (s.toList.take n)
  let blanks := String.ofList (List.replicate (f.width - s.length) ' ')
  if f.left then s ++ blanks else blanks ++ s

def Field.render (f : Field) (time : String) (r : LogRecord) : String :=
  let s := content time r f.name
  f.fit (if f.conversion = 'r' && f.name ≠ "levelno" then Text.quoted s else s)

def Piece.render (time : String) (r : LogRecord) : Piece → String
  | .text c => .singleton c
  | .field f => f.render time r

/-- a note as a line, given the time in words -/
def render (template time : String) (r : LogRecord) : String :=
  String.join ((pieces 0 template.toList).map (Piece.render time r))

def isName (name : String) : Bool :=
  !name.isEmpty && name.toList.all fun c => c.isAlphanum || c == '_' || 0x80 ≤ c.toNat

/-- a field begins somewhere in the text -/
def hasField : List Char → Bool
  | '%' :: '(' :: cs => (field? cs).any (fun (f, _) => isName f.name) || hasField ('(' :: cs)
  | _ :: cs => hasField cs
  | [] => false

def isValid (template : String) : Bool := hasField template.toList

/-- the template that stands for none -/
def plain : String := "%(message)s"

end Template

end Organism
