import Organism.Document.Flow
import Organism.Fault

/-!
# Documents

A document is a value laid out in lines.  Indentation shows what belongs together: the entries of a
map stand below one another, each a key with a colon and its value, and so do the items of a list,
each after a dash.  Comments run from `#` to the end of the line.

* `Document.lines`   the lines that say something, comments removed and brackets closed;
* `Document.block`   the value of some lines;
* `Document.parse`   the value of a text; an empty one is nothing.
-/

namespace Organism.Document

/-! ## lines -/

/-- where a line stands at one of its characters -/
inductive Place where
  | fresh
  /-- inside a scalar without quotes, or after one -/
  | plain
  | single
  | double
  | escape
deriving DecidableEq

/-- the state of the reader of lines: its place, and how many brackets are open -/
structure Scan where
  place : Place := .fresh
  depth : Nat := 0

def Scan.isOpen (s : Scan) : Bool :=
  s.depth != 0 || s.place == .single || s.place == .double || s.place == .escape

def Scan.next (s : Scan) (c : Char) (rest : List Char) : Scan :=
  match s.place with
  | .single => if c == '\x27' then { s with place := .plain } else s
  | .double =>
    if c == '\x22' then { s with place := .plain }
    else if c == '\\' then { s with place := .escape }
    else s
  | .escape => { s with place := .double }
  | _ =>
    let isFresh := s.place == .fresh
    if isSpace c then s
    else if isFresh && c == '\x27' then { s with place := .single }
    else if isFresh && c == '\x22' then { s with place := .double }
    else if (isFresh || s.depth != 0) && (c == '[' || c == '\x7b') then ⟨.fresh, s.depth + 1⟩
    else if s.depth != 0 && (c == ']' || c == '\x7d') then ⟨.plain, s.depth - 1⟩
    else if s.depth != 0 && c == ',' then { s with place := .fresh }
    else if c == ':' && endsMark (s.depth != 0) rest then { s with place := .fresh }
    else if isFresh && c == '-' && endsMark false rest then s
    else { s with place := .plain }

/-- the line without its comment; `afterSpace` holds at its start and after a space -/
def scanLine (s : Scan) (afterSpace : Bool) : List Char → List Char × Scan
  | [] => ([], s)
  | c :: cs =>
    let inQuotes := s.place == .single || s.place == .double || s.place == .escape
    if c == '#' && afterSpace && !inQuotes then ([], s)
    else
      let (text, s) := scanLine (s.next c cs) (isSpace c) cs
      (c :: text, s)

/-- a line that says something -/
structure Line where
  indent : Nat
  text : List Char

def trimEnd (cs : List Char) : List Char := (cs.reverse.dropWhile isSpace).reverse

def Line.ofChars (cs : List Char) : Line :=
  let text := cs.dropWhile (· == ' ')
  ⟨cs.length - text.length, trimEnd text⟩

/-- the lines that say something; one that is left open goes on in the next -/
def joinLines (held : Option (List Char × Scan)) : List (List Char) → List Line
  | [] => (held.map fun (text, _) => Line.ofChars text).toList
  | cs :: rest =>
    let (text, s) :=
      match held with
      | none => scanLine {} true cs
      | some (before, s) =>
        let (text, s) := scanLine s true (skipSpaces cs)
        (trimEnd before ++ ' ' :: text, s)
    if s.isOpen then joinLines (some (text, s)) rest
    else
      let line := Line.ofChars text
      if line.text.isEmpty then joinLines none rest else line :: joinLines none rest

def cut : List Char → List (List Char)
  | [] => [[]]
  | '\r' :: '\n' :: cs => [] :: cut cs
  | c :: cs =>
    if c == '\n' || c == '\r' || c == '\u0085' || c == '\u2028' || c == '\u2029' then [] :: cut cs
    else
      match cut cs with
      | [] => [[c]]
      | l :: ls => (c :: l) :: ls

/-- a mark at the start of a line: three dashes or three points -/
def isMark (mark : Char) (cs : List Char) : Bool :=
  match cs with
  | a :: b :: c :: rest => a == mark && b == mark && c == mark && endsMark false rest
  | _ => false

def upToEnd (ls : List (List Char)) : List (List Char) := ls.takeWhile fun l => !isMark '.' l

def body (ls : List (List Char)) : List (List Char) :=
  match ls with
  | [] => []
  | l :: rest =>
    if isMark '-' l then (l.drop 3) :: rest
    else if (joinLines none [l]).isEmpty then body rest
    else l :: rest

def lines (cs : List Char) : List Line := joinLines none (body (upToEnd (cut cs)))

/-! ## blocks -/

def item? (l : Line) : Option Line :=
  match l.text with
  | '-' :: rest =>
    if endsMark false rest then
      let text := skipSpaces rest
      some ⟨l.indent + (l.text.length - text.length), text⟩
    else none
  | _ => none

section
variable [Rounding]

/-- the key at the front of a line, and the value after its colon -/
def key? (l : Line) : Option (Value × List Char) :=
  match inlineValue l.text with
  | .error _ => none
  | .ok (k, rest) =>
    match skipSpaces rest with
    | ':' :: more => if endsMark false more then some (k, skipSpaces more) else none
    | _ => none

/-- a value with all that is left of its line and of the lines that go on with it -/
def lineValue (text : List Char) (more : List Line) : Except DocumentError Value := do
  let isPlain := (quoted? text).isNone && !(text.head?.any isFlowMark)
  let whole := if isPlain then more.foldl (fun t l => t ++ ' ' :: l.text) text else text
  let (v, rest) ← inlineValue whole
  let rest := skipSpaces rest
  if !rest.isEmpty then throw (notAtEnd rest)
  if !isPlain && !more.isEmpty then throw .misplaced
  return v

def notEntry (l : Line) : DocumentError :=
  if (item? l).isSome then .misplaced
  else
    match inlineValue l.text with
    | .error e => e
    | .ok _ => .illFormed

def notItem (l : Line) : DocumentError := if (key? l).isSome then .misplaced else notEntry l

/-- what is read next -/
inductive BlockState where
  | value
  | items (done : List Value)
  | entries (done : List (Value × Value))

def deeper (indent : Nat) (ls : List Line) : List Line := ls.takeWhile fun l => indent < l.indent

/-- the lines that belong to a key without a value in its line; items of a list may stand right
below it -/
def belowKey (indent : Nat) (ls : List Line) : List Line :=
  match ls with
  | [] => []
  | l :: _ =>
    if l.indent = indent && (item? l).isSome then
      ls.takeWhile fun l => indent < l.indent || (l.indent = indent && (item? l).isSome)
    else deeper indent ls

/-- the value of lines that belong together, at most `fuel` steps deep -/
def block : (fuel : Nat) → BlockState → List Line → Except DocumentError Value
  | 0, _, _ => .error .misplaced
  | _ + 1, .value, [] => .ok .none
  | fuel + 1, .value, l :: ls =>
    if (item? l).isSome then block fuel (.items []) (l :: ls)
    else if (key? l).isSome then block fuel (.entries []) (l :: ls)
    else lineValue l.text ls
  | _ + 1, .items done, [] => .ok (.list done.reverse)
  | fuel + 1, .items done, l :: ls =>
    match item? l with
    | none => .error (notItem l)
    | some first => do
      let own := deeper l.indent ls
      let rest := ls.drop own.length
      let v ← block fuel .value (if first.text.isEmpty then own else first :: own)
      if rest.head?.any fun r => r.indent ≠ l.indent then throw .misplaced
      block fuel (.items (v :: done)) rest
  | _ + 1, .entries done, [] => .ok (.map done)
  | fuel + 1, .entries done, l :: ls =>
    match key? l with
    | none => .error (notEntry l)
    | some (k, text) => do
      checkKey k
      let own := if text.isEmpty then belowKey l.indent ls else deeper l.indent ls
      let rest := ls.drop own.length
      let v ← if text.isEmpty then block fuel .value own else lineValue text own
      if rest.head?.any fun r => r.indent ≠ l.indent then throw .misplaced
      block fuel (.entries (Value.overwrite done k v)) rest

def isForbidden (c : Char) : Bool :=
  let n := c.toNat
  (n < 0x20 && n != 0x09 && n != 0x0A && n != 0x0D) || (0x7F ≤ n && n < 0xA0 && n != 0x85) ||
    n == 0xFFFE || n == 0xFFFF

def parse (text : String) : Except Fault Value :=
  let cs := text.toList
  let cs := if cs.head? == some '\ufeff' then cs.drop 1 else cs
  if cs.any isForbidden then .error (.document .forbidden)
  else
    let ls := lines cs
    if ls.any fun l => l.indent = 0 && isMark '-' l.text then
      .error (.document .secondDocument)
    else (block (2 * cs.length + 2) .value ls).mapError .document

end
end Organism.Document
