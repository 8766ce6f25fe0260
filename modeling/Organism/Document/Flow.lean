import Organism.Document.Scalar
import Organism.Error

/-!
# Values within a line

A value in a line is a scalar, with or without quotes, or a collection in brackets: `[a, b]` is a
list, `\x7ba: 1, b: 2\x7d` is a map.  The readers here take a value from the front of a text and
return the rest of it.
-/

namespace Organism

namespace Document

def isSpace (c : Char) : Bool := c == ' '

def skipSpaces (cs : List Char) : List Char := cs.dropWhile isSpace

def isFlowMark (c : Char) : Bool := [',', '[', ']', '\x7b', '\x7d'].contains c

/-! ## scalars in quotes -/

/-- the rest of a scalar in single quotes; two of them stand for one -/
def singleQuoted : List Char → Except DocumentError (List Char × List Char)
  | [] => .error .illFormed
  | '\x27' :: '\x27' :: cs => do
    let (text, rest) ← singleQuoted cs
    return ('\x27' :: text, rest)
  | '\x27' :: cs => .ok ([], cs)
  | c :: cs => do
    let (text, rest) ← singleQuoted cs
    return (c :: text, rest)

def escaped? (c : Char) : Option Char :=
  [('0', '\x00'), ('a', '\x07'), ('b', '\x08'), ('t', '\t'), ('\t', '\t'), ('n', '\n'),
    ('v', '\x0b'), ('f', '\x0c'), ('r', '\r'), ('e', '\x1b'), (' ', ' '), ('\x22', '\x22'),
    ('\\', '\\'), ('/', '/'), ('N', '\u0085'), ('_', '\u00a0'), ('L', '\u2028'),
    ('P', '\u2029')].lookup c

def escapeWidth? (c : Char) : Option Nat := [('x', 2), ('u', 4), ('U', 8)].lookup c

/-- the rest of a scalar in double quotes; `skipped` characters belong to an escape already read -/
def doubleQuoted : (skipped : Nat) → List Char → Except DocumentError (List Char × List Char)
  | _, [] => .error .illFormed
  | n + 1, _ :: cs => doubleQuoted n cs
  | 0, '\x22' :: cs => .ok ([], cs)
  | 0, '\\' :: c :: cs =>
    match escaped? c, escapeWidth? c with
    | some e, _ => do
      let (text, rest) ← doubleQuoted 0 cs
      return (e :: text, rest)
    | none, some width =>
      let ds := cs.take width
      if ds.length = width && ds.all isHex then do
        let (text, rest) ← doubleQuoted width cs
        return (Char.ofNat (digitsIn 16 ds) :: text, rest)
      else .error .illFormed
    | none, none => .error .illFormed
  | 0, c :: cs => do
    let (text, rest) ← doubleQuoted 0 cs
    return (c :: text, rest)

def quoted? (cs : List Char) : Option (Except DocumentError (List Char × List Char)) :=
  match cs with
  | '\x27' :: rest => some (singleQuoted rest)
  | '\x22' :: rest => some (doubleQuoted 0 rest)
  | _ => none

/-! ## scalars without quotes -/

/-- what follows a dash or colon that is a mark -/
def endsMark (inFlow : Bool) : List Char → Bool
  | [] => true
  | c :: _ => isSpace c || c == '\t' || (inFlow && isFlowMark c)

/-- why no scalar without quotes begins here, if none does -/
def notPlain? (inFlow : Bool) (cs : List Char) : Option DocumentError :=
  match cs with
  | [] => none
  | c :: rest =>
    if isFlowMark c then if inFlow then none else some .misplaced
    else if c == '*' then some .unknownName
    else if c == '!' then some .unknownSort
    else if ['#', '&', '|', '>', '%', '@', '\x60', '\t'].contains c then some .illFormed
    else if (c == '-' || c == '?') && endsMark false rest then
      some (if inFlow then .misplaced else .illFormed)
    else none

/-- a scalar without quotes: it ends at a tab, at a colon that ends a key and, in brackets, at their
marks -/
def plainChars (inFlow : Bool) : List Char → List Char × List Char
  | [] => ([], [])
  | c :: cs =>
    if c == '\t' || (c == ':' && endsMark inFlow cs) || (inFlow && (isFlowMark c || c == '?')) then
      ([], c :: cs)
    else
      let (text, rest) := plainChars inFlow cs
      (c :: text, rest)

def notAtEnd (cs : List Char) : DocumentError :=
  match cs with
  | '\t' :: _ | ':' :: _ => .illFormed
  | _ => .misplaced

section
variable [Rounding]

def scalar (inFlow : Bool) (cs : List Char) : Except DocumentError (Value × List Char) :=
  match quoted? cs with
  | some (.ok (text, rest)) => .ok (.text (.ofList text), rest)
  | some (.error e) => .error e
  | none =>
    match notPlain? inFlow cs with
    | some e => .error e
    | none =>
      let (text, rest) := plainChars inFlow cs
      .ok (plain (Text.strip isSpace text), rest)

/-! ## collections -/

def checkKey (k : Value) : Except DocumentError Unit :=
  if k.isKey then .ok () else .error .collectionKey

/-- what is read next inside brackets -/
inductive FlowState where
  | value
  /-- an item or the end, and after an item a comma or the end -/
  | items (done : List Value)
  | afterItem (done : List Value)
  | entries (done : List (Value × Value))
  | afterEntry (done : List (Value × Value))

/-- a key may be followed by its value -/
def afterColon? (cs : List Char) : Option (List Char) :=
  match skipSpaces cs with
  | ':' :: rest => some (skipSpaces rest)
  | _ => none

/-- no item begins with a comma, and none without an end -/
def checkItem (cs : List Char) : Except DocumentError Unit :=
  match cs with
  | [] | ',' :: _ | ']' :: _ | '\x7d' :: _ => .error .misplaced
  | _ => .ok ()

/-- reads on inside brackets, at most `fuel` steps deep -/
def flow : (fuel : Nat) → FlowState → List Char → Except DocumentError (Value × List Char)
  | 0, _, _ => .error .misplaced
  | fuel + 1, .value, cs =>
    match skipSpaces cs with
    | '[' :: rest => flow fuel (.items []) rest
    | '\x7b' :: rest => flow fuel (.entries []) rest
    | cs => scalar true cs
  | fuel + 1, .items done, cs =>
    match skipSpaces cs with
    | ']' :: rest => .ok (.list done.reverse, rest)
    | cs => do
      checkItem cs
      let (v, rest) ← flow fuel .value cs
      match afterColon? rest with
      | none => flow fuel (.afterItem (v :: done)) rest
      | some rest => do
        checkKey v
        let (w, rest) ← flow fuel .value rest
        flow fuel (.afterItem (.map [(v, w)] :: done)) rest
  | fuel + 1, .afterItem done, cs =>
    match skipSpaces cs with
    | ']' :: rest => .ok (.list done.reverse, rest)
    | ',' :: rest => flow fuel (.items done) rest
    | cs => .error (if cs.head? == some '\t' then .illFormed else .misplaced)
  | fuel + 1, .entries done, cs =>
    match skipSpaces cs with
    | '\x7d' :: rest => .ok (.map done, rest)
    | cs => do
      checkItem cs
      let (k, rest) ← flow fuel .value cs
      checkKey k
      match afterColon? rest with
      | none => flow fuel (.afterEntry (Value.overwrite done k .none)) rest
      | some rest => do
        let (v, rest) ← flow fuel .value rest
        flow fuel (.afterEntry (Value.overwrite done k v)) rest
  | fuel + 1, .afterEntry done, cs =>
    match skipSpaces cs with
    | '\x7d' :: rest => .ok (.map done, rest)
    | ',' :: rest => flow fuel (.entries done) rest
    | cs => .error (if cs.head? == some '\t' then .illFormed else .misplaced)

def inlineValue (cs : List Char) : Except DocumentError (Value × List Char) :=
  match skipSpaces cs with
  | '[' :: _ | '\x7b' :: _ => flow (4 * cs.length + 4) .value cs
  | cs => scalar false cs

end
end Document
end Organism
