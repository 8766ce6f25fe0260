import Organism.Text.Printable

/-!
# Texts

A text is cut into lines at every character that Unicode lets end a line; a carriage return with a
line feed after it ends one line, and the end of the text ends a line only if that line holds
something.  The quotes of a text are single unless it holds a single quote and no double one.

* `isSpace`, `isBlank`   the characters that separate words: the property `White_Space` of Unicode,
                         and with it the four information separators `U+001C` to `U+001F`; lines,
                         names and words are trimmed of blanks, numerals of spaces only;
* `strip p`              a text without the characters of `p` at its two ends;
* `words`, `lines`       the pieces of a text;
* `digitValue?`          the value of a decimal digit of any script;
* `quoted`, `quotedBytes`   a text or bytes in quotes, as they are shown in messages and listings.
-/

namespace Organism.Text

/-! ## blanks -/

def isSpace (c : Char) : Bool :=
  let n := c.toNat
  (0x09 ≤ n && n ≤ 0x0D) || n == 0x20 || n == 0x85 || n == 0xA0 || n == 0x1680 ||
    (0x2000 ≤ n && n ≤ 0x200A) || n == 0x2028 || n == 0x2029 || n == 0x202F || n == 0x205F ||
    n == 0x3000

def isBlank (c : Char) : Bool :=
  isSpace c || (0x1C ≤ c.toNat && c.toNat ≤ 0x1F)

/-! ## ends -/

def strip (p : Char → Bool) (cs : List Char) : List Char :=
  ((cs.dropWhile p).reverse.dropWhile p).reverse

def trim (s : String) : String := .ofList (strip isBlank s.toList)

/-! ## pieces -/

/-- the pieces between the characters of `p` -/
def splitWith (p : Char → Bool) : List Char → List (List Char)
  | [] => [[]]
  | c :: cs =>
    if p c then [] :: splitWith p cs
    else
      match splitWith p cs with
      | [] => [[c]]
      | w :: ws => (c :: w) :: ws

@[simp] theorem splitWith_nil (p : Char → Bool) : splitWith p [] = [[]] := rfl

theorem splitWith_ne_nil (p : Char → Bool) (cs : List Char) : splitWith p cs ≠ [] := by
  cases cs with
  | nil => simp
  | cons c cs =>
    rw [splitWith]
    split
    · simp
    · split <;> simp

/-- the words of a text: maximal runs without a blank -/
def words (cs : List Char) : List (List Char) :=
  (splitWith isBlank cs).filter fun w => !w.isEmpty

/-! ## lines -/

def isLineBreak (c : Char) : Bool :=
  let n := c.toNat
  (0x0A ≤ n && n ≤ 0x0D) || (0x1C ≤ n && n ≤ 0x1E) || n == 0x85 || n == 0x2028 || n == 0x2029

/-- the lines of a text, without their ends -/
def lines : List Char → List (List Char)
  | [] => []
  | '\r' :: '\n' :: cs => [] :: lines cs
  | c :: cs =>
    if isLineBreak c then [] :: lines cs
    else
      match lines cs with
      | [] => [[c]]
      | l :: ls => (c :: l) :: ls

@[simp] theorem lines_nil : lines [] = [] := by simp [lines]

theorem lines_break {c : Char} {cs : List Char} (h : isLineBreak c = true)
    (hcr : ∀ t, c = '\r' → cs ≠ '\n' :: t) : lines (c :: cs) = [] :: lines cs := by
  rw [lines]
  · simp [h]
  · intro t hc ht
    exact hcr t hc ht

/-! ## digits -/

/-- the zero of every run of decimal digits above ASCII -/
def zeros : List Nat :=
  [0x660, 0x6F0, 0x7C0, 0x966, 0x9E6, 0xA66, 0xAE6, 0xB66, 0xBE6, 0xC66, 0xCE6,
   0xD66, 0xDE6, 0xE50, 0xED0, 0xF20, 0x1040, 0x1090, 0x17E0, 0x1810, 0x1946, 0x19D0,
   0x1A80, 0x1A90, 0x1B50, 0x1BB0, 0x1C40, 0x1C50, 0xA620, 0xA8D0, 0xA900, 0xA9D0, 0xA9F0,
   0xAA50, 0xABF0, 0xFF10, 0x104A0, 0x10D30, 0x11066, 0x110F0, 0x11136, 0x111D0, 0x112F0, 0x11450,
   0x114D0, 0x11650, 0x116C0, 0x11730, 0x118E0, 0x11950, 0x11C50, 0x11D50, 0x11DA0, 0x16A60, 0x16AC0,
   0x16B50, 0x1D7CE, 0x1D7D8, 0x1D7E2, 0x1D7EC, 0x1D7F6, 0x1E140, 0x1E2F0, 0x1E950, 0x1FBF0]

def digitValue? (c : Char) : Option Nat :=
  let n := c.toNat
  if 0x30 ≤ n && n ≤ 0x39 then some (n - 0x30)
  else if n < 0x80 then none
  else (zeros.find? fun z => z ≤ n && n ≤ z + 9).map (n - ·)

def isDigit (c : Char) : Bool := (digitValue? c).isSome

def digitChar (n : Nat) : Char := Char.ofNat (0x30 + n)

/-- the number that a run of digits spells -/
def digitsValue (cs : List Char) : Nat :=
  cs.foldl (fun n c => 10 * n + (digitValue? c).getD 0) 0

/-! ## quotes -/

def hexDigits : (width : Nat) → Nat → List Char
  | 0, _ => []
  | w + 1, n => hexDigits w (n / 16) ++ [Nat.digitChar (n % 16)]

def escapeChar (quote c : Char) : List Char :=
  let n := c.toNat
  if c == quote || c == '\\' then ['\\', c]
  else if c == '\n' then ['\\', 'n']
  else if c == '\r' then ['\\', 'r']
  else if c == '\t' then ['\\', 't']
  else if isPrintable c then [c]
  else if n < 0x100 then '\\' :: 'x' :: hexDigits 2 n
  else if n < 0x10000 then '\\' :: 'u' :: hexDigits 4 n
  else '\\' :: 'U' :: hexDigits 8 n

def quoteOf (cs : List Char) : Char :=
  if cs.contains '\x27' && !cs.contains '\x22' then '\x22' else '\x27'

def quoteList (cs : List Char) : List Char :=
  let quote := quoteOf cs
  quote :: (cs.flatMap (escapeChar quote) ++ [quote])

def quoted (s : String) : String := .ofList (quoteList s.toList)

def ofByte (b : UInt8) : Char := Char.ofNat b.toNat

/-- a byte inside quotes; none from 0x80 on is printed as a character -/
def escapeByte (quote : Char) (b : UInt8) : List Char :=
  if b < 0x80 then escapeChar quote (ofByte b) else '\\' :: 'x' :: hexDigits 2 b.toNat

def quotedBytes (bs : List UInt8) : String :=
  let quote := quoteOf (bs.map ofByte)
  .ofList ('b' :: quote :: (bs.flatMap (escapeByte quote) ++ [quote]))

end Organism.Text
