/-!
# UTF-8

* `encode`        the bytes of a text;
* `decode`        the text of the bytes, or the first place that no text has: which byte began the
                  character, which bytes were read of it, and what was wrong.

`decode` reads one byte at a time.  Between characters its state is `none`; inside one it remembers
the bytes owed, the range that the next byte must lie in, and the bits read so far.
-/

namespace Organism.Utf8

/-- what is wrong at a place that is not UTF-8 -/
inductive Reason where
  | start
  | continuation
  | truncated
deriving DecidableEq

def Reason.text : Reason → String
  | .start => "invalid start byte"
  | .continuation => "invalid continuation byte"
  | .truncated => "unexpected end of data"

/-- the bytes `first ≤ i < stop` begin with `lead` and are no character -/
structure DecodeError where
  lead : UInt8
  first : Nat
  stop : Nat
  reason : Reason
deriving DecidableEq

def hexByte (b : UInt8) : String :=
  .ofList [Nat.digitChar (b.toNat / 16), Nat.digitChar (b.toNat % 16)]

def DecodeError.message (e : DecodeError) : String :=
  let place :=
    if e.stop ≤ e.first + 1 then s!"byte 0x{hexByte e.lead} in position {e.first}"
    else s!"bytes in position {e.first}-{e.stop - 1}"
  s!"'utf-8' codec can't decode {place}: {e.reason.text}"

/-- the same error, counted from the first byte of the character if the text breaks off in it -/
def DecodeError.ofPieces (e : DecodeError) : DecodeError :=
  match e.reason with
  | .truncated => { e with first := 0, stop := e.stop - e.first }
  | _ => e

/-! ## writing -/

def encodeChar (c : Char) : List UInt8 :=
  let n := c.toNat
  if n < 0x80 then [n.toUInt8]
  else if n < 0x800 then [(0xC0 + n / 64).toUInt8, (0x80 + n % 64).toUInt8]
  else if n < 0x10000 then
    [(0xE0 + n / 4096).toUInt8, (0x80 + n / 64 % 64).toUInt8, (0x80 + n % 64).toUInt8]
  else
    [(0xF0 + n / 262144).toUInt8, (0x80 + n / 4096 % 64).toUInt8, (0x80 + n / 64 % 64).toUInt8,
      (0x80 + n % 64).toUInt8]

def encode (cs : List Char) : List UInt8 := cs.flatMap encodeChar

@[simp] theorem encode_cons (c : Char) (cs : List Char) :
    encode (c :: cs) = encodeChar c ++ encode cs := List.flatMap_cons

/-! ## reading -/

/-- a character whose bytes are being read -/
structure Partial where
  lead : UInt8
  first : Nat
  owed : Nat
  low : UInt8
  high : UInt8
  code : Nat

/-- the state after the first byte of a character of several bytes -/
def Partial.open? (b : UInt8) (first : Nat) : Option Partial :=
  if 0xC2 ≤ b && b ≤ 0xDF then some ⟨b, first, 1, 0x80, 0xBF, b.toNat - 0xC0⟩
  else if b == 0xE0 then some ⟨b, first, 2, 0xA0, 0xBF, 0⟩
  else if b == 0xED then some ⟨b, first, 2, 0x80, 0x9F, 0xD⟩
  else if 0xE1 ≤ b && b ≤ 0xEF then some ⟨b, first, 2, 0x80, 0xBF, b.toNat - 0xE0⟩
  else if b == 0xF0 then some ⟨b, first, 3, 0x90, 0xBF, 0⟩
  else if 0xF1 ≤ b && b ≤ 0xF3 then some ⟨b, first, 3, 0x80, 0xBF, b.toNat - 0xF0⟩
  else if b == 0xF4 then some ⟨b, first, 3, 0x80, 0x8F, 4⟩
  else none

/-- reads on from `position`, inside the character of the state if there is one -/
def decodeFrom (position : Nat) : Option Partial → List UInt8 → Except DecodeError (List Char)
  | none, [] => .ok []
  | some p, [] => .error ⟨p.lead, p.first, position, .truncated⟩
  | none, b :: bs =>
    if b < 0x80 then
      (decodeFrom (position + 1) none bs).map (Char.ofNat b.toNat :: ·)
    else
      match Partial.open? b position with
      | some p => decodeFrom (position + 1) (some p) bs
      | none => .error ⟨b, position, position + 1, .start⟩
  | some p, b :: bs =>
    if p.low ≤ b && b ≤ p.high then
      let code := p.code * 64 + (b.toNat - 0x80)
      if p.owed ≤ 1 then
        (decodeFrom (position + 1) none bs).map (Char.ofNat code :: ·)
      else
        decodeFrom (position + 1)
          (some { p with owed := p.owed - 1, low := 0x80, high := 0xBF, code }) bs
    else .error ⟨p.lead, p.first, position, .continuation⟩

def decode (bytes : List UInt8) : Except DecodeError (List Char) := decodeFrom 0 none bytes

end Organism.Utf8
