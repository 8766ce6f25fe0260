import Organism.Value.Quantity

/-!
# Dice

What decides the synthetic events: a seeded generator, or a script of draws that comes to an end.

A seed is a sequence of 32-bit words, and any whole number that is not negative spells one.  A pool
of four words is stirred with it; from the pool comes as much state as a generator needs.

The generator is linear congruential with 128 bits of state; its output is the exclusive or of the
two halves of the state, rotated by the highest bits.  Numbers of 32 bits use one half of an output
and keep the other for the next time.

* `Seed.ofValue`   the words of a seed;
* `Seed.pool`      the pool after stirring;
* `Seed.state`     eight words from the pool;
* `Dice.unit`      a number from 0 to below 1;
* `Dice.below`     a whole number below a bound;
* `Dice.between`   a number between two bounds.
-/

namespace Organism

/-! ## seeds -/

namespace Seed

/-- the words of a number, the least significant first; zero has one word -/
def wordsOfNat (n : Nat) : List UInt32 :=
  if n < 4294967296 then [n.toUInt32] else n.toUInt32 :: wordsOfNat (n / 4294967296)
termination_by n
decreasing_by omega

def ofInt (n : Int) : Except Fault (List UInt32) :=
  if n < 0 then .error .negativeSeed else .ok (wordsOfNat n.toNat)

mutual
/-- the words of a part of a seed: a whole number, or a list of parts -/
def ofPart : Value → Except Fault (List UInt32)
  | .flag b => .ok [if b then 1 else 0]
  | .whole n => ofInt n
  | .list vs => ofParts vs
  | v => .error (.wrongType "a seed" v.kind)

def ofParts : List Value → Except Fault (List UInt32)
  | [] => .ok []
  | v :: vs => do
    let ws ← ofPart v
    let rest ← ofParts vs
    return ws ++ rest
end

/-- the words of a seed; where none is given, the seed is 0 -/
def ofValue : Value → Except Fault (List UInt32)
  | .none => .ok [0]
  | v => ofPart v

/-! ## stirring -/

abbrev Pool := Vector UInt32 4

/-- a word scattered; the multiplier changes with every use -/
structure Scatter where
  multiplier : UInt32
  factor : UInt32

namespace Scatter

def stirring : Scatter := ⟨0x43b0d7e5, 0x931e8875⟩

def drawing : Scatter := ⟨0x8b51f9dd, 0x58f38ded⟩

def apply (s : Scatter) (w : UInt32) : UInt32 × Scatter :=
  let next := s.multiplier * s.factor
  let v := (w ^^^ s.multiplier) * next
  (v ^^^ (v >>> 16), { s with multiplier := next })

end Scatter

def blend (x y : UInt32) : UInt32 :=
  let r := 0xca01f9dd * x - 0x4973f715 * y
  r ^^^ (r >>> 16)

def stir (word : Pool → UInt32) (state : Pool × Scatter) (place : Fin 4) : Pool × Scatter :=
  let (pool, scatter) := state
  let (v, scatter) := scatter.apply (word pool)
  (pool.set place (blend pool[place] v), scatter)

def places : List (Fin 4) := [0, 1, 2, 3]

def place (words : List UInt32) (state : Pool × Scatter) (i : Fin 4) : Pool × Scatter :=
  let (v, scatter) := state.2.apply (words[i.val]?.getD 0)
  (state.1.set i v, scatter)

def fill (words : List UInt32) : Pool × Scatter :=
  places.foldl (place words) (.replicate 4 0, .stirring)

/-- every place of the pool blended into every other, then the words that are left into all -/
def pool (words : List UInt32) : Pool :=
  let crossed := places.foldl (fun state source =>
    (places.filter (· ≠ source)).foldl (stir fun pool => pool[source]) state) (fill words)
  ((words.drop 4).foldl (fun state w => places.foldl (stir fun _ => w) state) crossed).1

def draw (pool : Pool) : Nat → Scatter → Nat → List UInt32
  | 0, _, _ => []
  | n + 1, scatter, i =>
    let (v, scatter) := scatter.apply (pool.toList[i % 4]?.getD 0)
    v :: draw pool n scatter (i + 1)

def state (words : List UInt32) : List UInt32 := draw (pool words) 8 .drawing 0

end Seed

/-! ## the generator -/

structure Generator where
  state : BitVec 128
  increment : BitVec 128
  /-- the unused half of an output -/
  half : Option UInt32 := none

namespace Generator

def multiplier : BitVec 128 := 0x2360ed051fc65da44385df649fccf645#128

def step (g : Generator) : Generator := { g with state := g.state * multiplier + g.increment }

def join (low a b high : UInt32) : BitVec 128 :=
  high.toBitVec ++ b.toBitVec ++ a.toBitVec ++ low.toBitVec

def ofSeed (words : List UInt32) : Generator :=
  match Seed.state words with
  | [a, b, c, d, e, f, g, h] =>
    let start := join c d a b
    let increment := (join g h e f) <<< 1 ||| 1
    let fresh : Generator := { state := 0, increment }
    let stepped := fresh.step
    Generator.step { stepped with state := stepped.state + start }
  | _ => { state := 0, increment := 1 }

def next64 (g : Generator) : UInt64 × Generator :=
  let g := g.step
  let folded := (g.state >>> 64 ^^^ g.state).setWidth 64
  (⟨folded.rotateRight (g.state >>> 122).toNat⟩, g)

def next32 (g : Generator) : UInt32 × Generator :=
  match g.half with
  | some h => (h, { g with half := none })
  | none =>
    let (x, g) := g.next64
    (x.toUInt32, { g with half := some (x >>> 32).toUInt32 })

/-- a number from 0 to below 1, a multiple of `2 ^ -53` -/
def unit (g : Generator) : Number × Generator :=
  let (x, g) := g.next64
  (.finite ((x >>> 11).toNat / 9007199254740992), g)

/-- draws until the low half of the product is not below the threshold, at most `fuel` times more -/
def product (n threshold : Nat) : Nat → Nat → Generator → Nat × Generator
  | 0, m, g => (m, g)
  | fuel + 1, m, g =>
    if m % 4294967296 < threshold then
      let (x, g) := g.next32
      product n threshold fuel (x.toNat * n) g
    else (m, g)

/-- how often a draw is repeated at most; each repetition is needed once in `2 ^ 32 / n` times -/
def patience : Nat := 64

/-- a whole number below `n`, every one equally likely -/
def below (g : Generator) (n : Nat) : Nat × Generator :=
  if n ≤ 1 then (0, g)
  else
    let (x, g) := g.next32
    let m := x.toNat * n
    if m % 4294967296 < n then
      let (m, g) := product n ((4294967296 - n) % n) patience m g
      (m / 4294967296, g)
    else (m / 4294967296, g)

end Generator

/-! ## dice -/

inductive Dice where
  | seeded (g : Generator)
  | scripted (draws : List Number)

/-- a draw as a whole number below `n`, by its remainder -/
def Number.remainder (x : Number) (n : Nat) : Nat :=
  (x.value - n * (x.value / n).floor).floor.toNat

namespace Dice

def pull (draws : List Number) : Except Fault Number × Dice :=
  match draws with
  | [] => (.error .noDraws, scripted [])
  | x :: rest => (.ok x, scripted rest)

def unit : Dice → Except Fault Number × Dice
  | seeded g => (.ok g.unit.1, seeded g.unit.2)
  | scripted draws => pull draws

def below (n : Nat) : Dice → Except Fault Nat × Dice
  | seeded g => (.ok (g.below n).1, seeded (g.below n).2)
  | scripted draws => ((pull draws).1.map (·.remainder n), (pull draws).2)

def between [Rounding] (low high : Number) (d : Dice) : Except Fault Number × Dice :=
  (d.unit.1.map fun x => low + (high - low) * x, d.unit.2)

end Dice

/-- standard deviates of a seed: the `n`-th is the sum of twelve draws of a generator of its own,
less their mean -/
def deviate [Rounding] (seed : List UInt32) (n : Nat) : Number :=
  let g := Generator.ofSeed (seed ++ Seed.wordsOfNat n)
  let (sum, _) := (List.range 12).foldl (fun (sum, g) _ =>
    let (x, g) := Generator.unit g
    (sum + x, g)) ((0 : Number), g)
  sum - 6

end Organism
