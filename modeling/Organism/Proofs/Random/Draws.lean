import Organism.Proofs.Number.Unit
import Organism.Dice
import Mathlib.Data.Rat.Floor

/-!
# Draws

A synthetic event takes one draw to find out whether it is a fault, and if it is, two more: for the
organ and for the damage.  Whatever a seed is, these draws are in their ranges.

* `Generator.inUnit_unit`, `Generator.below_lt`   the draws of a generator;
* `Number.remainder_lt`                           the draws of a script, as whole numbers;
* `Dice.Decides`                                  how dice decide an event, and the dice after that;
* `Dice.Fair`                                     dice with such draws, as are those of every seed;
* `Fair.decides`                                  **fair dice decide**.
-/

namespace Organism

/-! ## in range -/

namespace Generator

theorem inUnit_unit (g : Generator) : g.unit.1.InUnit := by
  have hlt : (g.next64.1 >>> 11).toNat < 9007199254740992 := by
    rw [UInt64.toNat_shiftRight]
    have h := g.next64.1.toNat_lt
    show _ >>> 11 < _
    omega
  refine ⟨_, rfl, by positivity, ?_⟩
  rw [div_le_one (by norm_num)]
  exact_mod_cast hlt.le

variable {n : Nat}

theorem toNat_mul_lt (h : 0 < n) (x : UInt32) : x.toNat * n < 4294967296 * n :=
  Nat.mul_lt_mul_of_pos_right x.toNat_lt h

theorem product_lt (hn : 0 < n) {threshold m : Nat} (h : m < 4294967296 * n) (fuel : Nat)
    (g : Generator) : (product n threshold fuel m g).1 < 4294967296 * n := by
  induction fuel generalizing m g with
  | zero => exact h
  | succ fuel ih =>
    unfold product
    split
    · exact ih (toNat_mul_lt hn _) _
    · exact h

theorem below_lt (h : 0 < n) (g : Generator) : (g.below n).1 < n := by
  unfold below
  split
  · exact h
  · dsimp only
    split
    · exact Nat.div_lt_of_lt_mul (product_lt h (toNat_mul_lt h _) patience _)
    · exact Nat.div_lt_of_lt_mul (toNat_mul_lt h _)

end Generator

theorem Number.remainder_lt {n : Nat} (h : 0 < n) (x : Number) : x.remainder n < n := by
  have hn : (0 : Rat) < n := by exact_mod_cast h
  have hlt : x.value - n * (⌊x.value / n⌋ : Rat) < n := by
    have hfloor := Int.lt_floor_add_one (x.value / n)
    rw [div_lt_iff₀ hn] at hfloor
    linarith
  have hq : ⌊x.value - n * (⌊x.value / n⌋ : Rat)⌋ < (n : Int) :=
    Int.floor_lt.mpr (by exact_mod_cast hlt)
  show ⌊x.value - n * (⌊x.value / n⌋ : Rat)⌋.toNat < n
  omega

/-! ## decisions -/

namespace Dice

inductive Decision where
  | recovery
  | fault (place : Nat) (share : Number)

/-- the dice decide an event among `n` organs, of which a fault has the given chance, and are left
as they are after the draws that this takes: one for a recovery, three for a fault -/
inductive Decides (n : Nat) (chance : Number) : Dice → Decision → Dice → Prop
  | recovery {d d₁ : Dice} {x : Number} (hx : d.unit = (.ok x, d₁)) (hc : ¬ x < chance) :
      Decides n chance d .recovery d₁
  | fault {d d₁ d₂ d₃ : Dice} {x y : Number} {place : Nat} (hx : d.unit = (.ok x, d₁))
      (hc : x < chance) (hp : d₁.below n = (.ok place, d₂)) (hn : place < n)
      (hy : d₂.unit = (.ok y, d₃)) (hu : y.InUnit) : Decides n chance d (.fault place y) d₃

/-- dice with the draws of an event: a seed, or a script of at least three draws of which the third
is one that can be drawn -/
def Fair : Dice → Prop
  | seeded _ => True
  | scripted (_ :: _ :: y :: _) => y.InUnit
  | scripted _ => False

/-- **Fair dice decide.** -/
theorem Fair.decides {d : Dice} (hd : d.Fair) {n : Nat} (h : 0 < n) (chance : Number) :
    ∃ w d', Decides n chance d w d' := by
  cases d with
  | seeded g =>
    by_cases hc : g.unit.1 < chance
    · exact ⟨_, _, .fault rfl hc rfl (Generator.below_lt h _) rfl (Generator.inUnit_unit _)⟩
    · exact ⟨_, _, .recovery rfl hc⟩
  | scripted draws =>
    match draws, hd with
    | x :: place :: y :: rest, hu =>
      by_cases hc : x < chance
      · exact ⟨_, _, .fault rfl hc rfl (Number.remainder_lt h place) rfl hu⟩
      · exact ⟨_, _, .recovery rfl hc⟩

end Dice
end Organism
