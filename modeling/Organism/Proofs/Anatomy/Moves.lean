import Organism.Proofs.Health.Awareness
import Organism.Proofs.Number.Sum
import Organism.Proofs.State.RoundTrip
import Mathlib.Logic.Relation

/-!
# Healths that are calculated and loaded

The organism changes its healths by sums, and takes them from files.  Both give numbers of 64 bits,
so that what is saved at any time is a number that can be read back.

* `Topology.Each`                        a property of all healths, with one lemma for every change;
* `Number.is64_add`, `isHealth_toUnit`   sums are numbers of 64 bits, and stay so in the interval;
* `Topology.Moved`                       one health changed to a number of 64 bits;
* `damage_moved`, `feel_moved`, …        **every calculated change is such a move**;
* `recover_moves`                        a recovery is a sequence of them, also when it breaks off.
-/

namespace Organism

/-! ## all healths -/

namespace Topology

variable {t t' : Topology} {P : Number → Prop}

def Each (P : Number → Prop) (t : Topology) : Prop := ∀ k o, t.organ? k = some o → P o.health

theorem Each.replace (h : t.Each P) {o : Organ} {x : Number} (hx : P x) :
    (t.replace { o with health := x }).Each P := by
  intro k p hp
  rw [organ?_replace] at hp
  split at hp
  · obtain ⟨-, -, rfl⟩ := Option.map_eq_some_iff.mp hp
    exact hx
  · exact h k p hp

theorem Each.written (hP : ∀ x : Number, P x.toUnit) (hw : t.Written t') (h : t.Each P) :
    t'.Each P := by
  obtain ⟨k, o, x, -, rfl⟩ := hw
  exact h.replace (hP x)

theorem Each.evaluate [Rounding] (h : t.Each P) : t.evaluate.1.Each P := by
  intro k o ho
  rw [organ?_evaluate] at ho
  obtain ⟨p, hp, rfl⟩ := Option.map_eq_some_iff.mp ho
  exact h k p hp

end Topology

/-! ## numbers of 64 bits -/

attribute [local instance] Rounding.binary64

namespace Number

theorem is64_nan : Is64 nan := by
  intro q h
  cases h

theorem is64_infinite (s : Bool) : Is64 (infinite s) := by
  intro q h
  cases h

theorem is64_minusZero : Is64 minusZero := by
  intro q h
  cases h

theorem is64_zero : Is64 0 := by
  intro q h
  cases h
  exact Binary64.representable_zero

theorem is64_one : Is64 1 := by
  intro q h
  cases h
  exact Binary64.representable_one

theorem is64_add (x y : Number) : (x + y).Is64 := by
  cases x with
  | nan => exact is64_nan
  | infinite s =>
    cases y with
    | nan => exact is64_nan
    | infinite t =>
      show Is64 (if s = t then infinite s else nan)
      split
      · exact is64_infinite s
      · exact is64_nan
    | minusZero => exact is64_infinite s
    | finite q => exact is64_infinite s
  | minusZero =>
    cases y with
    | nan => exact is64_nan
    | infinite t => exact is64_infinite t
    | minusZero => exact is64_minusZero
    | finite q => exact is64_round (0 + q)
  | finite p =>
    cases y with
    | nan => exact is64_nan
    | infinite t => exact is64_infinite t
    | minusZero => exact is64_round (p + 0)
    | finite q => exact is64_round (p + q)

section
variable {x y : Number} (hx : x.Is64)
include hx

theorem Is64.lesser (hy : y.Is64) : (lesser x y).Is64 := by
  unfold Number.lesser
  split
  · exact hy
  · exact hx

theorem Is64.larger (hy : y.Is64) : (larger x y).Is64 := by
  unfold Number.larger
  split
  · exact hy
  · exact hx

theorem Is64.clipUnit : x.clipUnit.Is64 := (hx.larger is64_zero).lesser is64_one

/-- **What becomes of a number of 64 bits in the unit interval can be stored.** -/
theorem Is64.isHealth_toUnit : x.toUnit.IsHealth := by
  have h64 : x.toUnit.Is64 := is64_zero.larger (is64_one.lesser hx)
  obtain ⟨q, hq, h0, h1⟩ := inUnit_toUnit x
  exact ⟨q, hq, h0, h1, h64 q hq⟩

end

theorem is64_number (d : Decimal) : d.number.Is64 := by
  rw [Decimal.number_eq_round]
  exact is64_round d.value

theorem is64_of_readPlain? {cs : List Char} {x : Number} (h : readPlain? cs = some x) :
    x.Is64 := by
  unfold readPlain? at h
  dsimp only at h
  split at h
  · next n hn =>
    cases h
    unfold signed
    split
    · exact (is64_number _).neg
    · exact is64_number _
  · cases h

end Number

theorem State.exists_says {rs : List (OrganKind × List Char)} {es : List (OrganKind × Number)}
    (h : List.Forall₂ Says rs es) {e : OrganKind × Number} (he : e ∈ es) :
    ∃ record, Says record e := by
  induction h with
  | nil => cases he
  | cons hs _ ih =>
    rcases List.mem_cons.mp he with rfl | he
    · exact ⟨_, hs⟩
    · exact ih he

/-! ## healths that are loaded -/

namespace Topology

variable {t t' : Topology} {P : Number → Prop}

theorem Each.loaded (hP : ∀ x : Number, x.Is64 → P x.toUnit) {s : State.Source}
    {m : List (OrganKind × Number)} (hl : t.Loaded s t' m) (h : t.Each P) : t'.Each P := by
  have hm : ∀ e ∈ m, P e.2 := by
    obtain ⟨text, -, hsays⟩ := hl.records
    intro e he
    obtain ⟨record, -, x, hx, -, hex⟩ := State.exists_says hsays he
    rw [hex]
    exact hP x (Number.is64_of_readPlain? hx)
  intro k o ho
  by_cases hk : k ∈ m.map (·.1)
  · obtain ⟨e, he, rfl⟩ := List.mem_map.mp hk
    obtain ⟨p, -, hp⟩ := hl.written e he
    rw [hp] at ho
    cases ho
    exact hm e he
  · rw [hl.others k hk] at ho
    exact h k o ho

theorem loaded_of_loadBytes {bytes : List UInt8} {m : List (OrganKind × Number)}
    (h : t.loadBytes bytes = .ok (t', m)) : t.Loaded (.bytes bytes) t' m := by
  change t.loadSource (.bytes bytes) = _ at h
  rcases loadSource_cases t (.bytes bytes) with ⟨e, he⟩ | ⟨t1, m1, he, hl⟩
  · rw [he] at h
    cases h
  · rw [he] at h
    cases h
    exact hl

theorem storable_iff_each : State.Storable t ↔ t.Each Number.IsHealth := by
  constructor
  · intro h k o ho
    exact h o (mem_organs.mpr ⟨k, ho⟩)
  · intro h o ho
    obtain ⟨k, hk⟩ := mem_organs.mp ho
    exact h k o hk

/-! ## moves -/

/-- one health changed to a number of 64 bits -/
def Moved (t t' : Topology) : Prop :=
  ∃ k o, ∃ x : Number, t.organ? k = some o ∧ x.Is64 ∧ t' = t.replace { o with health := x.toUnit }

theorem Moved.written (h : t.Moved t') : t.Written t' := by
  obtain ⟨k, o, x, ho, -, ht⟩ := h
  exact ⟨k, o, x, ho, ht⟩

theorem Each.moved (hP : ∀ x : Number, x.Is64 → P x.toUnit) (hm : t.Moved t') (h : t.Each P) :
    t'.Each P := by
  obtain ⟨k, o, x, -, hx, rfl⟩ := hm
  exact h.replace (hP x hx)

section
variable {k : OrganKind} {c : HealthChange} {x : Number}

theorem addHealth_moved (h : t.addHealth k x = .ok (t', c)) : t.Moved t' := by
  obtain ⟨o, ho, h⟩ := ok_of_bind h
  obtain ⟨-, e⟩ := write_eq_ok h
  cases e
  exact ⟨k, o, _, organ?_of_organ ho, Number.is64_add _ _, rfl⟩

theorem damage_moved (h : t.damage k x = .ok (t', c)) : t.Moved t' := addHealth_moved h

theorem heal_moved (h : t.heal k x = .ok (t', c)) : t.Moved t' := addHealth_moved h

theorem feel_moved {l : Limits} {r : Reading} (h : t.feel l k r = .ok (t', c)) : t.Moved t' := by
  obtain ⟨o, ho, h⟩ := ok_of_bind h
  obtain ⟨x, hx, h⟩ := ok_of_bind h
  have hx64 : x.Is64 := by
    obtain ⟨penalties, -, hx⟩ := ok_of_bind hx
    obtain ⟨change, -, hx⟩ := ok_of_bind hx
    cases hx
    exact (Number.is64_add _ _).clipUnit
  obtain ⟨p, hp, h⟩ := ok_of_bind h
  obtain ⟨-, e⟩ := write_eq_ok h
  cases e
  exact ⟨k, p, x, organ?_of_organ hp, hx64, rfl⟩

/-- **A recovery is a sequence of moves, also when it breaks off.** -/
theorem recover_moves (t : Topology) (x : Number) (ks : List OrganKind) :
    Relation.ReflTransGen Moved t (t.recover x ks).1 := by
  induction ks generalizing t with
  | nil => exact .refl
  | cons k ks ih =>
    unfold recover
    cases hk : t.heal k x with
    | error e => exact .refl
    | ok r => exact .head (heal_moved (c := r.2) hk) (ih r.1)

theorem recoverBy_moves (t : Topology) (v : Value) (ks : List OrganKind) :
    Relation.ReflTransGen Moved t (t.recoverBy v ks).1 := by
  unfold recoverBy
  split
  · exact .refl
  · cases v.toNumber with
    | error e => exact .refl
    | ok x => exact recover_moves t x ks

end
end Topology
end Organism
