import Organism.Health.Change
import Organism.Proofs.Fallible
import Organism.Proofs.Number.Sum

/-!
# Penalties are never negative

A penalty is a positive severity times the greatest penalty of its signal, which counts as zero
where it is negative or no number at all.  So whatever the settings name as the greatest penalties,
the penalties of a reading are zero, positive or infinite, in every arithmetic that keeps signs.

* `pos_clipUnit`          a severity above zero is a positive value;
* `isNonneg_penalty`      one signal;
* `isNonneg_penalties`    **all signals of a reading**.
-/

namespace Organism

theorem Value.smaller_eq {a b : Value} {p q : Quantity} (ha : a.quantity? = some p)
    (hb : b.quantity? = some q) : a.smaller b = .ok (if q.exact < p.exact then b else a) := by
  unfold Value.smaller
  rw [hb, ha]

theorem Value.compared_ok {comparison : String} {other : Kind} {v : Value} {flipped : Bool}
    {x : Number} (h : v.compared comparison other flipped = .ok x) :
    ∃ q, v.quantity? = some q ∧ q.exact = x := by
  unfold Value.compared at h
  split at h
  · next q hq =>
    cases h
    exact ⟨q, hq, rfl⟩
  · cases h

theorem pos_clipUnit {x : Number} (h : 0 < x.clipUnit) :
    ∃ q : Rat, x.clipUnit = .finite q ∧ 0 < q := by
  cases x with
  | nan => exact absurd h (by decide)
  | infinite s =>
    cases s with
    | false => exact ⟨1, rfl, zero_lt_one⟩
    | true => exact absurd h (by decide)
  | minusZero => exact absurd h (by decide)
  | finite q =>
    rw [Number.clipUnit_finite] at h ⊢
    exact ⟨_, rfl, (Number.lt_finite 0 _).mp h⟩

section
variable [Rounding]

theorem Value.operand_eq {v : Value} {q : Quantity} (h : v.quantity? = some q) (op : String) :
    v.operand op = q.number := by
  unfold Value.operand
  rw [h]

variable [Rounding.KeepsSign]

theorem Quantity.isNonneg_number {q : Quantity} {x : Number} (h : Number.finite 0 < q.exact)
    (hx : q.number = .ok x) : x.IsNonneg := by
  cases q with
  | flag b =>
    cases hx
    cases b
    · exact .inr ⟨0, rfl, le_refl 0⟩
    · exact .inr ⟨1, rfl, zero_le_one⟩
  | whole n =>
    have hn : (0 : Rat) < n := (Number.lt_finite 0 n).mp h
    unfold Quantity.number at hx
    dsimp only at hx
    split at hx
    · cases hx
      exact Rounding.KeepsSign.round_nonneg hn.le
    · cases hx
  | real y =>
    cases hx
    cases x with
    | nan => cases h
    | infinite s =>
      cases s with
      | false => exact .inl rfl
      | true => cases h
    | minusZero => exact absurd h (by decide)
    | finite p => exact .inr ⟨p, rfl, ((Number.lt_finite 0 p).mp h).le⟩

theorem Rule.isNonneg_penalty {r : Rule} {l : Limits} {severity : Rat} (hs : 0 < severity)
    {x : Number} (h : r.penalty l (.finite severity) = .ok x) : x.IsNonneg := by
  obtain ⟨v, -, h⟩ := ok_of_bind h
  obtain ⟨y, hy, h⟩ := ok_of_bind h
  obtain ⟨most, hmost, h⟩ := ok_of_bind h
  cases h
  refine Number.isNonneg_mul hs ?_
  obtain ⟨q, hq, rfl⟩ := Value.compared_ok hy
  split at hmost
  · next hpos =>
    rw [Value.operand_eq hq] at hmost
    exact Quantity.isNonneg_number hpos hmost
  · cases hmost
    exact Number.isNonneg_zero

namespace Reading

theorem isNonneg_signalPenalty {l : Limits} {organ : OrganKind} {rule : Rule} {v : Value}
    {ps : List (String × Number)} (h : signalPenalty l organ rule v = .ok ps) :
    ∀ p ∈ ps, p.2.IsNonneg := by
  obtain ⟨x, -, h⟩ := ok_of_bind h
  dsimp only at h
  split at h
  · cases h
  split at h
  · next hs =>
    obtain ⟨q, hq, hpos⟩ := pos_clipUnit hs
    obtain ⟨y, hy, h⟩ := ok_of_bind h
    cases h
    intro p hp
    rw [List.mem_singleton.mp hp]
    rw [show rule.severity x = .finite q from hq] at hy
    exact Rule.isNonneg_penalty hpos hy
  · cases h
    intro p hp
    cases hp

/-- **The penalties of a reading are never negative**, whatever the limits. -/
theorem isNonneg_penalties {r : Reading} {l : Limits} {organ : OrganKind}
    {ps : List (String × Number)} (h : r.penalties l organ = .ok ps) : ∀ p ∈ ps, p.2.IsNonneg := by
  unfold penalties at h
  dsimp only at h
  split at h
  · cases h
  obtain ⟨found, hfound, h⟩ := ok_of_bind h
  cases h
  have hsignal : ∀ s ∈ r.signals,
      (∃ qs, signalPenalty l organ s.1 s.2 = .ok qs ∧ ∀ p ∈ qs, p.2.IsNonneg) ∨
        ∃ e, signalPenalty l organ s.1 s.2 = .error e ∧ True := by
    intro s _
    cases hs : signalPenalty l organ s.1 s.2 with
    | ok qs => exact .inl ⟨qs, rfl, isNonneg_signalPenalty hs⟩
    | error e => exact .inr ⟨e, rfl, trivial⟩
  rcases mapM_cases hsignal with ⟨found', hfound', hall⟩ | ⟨e, he, -⟩
  · obtain rfl : found' = found := Except.ok.inj (hfound'.symm.trans hfound)
    intro p hp
    obtain ⟨qs, hqs, hp⟩ := List.mem_flatten.mp hp
    exact hall qs hqs p hp
  · cases he.symm.trans hfound

end Reading
end
end Organism
