import Organism.Proofs.Health.Penalties

/-!
# What a reading costs

Where the greatest penalties are numbers, all that can be wrong with a reading is a signal that is
not finite.

* `Reading.Finite`         readings whose signals are all finite numbers;
* `Limits.Charging`        limits that name numbers as greatest penalties;
* `Limits.Charges`         what a rule charges at most, and that its penalties are shares of that;
* `Rule.charge`            the penalty of a finite signal, if it is adverse;
* `signalPenalty_infinite` a signal that is not finite makes the reading unavailable;
* `penalties_of_charges`   **a finite reading has penalties, and only such a reading has**.
-/

namespace Organism

section
variable [Rounding]

def Reading.Finite (r : Reading) : Prop :=
  ∀ s ∈ r.signals, ∃ x, s.2.toNumber = .ok x ∧ x.isFinite = true

theorem Value.any_isFinite {v : Value} : v.toNumber.toOption.any (·.isFinite) = true ↔
    ∃ x, v.toNumber = .ok x ∧ x.isFinite = true := by
  cases v.toNumber <;> simp [Except.toOption]

instance (r : Reading) : Decidable r.Finite :=
  decidable_of_iff (∀ s ∈ r.signals, s.2.toNumber.toOption.any (·.isFinite) = true)
    (forall₂_congr fun _ _ => Value.any_isFinite)

/-- the greatest penalties that are named are numbers -/
def Limits.Charging (l : Limits) : Prop :=
  ∃ entries, l.maxPenalties = .map entries ∧
    ∀ e ∈ entries, ∃ q x, e.2.quantity? = some q ∧ q.number = .ok x

def Rule.charge (rule : Rule) (most x : Number) : List (String × Number) :=
  if 0 < rule.severity x then [(rule.name, rule.severity x * most)] else []

def Charged (most : Rule → Number) (s : Rule × Value) (ps : List (String × Number)) : Prop :=
  ∃ x, s.2.toNumber = .ok x ∧ x.isFinite = true ∧ ps = s.1.charge (most s.1) x

/-! ## one signal -/

theorem Limits.Charging.maxPenalty {l : Limits} (hl : l.Charging) (name : String) (x : Number) :
    ∃ v q y, l.maxPenalty name (.real x) = .ok v ∧ v.quantity? = some q ∧ q.number = .ok y := by
  obtain ⟨entries, he, hn⟩ := hl
  unfold Limits.maxPenalty
  rw [he]
  dsimp only
  unfold Value.field?
  cases hf : entries.find? fun e => e.1 == .text name with
  | none => exact ⟨.real x, .real x, x, rfl, rfl, rfl⟩
  | some e =>
    obtain ⟨q, y, hq, hy⟩ := hn e (List.mem_of_find?_eq_some hf)
    exact ⟨e.2, q, y, rfl, hq, hy⟩

/-- what the rule may charge: the greatest penalty in force if that is positive, and nothing else -/
def Limits.Charges (l : Limits) (rule : Rule) (most : Number) : Prop :=
  ∃ v q y, l.maxPenalty rule.name (.real rule.maxPenalty) = .ok v ∧ v.quantity? = some q ∧
    q.number = .ok y ∧ most = if Number.finite 0 < q.exact then y else 0

theorem Limits.Charging.charges {l : Limits} (hl : l.Charging) (rule : Rule) :
    ∃ most, l.Charges rule most := by
  obtain ⟨v, q, y, hv, hq, hy⟩ := hl.maxPenalty rule.name rule.maxPenalty
  exact ⟨_, v, q, y, hv, hq, hy, rfl⟩

namespace Limits.Charges

variable {l : Limits} {rule : Rule} {most : Number}

theorem isNonneg [Rounding.KeepsSign] (h : l.Charges rule most) : most.IsNonneg := by
  obtain ⟨v, q, y, -, -, hy, rfl⟩ := h
  split
  · next hpos => exact Quantity.isNonneg_number hpos hy
  · exact Number.isNonneg_zero

theorem penalty (h : l.Charges rule most) (severity : Number) :
    rule.penalty l severity = .ok (severity * most) := by
  obtain ⟨v, q, y, hv, hq, hy, rfl⟩ := h
  have hc : v.compared ">" .real false = .ok q.exact := by
    unfold Value.compared
    rw [hq]
  have hpenalty : rule.penalty l severity =
      (if Number.finite 0 < q.exact then v else .real 0).operand "*" >>= fun x =>
        .ok (severity * x) := by
    unfold Rule.penalty
    rw [hv]
    show ((v.compared ">" .real false) >>= _) = _
    rw [hc]
    rfl
  rw [hpenalty]
  split
  · rw [Value.operand_eq hq, hy]
    rfl
  · rfl

end Limits.Charges

namespace Reading

theorem signalPenalty_finite {l : Limits} {organ : OrganKind} {rule : Rule} {most : Number}
    (hmost : ∀ severity, rule.penalty l severity = .ok (severity * most)) {v : Value} {x : Number}
    (hx : v.toNumber = .ok x) (hf : x.isFinite = true) :
    signalPenalty l organ rule v = .ok (rule.charge most x) := by
  unfold signalPenalty Rule.charge
  rw [hx]
  show (if !x.isFinite then _ else if 0 < rule.severity x then _ else _) = _
  rw [hf, hmost]
  split
  · next h => cases h
  · split <;> rfl

theorem signalPenalty_infinite {l : Limits} {organ : OrganKind} {rule : Rule} {v : Value}
    {x : Number} (hx : v.toNumber = .ok x) (hf : x.isFinite = false) :
    signalPenalty l organ rule v =
      .error (.unavailable organ.label s!"non-finite {rule.name} reading") := by
  unfold signalPenalty
  rw [hx]
  show (if !x.isFinite then _ else _) = _
  rw [hf]
  rfl

/-! ## all signals -/

variable {l : Limits} {organ : OrganKind} {r : Reading}

theorem finite_of_penalties {ps : List (String × Number)} (h : r.penalties l organ = .ok ps) :
    r.Finite := by
  unfold penalties at h
  dsimp only at h
  split at h
  · cases h
  obtain ⟨found, hfound, -⟩ := ok_of_bind h
  have hsignals : List.Forall₂ (fun (s : Rule × Value) (_ : List (String × Number)) =>
      (∃ x, s.2.toNumber = .ok x ∧ x.isFinite = true) ∧ True) r.signals found := by
    refine (forall₂_of_mapM hfound).imp fun s qs (hs : signalPenalty l organ s.1 s.2 = _) => ?_
    obtain ⟨x, hx, -⟩ := ok_of_bind hs
    refine ⟨⟨x, hx, ?_⟩, trivial⟩
    cases hf : x.isFinite with
    | true => rfl
    | false => cases (signalPenalty_infinite hx hf).symm.trans hs
  exact ((List.forall₂_and_left _ _).mp hsignals).1

end Reading

/-- **A finite reading has penalties, those of its signals one after the other.** -/
theorem Limits.penalties_of_charges {l : Limits} {most : Rule → Number}
    (h : ∀ rule, l.Charges rule (most rule)) {r : Reading} (hr : r.Finite) :
    ∃ found, r.penalties l r.organ = .ok found.flatten ∧
      List.Forall₂ (Charged most) r.signals found := by
  have hsignal : ∀ s ∈ r.signals, ∃ x, s.2.toNumber = .ok x ∧ x.isFinite = true ∧
      Reading.signalPenalty l r.organ s.1 s.2 = .ok (s.1.charge (most s.1) x) := by
    intro s hs
    obtain ⟨x, hx, hf⟩ := hr s hs
    exact ⟨x, hx, hf, Reading.signalPenalty_finite (h s.1).penalty hx hf⟩
  have hall : ∀ s ∈ r.signals, (∃ ps, Reading.signalPenalty l r.organ s.1 s.2 = .ok ps ∧ True) ∨
      ∃ e, Reading.signalPenalty l r.organ s.1 s.2 = .error e ∧ False := by
    intro s hs
    obtain ⟨x, -, -, hps⟩ := hsignal s hs
    exact .inl ⟨_, hps, trivial⟩
  rcases mapM_cases hall with ⟨found, hfound, -⟩ | ⟨e, -, he⟩
  · refine ⟨found, ?_, ?_⟩
    · unfold Reading.penalties
      rw [if_neg (not_not.mpr rfl)]
      show (r.signals.mapM _ >>= _) = _
      rw [hfound]
      rfl
    · have hboth := (List.forall₂_and_left _ _).mpr ⟨hsignal, forall₂_of_mapM hfound⟩
      refine hboth.imp fun s ps => ?_
      rintro ⟨⟨x, hx, hf, heq⟩, hps⟩
      exact ⟨x, hx, hf, Except.ok.inj (hps.symm.trans heq)⟩
  · exact he.elim

theorem Limits.Charging.penalties [Rounding.KeepsSign] {l : Limits} (hl : l.Charging) :
    ∃ most : Rule → Number, (∀ rule, (most rule).IsNonneg) ∧
      ∀ r : Reading, r.Finite → ∃ found, r.penalties l r.organ = .ok found.flatten ∧
        List.Forall₂ (Charged most) r.signals found := by
  choose most hmost using hl.charges
  exact ⟨most, fun rule => (hmost rule).isNonneg, fun _ hr => penalties_of_charges hmost hr⟩

end
end Organism
