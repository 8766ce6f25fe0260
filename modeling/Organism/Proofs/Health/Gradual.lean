import Organism.Proofs.Anatomy.Moves
import Organism.Proofs.Health.Costs
import Organism.Settings.Basic

/-!
# Gradual changes of health

Under limits that were accepted, a reading that can be read is always felt: the health moves, or the
reading is found to be unavailable, but nothing else goes wrong.

* `Limits.Stepped`, `Limits.Accepted`   what checking the limits leaves to rely on, without and with
                        the greatest penalties;
* `Reading.Broken`      penalties that cannot be calculated;
* `not_broken`          a reading has penalties, or a signal is not finite;
* `feel_error`          **a reading is felt unless its penalties cannot be calculated**;
* `recoverBy_breaks`    **a recovery of several organs breaks off before its first write, or at an
                        organ that is missing**;
* `recoverBy_cases`     so that of organs that are all there, all recover or none.
-/

namespace Organism

attribute [local instance] Rounding.binary64

/-- the value is a 64-bit number, or a flag or whole number that becomes one -/
def Value.IsNumeric (v : Value) : Prop :=
  ∃ q x, v.quantity? = some q ∧ q.number = .ok x ∧ x.Is64

/-- what is read as a number is a quantity, or a numeral in a text or in bytes -/
theorem Value.quantity_of_toNumber {v : Value} {x : Number} (h : v.toNumber = .ok x) :
    (∃ q, v.quantity? = some q ∧ q.number = .ok x) ∨
      (∃ s, v = .text s ∧ Number.ofText? s = some x) ∨
      ∃ bs, v = .bytes bs ∧ Number.ofBytes? bs = some x := by
  cases v with
  | text s => exact .inr (.inl ⟨s, rfl, ok_of_elim h⟩)
  | bytes bs => exact .inr (.inr ⟨bs, rfl, ok_of_elim h⟩)
  | flag b => exact .inl ⟨_, rfl, h⟩
  | whole n => exact .inl ⟨_, rfl, h⟩
  | real y => exact .inl ⟨_, rfl, h⟩
  | _ => cases h

theorem Value.IsNumeric.is64 {v : Value} (h : v.IsNumeric) {y : Number} (hy : v.toNumber = .ok y) :
    y.Is64 := by
  obtain ⟨q, x, hq, hx, h64⟩ := h
  rcases quantity_of_toNumber hy with ⟨p, hp, hpy⟩ | ⟨s, rfl, -⟩ | ⟨bs, rfl, -⟩
  · obtain rfl : q = p := Option.some.inj (hq.symm.trans hp)
    obtain rfl : x = y := Except.ok.inj (hx.symm.trans hpy)
    exact h64
  · cases hq
  · cases hq

/-- the steps of health are between 0 and 1 -/
structure Limits.Stepped (l : Limits) : Prop where
  maxStep : ∃ q, l.maxStep.quantity? = some q ∧ Number.finite 0 ≤ q.exact ∧ q.exact ≤ .finite 1
  recoveryStep : ∃ q, l.recoveryStep.quantity? = some q ∧ Number.finite 0 ≤ q.exact ∧
    q.exact ≤ .finite 1

/-- limits that were checked, with penalties that are numbers -/
structure Limits.Accepted (l : Limits) : Prop where
  maxStep : ∃ q, l.maxStep.quantity? = some q ∧ Number.finite 0 ≤ q.exact ∧ q.exact ≤ .finite 1
  recoveryStep : ∃ q, l.recoveryStep.quantity? = some q ∧ Number.finite 0 ≤ q.exact ∧
    q.exact ≤ .finite 1
  maxPenalties : ∃ entries, l.maxPenalties = .map entries ∧ ∀ e ∈ entries, e.2.IsNumeric

theorem Limits.Accepted.stepped {l : Limits} (h : l.Accepted) : l.Stepped :=
  ⟨h.maxStep, h.recoveryStep⟩

def Reading.Numeric (r : Reading) : Prop := ∀ p ∈ r.signals, ∃ x, p.2.toNumber = .ok x

/-! ## quantities -/

namespace Quantity

theorem number_whole (n : Int) :
    (whole n).number = if (Binary64.round n).isFinite then .ok (Binary64.round n)
      else .error .tooLarge := rfl

theorem number_of_exact {q : Quantity} (h0 : Number.finite 0 ≤ q.exact)
    (h1 : q.exact ≤ .finite 1) : ∃ x, q.number = .ok x ∧ x ≠ .nan := by
  cases q with
  | flag b => exact ⟨_, rfl, fun e => (by cases e)⟩
  | whole n =>
    have hn0 : (0 : Rat) ≤ n := (Number.le_finite 0 n).mp h0
    have hn1 : (n : Rat) ≤ 1 := (Number.le_finite n 1).mp h1
    have h : n = 0 ∨ n = 1 := by
      have h0' : 0 ≤ n := by exact_mod_cast hn0
      have h1' : n ≤ 1 := by exact_mod_cast hn1
      omega
    rcases h with rfl | rfl
    · exact ⟨0, rfl, fun e => (by cases e)⟩
    · have hr : Binary64.round ((1 : Int) : Rat) = .finite 1 :=
        Binary64.round_representable Binary64.representable_one
      refine ⟨.finite 1, ?_, fun e => (by cases e)⟩
      rw [number_whole, hr]
      rfl
  | real x =>
    refine ⟨x, rfl, ?_⟩
    rintro rfl
    cases h0

end Quantity

/-! ## penalties -/

def IsUnavailable (e : Fault) : Prop := ∃ organ reason, e = .unavailable organ reason

/-- the penalties of the reading cannot be calculated, though it is not found to be unavailable -/
def Reading.Broken (r : Reading) (l : Limits) (k : OrganKind) : Prop :=
  ∃ e, r.penalties l k = .error e ∧ ¬ IsUnavailable e

section
variable {l : Limits} (hl : l.Accepted)
include hl

theorem Limits.Accepted.charging : l.Charging := by
  obtain ⟨entries, he, hn⟩ := hl.maxPenalties
  refine ⟨entries, he, fun e hmem => ?_⟩
  obtain ⟨q, x, hq, hx, -⟩ := hn e hmem
  exact ⟨q, x, hq, hx⟩

theorem signalPenalty_cases (organ : OrganKind) (rule : Rule) {v : Value}
    (hv : ∃ x, v.toNumber = .ok x) :
    (∃ ps, Reading.signalPenalty l organ rule v = .ok ps) ∨
      ∃ e, Reading.signalPenalty l organ rule v = .error e ∧ IsUnavailable e := by
  obtain ⟨x, hx⟩ := hv
  obtain ⟨most, hmost⟩ := hl.charging.charges rule
  cases hf : x.isFinite with
  | true => exact .inl ⟨_, Reading.signalPenalty_finite hmost.penalty hx hf⟩
  | false => exact .inr ⟨_, Reading.signalPenalty_infinite hx hf, _, _, rfl⟩

theorem penalties_cases {r : Reading} (hr : r.Numeric) :
    (∃ ps, r.penalties l r.organ = .ok ps) ∨
      ∃ e, r.penalties l r.organ = .error e ∧ IsUnavailable e := by
  unfold Reading.penalties
  have hno : ¬ r.organ ≠ r.organ := fun h => h rfl
  rw [if_neg hno]
  show (∃ ps, (r.signals.mapM _ >>= _) = _) ∨ ∃ e, (r.signals.mapM _ >>= _) = _ ∧ _
  have hs : ∀ p ∈ r.signals,
      (∃ ps, Reading.signalPenalty l r.organ p.1 p.2 = .ok ps ∧ True) ∨
        ∃ e, Reading.signalPenalty l r.organ p.1 p.2 = .error e ∧ IsUnavailable e := fun p hp =>
    (signalPenalty_cases hl r.organ p.1 (hr p hp)).imp_left fun ⟨ps, h⟩ => ⟨ps, h, trivial⟩
  rcases mapM_cases hs with ⟨found, hf, -⟩ | ⟨e, he, hu⟩
  · rw [hf]
    exact .inl ⟨found.flatten, rfl⟩
  · rw [he]
    exact .inr ⟨e, rfl, hu⟩

theorem not_broken {r : Reading} (hr : r.Numeric) : ¬ r.Broken l r.organ := by
  rintro ⟨e, he, hu⟩
  rcases penalties_cases hl hr with ⟨ps, hps⟩ | ⟨e', he', hu'⟩
  · rw [hps] at he
    cases he
  · rw [he'] at he
    cases he
    exact hu hu'

end

/-! ## the next health -/

section
variable {l : Limits} (hl : l.Stepped)
include hl

theorem change_eq {ps : List (String × Number)} (hps : ∀ p ∈ ps, p.2.IsNonneg) :
    ∃ x, l.change ps = .ok x ∧ x ≠ .nan := by
  obtain ⟨q, hq, hq0, hq1⟩ := hl.maxStep
  obtain ⟨y, hy, hyn⟩ := Quantity.number_of_exact hq0 hq1
  unfold Limits.change
  cases ps with
  | nil =>
    obtain ⟨p, hp, hp0, hp1⟩ := hl.recoveryStep
    obtain ⟨z, hz, hzn⟩ := Quantity.number_of_exact hp0 hp1
    show ∃ x, (l.recoveryStep.smaller l.maxStep >>= _) = _ ∧ _
    rw [Value.smaller_eq hp hq]
    show ∃ x, (if q.exact < p.exact then l.maxStep else l.recoveryStep).operand "+" = _ ∧ _
    split
    · rw [Value.operand_eq hq, hy]
      exact ⟨y, rfl, hyn⟩
    · rw [Value.operand_eq hp, hz]
      exact ⟨z, rfl, hzn⟩
  | cons p ps =>
    have ht : (Number.total ((p :: ps).map (·.2))).IsNonneg := by
      apply Number.isNonneg_total
      intro x hx
      obtain ⟨p', hp', rfl⟩ := List.mem_map.mp hx
      exact hps p' hp'
    generalize Number.total ((p :: ps).map (·.2)) = total at ht
    show ∃ x, ((Value.real total).smaller l.maxStep >>= _) = _ ∧ _
    rw [Value.smaller_eq (p := .real total) rfl hq]
    show ∃ x, ((if q.exact < total then l.maxStep else .real total).operand "+" >>= _) = _ ∧ _
    split
    · rw [Value.operand_eq hq, hy]
      exact ⟨-y, rfl, Number.neg_ne_nan hyn⟩
    · exact ⟨-total, rfl, Number.neg_ne_nan ht.ne_nan⟩

/-- **A reading is felt by its organ unless its penalties cannot be calculated.** -/
theorem feel_error {t : Topology} (ht : t.Whole) {k : OrganKind} {r : Reading} {e : Fault}
    (h : t.feel l k r = .error e) : r.penalties l k = .error e := by
  obtain ⟨o, ho, q, hq, -, -⟩ := ht.organ? k
  have hfeel : t.feel l k r = (l.next k r o.health).bind (t.setHealth k) := by
    unfold Topology.feel
    rw [Topology.organ_eq ho]
    rfl
  rw [hfeel] at h
  cases hps : r.penalties l k with
  | error e' =>
    have hnext : l.next k r o.health = .error e' := by
      unfold Limits.next
      rw [hps]
      rfl
    rw [hnext] at h
    exact congrArg Except.error (Except.error.inj h)
  | ok ps =>
    obtain ⟨x, hx, hxn⟩ := change_eq hl (Reading.isNonneg_penalties hps)
    have hnext : l.next k r o.health = .ok (o.health + x).clipUnit := by
      unfold Limits.next
      rw [hps]
      show (l.change ps >>= _) = _
      rw [hx]
      rfl
    have hfin : (o.health + x).clipUnit.isFinite = true := by
      rw [hq]
      exact Number.isFinite_clipUnit (Number.add_ne_nan hxn)
    rw [hnext] at h
    cases (Topology.setHealth_eq ho hfin).symm.trans h

end

/-! ## recovery -/

namespace Topology

variable {t : Topology}

theorem heal_eq_write {k : OrganKind} {o : Organ} (ho : t.organ? k = some o) (x : Number) :
    t.heal k x = t.write o (o.health + x.abs) := by
  unfold heal addHealth
  rw [organ_eq ho]
  rfl

theorem heal_eq {k : OrganKind} {o : Organ} (ho : t.organ? k = some o) (hu : o.health.InUnit)
    {x : Number} (hx : x.isFinite = true) (h64 : x.Is64) :
    ∃ t' c, t.heal k x = .ok (t', c) ∧ t.Written t' := by
  have hw := write_eq t o (Number.add_isFinite hu (Number.isFinite_abs hx) h64.abs)
  rw [← heal_eq_write ho] at hw
  exact ⟨_, _, hw, heal_written hw⟩

theorem heal_not_finite (hu : t.Each Number.InUnit) (k : OrganKind) {x : Number}
    (hx : x.isFinite = false) : ∃ e, t.heal k x = .error e := by
  cases ho : t.organ? k with
  | none =>
    unfold heal addHealth organ
    rw [ho]
    exact ⟨_, rfl⟩
  | some o =>
    obtain ⟨q, hq, -, -⟩ := hu k o ho
    rw [heal_eq_write ho, hq]
    cases x with
    | nan => exact ⟨_, rfl⟩
    | infinite s => cases s <;> exact ⟨_, rfl⟩
    | minusZero => cases hx
    | finite p => cases hx

/-- **A recovery by a finite amount breaks off at the first organ that is missing.**  All organs
before it have been raised. -/
theorem recover_breaks (hu : t.Each Number.InUnit) {x : Number} (hx : x.isFinite = true)
    (h64 : x.Is64) {ks : List OrganKind} {e : Fault} (h : (t.recover x ks).2 = .error e) :
    ∃ done k rest cs, ks = done ++ k :: rest ∧
      t.recover x done = ((t.recover x ks).1, .ok cs) ∧ (∀ j ∈ done, t.has j = true) ∧
      t.has k = false := by
  induction ks generalizing t e with
  | nil => cases h
  | cons k ks ih =>
    cases ho : t.organ? k with
    | none =>
      have hk : t.heal k x = .error (.noOrgan k) := by
        unfold heal addHealth organ
        rw [ho]
        rfl
      refine ⟨[], k, ks, [], rfl, ?_, List.forall_mem_nil _, ?_⟩
      · unfold recover
        rw [hk]
      · unfold has
        rw [ho]
        rfl
    | some o =>
      obtain ⟨t₁, c, hk, hw⟩ := heal_eq ho (hu k o ho) hx h64
      have hrec : ∀ js, t.recover x (k :: js) =
          ((t₁.recover x js).1, (t₁.recover x js).2.map (c :: ·)) := by
        intro js
        rw [recover, hk]
      have htail : ∃ e', (t₁.recover x ks).2 = .error e' := by
        rw [hrec] at h
        cases hr : (t₁.recover x ks).2 with
        | error e' => exact ⟨e', rfl⟩
        | ok cs =>
          rw [hr] at h
          cases h
      obtain ⟨e', he'⟩ := htail
      obtain ⟨done, j, rest, cs, rfl, hdone, hall, hj⟩ :=
        ih (hu.written Number.inUnit_toUnit hw) he'
      refine ⟨k :: done, j, rest, c :: cs, rfl, ?_, ?_, ?_⟩
      · rw [hrec, hrec, hdone]
        rfl
      · refine List.forall_mem_cons.mpr ⟨has_iff_exists.mpr ⟨o, ho⟩, fun i hi => ?_⟩
        rw [← hw.has]
        exact hall i hi
      · rw [← hw.has]
        exact hj

/-- **A recovery breaks off before its first write, or at an organ that is missing.** -/
theorem recoverBy_breaks (hu : t.Each Number.InUnit) {v : Value}
    (h64 : ∀ x, v.toNumber = .ok x → x.Is64) {ks : List OrganKind} {e : Fault}
    (h : (t.recoverBy v ks).2 = .error e) :
    ∃ done k rest cs, ks = done ++ k :: rest ∧
      t.recoverBy v done = ((t.recoverBy v ks).1, .ok cs) ∧ (∀ j ∈ done, t.has j = true) ∧
      (done = [] ∨ t.has k = false) := by
  cases ks with
  | nil => cases h
  | cons k ks =>
    have first : (t.recoverBy v (k :: ks)).1 = t →
        ∃ done j rest cs, k :: ks = done ++ j :: rest ∧
          t.recoverBy v done = ((t.recoverBy v (k :: ks)).1, .ok cs) ∧
          (∀ j ∈ done, t.has j = true) ∧ (done = [] ∨ t.has j = false) := by
      intro ht
      rw [ht]
      exact ⟨[], k, ks, [], rfl, rfl, List.forall_mem_nil _, .inl rfl⟩
    cases hn : v.toNumber with
    | error e' =>
      apply first
      unfold recoverBy
      rw [hn]
      rfl
    | ok x =>
      have hrec : ∀ js, t.recoverBy v js = t.recover x js := by
        intro js
        cases js with
        | nil => rfl
        | cons j js =>
          unfold recoverBy
          rw [hn]
          rfl
      cases hx : x.isFinite with
      | false =>
        apply first
        obtain ⟨e', he'⟩ := heal_not_finite hu k hx
        rw [hrec, recover, he']
      | true =>
        rw [hrec] at h
        obtain ⟨done, j, rest, cs, hks, hdone, hall, hj⟩ := recover_breaks hu hx (h64 x hn) h
        exact ⟨done, j, rest, cs, hks, by rw [hrec, hrec, hdone], hall, .inr hj⟩

/-- **A recovery takes place for all of the organs or for none.** -/
theorem recoverBy_cases (ht : t.Whole) {v : Value} (h64 : ∀ x, v.toNumber = .ok x → x.Is64)
    (ks : List OrganKind) :
    (∃ cs, (t.recoverBy v ks).2 = .ok cs) ∨
      (t.recoverBy v ks).1 = t ∧ ∃ e, (t.recoverBy v ks).2 = .error e := by
  cases h : (t.recoverBy v ks).2 with
  | ok cs => exact .inl ⟨cs, rfl⟩
  | error e =>
    obtain ⟨done, k, rest, cs, -, hdone, -, rfl | hk⟩ := recoverBy_breaks ht.inUnit h64 h
    · exact .inr ⟨(congrArg Prod.fst hdone).symm, e, rfl⟩
    · rw [ht.has k] at hk
      cases hk

theorem toNumber_of_recoverBy {v : Value} {k : OrganKind} {ks : List OrganKind}
    {cs : List HealthChange} (h : (t.recoverBy v (k :: ks)).2 = .ok cs) :
    ∃ x, v.toNumber = .ok x := by
  unfold recoverBy at h
  cases hn : v.toNumber with
  | ok x => exact ⟨x, rfl⟩
  | error e =>
    rw [hn] at h
    cases h

end Topology
end Organism
