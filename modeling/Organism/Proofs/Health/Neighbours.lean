import Organism.Proofs.Health.Edges
import Organism.Proofs.Health.Pace

/-!
# Organs pass from tier to tier

A tier between the best and the worst is at least a quarter wide, and so is the way from `failed` to
`impaired`.  So a reading that moves a health by a quarter at most takes its organ to a neighbouring
tier or leaves it where it is.  Where each organ feels one reading at most between two evaluations,
no tier is skipped in an alert: what was observed at the last evaluation is the tier of the organ,
or the tier it was in before its one reading.

* `Tier.Close`              tiers that are neighbours, or the same;
* `close_of_near`           **healths a quarter apart are in such tiers**;
* `Organ.IsNew`             organs as they are when they are created;
* `Topology.Followed`       organs that were observed in their tiers, or felt something since;
* `Followed.feel`           what one reading leaves of that;
* `Body.Watched`            runs of readings, each followed by an evaluation before the next one;
* `neighbours_alerted`      **the alerts on organs go between neighbouring tiers**.
-/

namespace Organism

attribute [local instance] Rounding.exact

/-! ## tiers of healths -/

namespace Tier

def Close (s t : Tier) : Prop := s.rank ≤ t.rank + 1 ∧ t.rank ≤ s.rank + 1

theorem close_refl (t : Tier) : t.Close t := ⟨t.rank.le_succ, t.rank.le_succ⟩

theorem Close.neighbours {s t : Tier} (h : s.Close t) (hne : s ≠ t) :
    s.rank + 1 = t.rank ∨ t.rank + 1 = s.rank := by
  have hrank : s.rank ≠ t.rank := mt rank_injective hne
  obtain ⟨hst, hts⟩ := h
  omega

theorem ofNumber_finite (q : Rat) :
    ofNumber (.finite q) = if 17 / 20 ≤ q then ok else if 3 / 5 ≤ q then degraded
      else if 7 / 20 ≤ q then impaired else if 0 < q then critical else failed := by
  have hok : okFrom = .finite (17 / 20) := by decide +kernel
  have hdegraded : degradedFrom = .finite (3 / 5) := by decide +kernel
  have himpaired : impairedFrom = .finite (7 / 20) := by decide +kernel
  have hpos : (0 : Number) < .finite q ↔ 0 < q := Number.lt_finite 0 q
  unfold ofNumber
  simp only [hok, hdegraded, himpaired, hpos, Number.le_finite]

theorem rank_le_succ {c x : Rat} (h : c ≤ x + 1 / 4) :
    (ofNumber (.finite x)).rank ≤ (ofNumber (.finite c)).rank + 1 := by
  rw [ofNumber_finite, ofNumber_finite]
  split_ifs <;> first | decide | (exfalso; linarith)

/-- **Healths that are a quarter apart at most are one tier apart at most.** -/
theorem close_of_near {c x : Number} (hc : c.InUnit) (hx : x.InUnit)
    (h : |x.value - c.value| ≤ 1 / 4) : (ofNumber c).Close (ofNumber x) := by
  obtain ⟨p, rfl, -, -⟩ := hc
  obtain ⟨q, rfl, -, -⟩ := hx
  obtain ⟨hlow, hhigh⟩ := abs_le.mp (show |q - p| ≤ 1 / 4 from h)
  exact ⟨rank_le_succ (by linarith), rank_le_succ (by linarith)⟩

end Tier

/-! ## organs between evaluations -/

/-- a health that was brought into the interval, and observed in its tier -/
structure Organ.IsNew (o : Organ) : Prop where
  health : ∃ x : Number, x.toHealth = .ok o.health
  observed : o.observed = o.tier

theorem Organ.isNew_create {id : Int} {kind : OrganKind} {nodeId : Int} {abilities : List Ability}
    {x h : Number} (hx : x.toHealth = .ok h) : (create id kind nodeId abilities h).IsNew :=
  ⟨⟨x, hx⟩, rfl⟩

namespace Topology

/-- all organs were observed in their tiers, but for those that felt something since, which are
still close to the tiers that they were observed in -/
structure Followed (felt : List OrganKind) (t : Topology) : Prop where
  inUnit : t.Each Number.InUnit
  close : ∀ k o, t.organ? k = some o → o.observed.Close o.tier
  observed : ∀ k o, t.organ? k = some o → k ∉ felt → o.observed = o.tier

variable {t t' : Topology} {felt : List OrganKind}

theorem followed_of_build {nodes : List Node} {organs : List Organ}
    (e : build nodes organs = .ok t) (h : ∀ o ∈ organs, o.IsNew) : t.Followed [] := by
  have hnew : ∀ k o, t.organ? k = some o → o.IsNew := by
    intro k o ho
    exact h o (build_organList e ▸ mem_of_organ? ho)
  refine ⟨fun k o ho => ?_, fun k o ho => ?_, fun k o ho _ => (hnew k o ho).observed⟩
  · obtain ⟨x, hx⟩ := (hnew k o ho).health
    rw [(Number.toHealth_eq_ok_iff.mp hx).2]
    exact Number.inUnit_toUnit x
  · rw [(hnew k o ho).observed]
    exact Tier.close_refl _

theorem Followed.evaluate (h : t.Followed felt) : t.evaluate.1.Followed [] := by
  have hseen : ∀ k o, t.evaluate.1.organ? k = some o → o.observed = o.tier := by
    intro k o ho
    rw [organ?_evaluate] at ho
    obtain ⟨p, -, rfl⟩ := Option.map_eq_some_iff.mp ho
    rfl
  refine ⟨h.inUnit.evaluate, fun k o ho => ?_, fun k o ho _ => hseen k o ho⟩
  rw [hseen k o ho]
  exact Tier.close_refl _

/-- **The first reading since the evaluation takes its organ one tier away at most.** -/
theorem Followed.feel {l : Limits} {step : Rat} (hl : l.Paces step) (hstep : step ≤ 1 / 4)
    {k : OrganKind} {r : Reading} {c : HealthChange} (h : t.Followed felt) (hk : k ∉ felt)
    (hf : t.feel l k r = .ok (t', c)) : t'.Followed (k :: felt) := by
  obtain ⟨o, x, ho, hx, hnear, rfl⟩ := hl.feel_ok h.inUnit hf
  obtain rfl : o.kind = k := kind_of_organ? ho
  have hclose : o.tier.Close (Tier.ofNumber x) :=
    Tier.close_of_near (h.inUnit o.kind o ho) hx (hnear.trans hstep)
  refine ⟨h.inUnit.replace hx, fun j p hp => ?_, fun j p hp hj => ?_⟩
  · rw [organ?_replace] at hp
    split at hp
    · obtain ⟨-, -, rfl⟩ := Option.map_eq_some_iff.mp hp
      show o.observed.Close _
      rw [h.observed o.kind o ho hk]
      exact hclose
    · exact h.close j p hp
  · rw [List.mem_cons, not_or] at hj
    rw [organ?_replace, if_neg hj.1] at hp
    exact h.observed j p hp hj.2

end Topology

/-! ## runs -/

namespace Body

/-- readings of organs under the limits, with an evaluation between any two of one organ; `felt` are
the organs that were read since the last evaluation -/
def Watched (l : Limits) : List OrganKind → List Event → Prop
  | _, [] => True
  | felt, .feel l' k _ :: es => l' = l ∧ k ∉ felt ∧ Watched l (k :: felt) es
  | felt, .aware _ :: es => Watched l felt es
  | _, .evaluate :: es => Watched l [] es
  | _, _ :: _ => False

variable {b : Body} {felt : List OrganKind}

theorem neighbours_evaluate (h : b.topology.Followed felt) {a : Alert} (ha : a ∈ b.evaluate.2)
    {k : OrganKind} (hk : a.subject = .organ k) :
    a.previous.rank + 1 = a.tier.rank ∨ a.tier.rank + 1 = a.previous.rank := by
  rw [evaluate_alerts] at ha
  obtain ⟨s, -, hs⟩ := List.mem_filterMap.mp ha
  obtain ⟨hsubject, hprevious, htier, hne⟩ := subject_of_edge? hs
  obtain rfl : s = .organ k := hsubject.symm.trans hk
  obtain ⟨o, ho, ht⟩ := Option.map_eq_some_iff.mp htier
  have hseen : b.observedOf (.organ k) = some o.observed := by
    show (b.topology.organ? k).map _ = _
    rw [ho]
    rfl
  have hclose := h.close k o ho
  rw [ht, ← Option.some.inj (hprevious.trans hseen)] at hclose
  exact hclose.neighbours hne

variable {l : Limits} {step : Rat} (hl : l.Paces step) (hstep : step ≤ 1 / 4)
include hl hstep

theorem neighbours_alertsOf {es : List Event} (h : b.topology.Followed felt)
    (hes : Watched l felt es) {a : Alert} (ha : a ∈ b.alertsOf es) {k : OrganKind}
    (hk : a.subject = .organ k) :
    a.previous.rank + 1 = a.tier.rank ∨ a.tier.rank + 1 = a.previous.rank := by
  induction es generalizing b felt with
  | nil => cases ha
  | cons e es ih =>
    rcases List.mem_append.mp ha with ha | ha
    · cases e with
      | evaluate => exact neighbours_evaluate h ha hk
      | _ => cases ha
    · cases e with
      | feel l' j r =>
        obtain ⟨rfl, hj, hes⟩ := hes
        refine ih ?_ hes ha
        show (b.takeTopology (b.topology.feel l' j r)).topology.Followed _
        cases hf : b.topology.feel l' j r with
        | error e =>
          refine ⟨h.inUnit, h.close, fun k o ho hk => h.observed k o ho ?_⟩
          exact mt (List.mem_cons_of_mem j) hk
        | ok p => exact h.feel hl hstep hj (c := p.2) hf
      | aware x => exact ih (b := b.happen (.aware x)) h hes ha
      | evaluate => exact ih (b := b.happen .evaluate) h.evaluate hes ha
      | set | add | damage | recover | load => exact hes.elim

end Body

/-- **A reading takes its organ to a neighbouring tier or leaves it where it is.**  Where the limits
allow steps of a quarter at most, that holds of every reading that has a next health; and in a body
that was built of new organs, and is evaluated after the readings, all alerts on organs go between
neighbouring tiers. -/
theorem Limits.neighbours_alerted {l : Limits} (hl : Settings.checkHealth l = .ok ()) {q : Quantity}
    (hq : l.maxStep.quantity? = some q) (hstep : q.exact ≤ .finite (1 / 4)) :
    (∀ (t : Topology) (k : OrganKind) (r : Reading) (o : Organ) (x : Number),
      t.organ? k = some o → o.health.InUnit → l.next k r o.health = .ok x →
        ∃ t' c o', t.feel l k r = .ok (t', c) ∧ t'.organ? k = some o' ∧ o'.health = x ∧
          o.tier.Close o'.tier) ∧
      ∀ (b : Body) (nodes : List Node) (organs : List Organ) (es : List Event),
        Topology.build nodes organs = .ok b.topology → (∀ o ∈ organs, o.IsNew) →
          Body.Watched l [] es → ∀ a ∈ b.alertsOf es, ∀ k, a.subject = .organ k →
            a.previous.rank + 1 = a.tier.rank ∨ a.tier.rank + 1 = a.previous.rank := by
  obtain ⟨step, hpaces, -, -⟩ := Settings.checkHealth_paces hl
  have hquarter : step ≤ 1 / 4 := by
    obtain ⟨-, q', -, hq', -, hf, -, -, rfl⟩ := id hpaces
    obtain rfl : q' = q := Option.some.inj (hq'.symm.trans hq)
    exact (Number.le_iff_value hf rfl).mp hstep
  constructor
  · intro t k r o x ho hu hx
    obtain ⟨hunit, hnear, hfeel⟩ := hpaces.feel_eq ho hu hx
    obtain rfl : o.kind = k := Topology.kind_of_organ? ho
    refine ⟨_, _, { o with health := x }, hfeel, ?_, rfl, ?_⟩
    · rw [Topology.organ?_replace, if_pos rfl, ho]
      rfl
    · exact Tier.close_of_near hu hunit (hnear.trans hquarter)
  · intro b nodes organs es hbuild hnew hes a ha k hk
    have hfollowed := Topology.followed_of_build hbuild hnew
    exact Body.neighbours_alertsOf hpaces hquarter hfollowed hes ha hk

/-- a memory that fills up, under limits that allow for steps of a quarter -/
theorem Limits.neighbours_alerted_full :
    let l : Limits :=
      { Limits.standard with
        maxStep := .real (.finite (1 / 4))
        maxPenalties := .map [(.text "ram_used_ratio", .whole 1)] }
    let r : Reading := .memory { MemoryReading.nominal with ramUsed := .whole 1 }
    let b : Body :=
      { topology :=
          { nodeList := [{ id := 1, label := "core-0", organIds := [1] }]
            organList := [Organ.create 1 .memory 1 [] 1] }
        senses := .script (fun _ f => .ok f.nominal) 0, dice := .scripted [] }
    let es : List Event :=
      [.feel l .memory r, .evaluate, .feel l .memory r, .evaluate, .feel l .memory r, .evaluate,
        .feel l .memory r, .evaluate]
    (b.alertsOf es).map (fun a => (a.previous, a.tier)) =
        [(.ok, .degraded), (.degraded, .impaired), (.impaired, .critical), (.critical, .failed)] ∧
      ∀ a ∈ b.alertsOf es, ∀ k, a.subject = .organ k →
        a.previous.rank + 1 = a.tier.rank ∨ a.tier.rank + 1 = a.previous.rank := by
  intro l r b es
  have hl : Settings.checkHealth l = .ok () := by
    have h : (Settings.checkHealth l).isOk = true := by decide +kernel
    obtain ⟨⟨⟩, h⟩ := ok_of_isOk h
    exact h
  have hstep : (Quantity.real (.finite (1 / 4))).exact ≤ .finite (1 / 4) := by decide +kernel
  have hbuild : Topology.build [{ id := 1, label := "core-0" }] [Organ.create 1 .memory 1 [] 1] =
      .ok b.topology := rfl
  have hnew : ∀ o ∈ [Organ.create 1 .memory 1 [] 1], o.IsNew := by
    rw [List.forall_mem_singleton]
    exact Organ.isNew_create (x := 1) rfl
  have hes : Body.Watched l [] es := by simp [es, Body.Watched]
  refine ⟨by decide +kernel, ?_⟩
  exact (Limits.neighbours_alerted hl rfl hstep).2 b _ _ es hbuild hnew hes

end Organism
