import Organism.Body
import Organism.Proofs.Health.Awareness
import Mathlib.Data.List.Chain

/-!
# Alerts are the edges

A run is a list of events: changes of healths by every operation there is, changes of the awareness,
and evaluations of alerts, in any order.

* `Body.happen`, `Body.after`   an event, and a run of them;
* `Body.sampled`                the tiers of a subject at the evaluations of a run;
* `observedOf_after`            **the observed tier is the one at the last evaluation**;
* `evaluate_alerts`             the alerts of one evaluation, subject by subject;
* `alertsOf_subject`            **the alerts on one subject are the edges between its tiers**;
* `alerts_are_edges`            all of it, for any body and any run.
-/

namespace Organism

/-! ## events -/

/-- what can happen to the healths and to the awareness, and the evaluation of alerts -/
inductive Event where
  | set (k : OrganKind) (v : Value)
  | add (k : OrganKind) (d : Value)
  | damage (k : OrganKind) (amount : Number)
  | recover (amount : Value) (ks : List OrganKind)
  | feel (l : Limits) (k : OrganKind) (r : Reading)
  | load (s : State.Source)
  | aware (x : Number)
  | evaluate

def Subject.all : List Subject := (Named.all (α := OrganKind)).map .organ ++ [.awareness]

theorem Subject.all_nodup : Subject.all.Nodup := by decide

theorem Subject.mem_all (s : Subject) : s ∈ Subject.all := by
  cases s with
  | organ k => cases k <;> decide
  | awareness => decide

section
variable {l : List Subject} {s : Subject} {f : Subject → Option Alert}
  (hf : ∀ s a, f s = some a → a.subject = s)
include hf

theorem Subject.filter_filterMap_of_not_mem (hs : s ∉ l) :
    (l.filterMap f).filter (fun a => a.subject = s) = [] := by
  rw [List.filter_eq_nil_iff]
  intro a ha
  obtain ⟨r, hr, hra⟩ := List.mem_filterMap.mp ha
  rw [decide_eq_true_eq, hf r a hra]
  rintro rfl
  exact hs hr

theorem Subject.filter_filterMap (hl : l.Nodup) (hs : s ∈ l) :
    (l.filterMap f).filter (fun a => a.subject = s) = (f s).toList := by
  induction l with
  | nil => cases hs
  | cons r l ih =>
    rw [List.nodup_cons] at hl
    by_cases hrs : r = s
    · subst hrs
      cases hr : f r with
      | none =>
        rw [List.filterMap_cons_none hr, filter_filterMap_of_not_mem hf hl.1]
        rfl
      | some a =>
        rw [List.filterMap_cons_some hr, List.filter_cons, if_pos (decide_eq_true (hf r a hr)),
          filter_filterMap_of_not_mem hf hl.1]
        rfl
    · have ht : s ∈ l := (List.mem_cons.mp hs).resolve_left fun e => hrs e.symm
      cases hr : f r with
      | none => rw [List.filterMap_cons_none hr, ih hl.2 ht]
      | some a =>
        have hne : ¬ decide (a.subject = s) = true := by
          rw [decide_eq_true_eq, hf r a hr]
          exact hrs
        rw [List.filterMap_cons_some hr, List.filter_cons, if_neg hne, ih hl.2 ht]

end

namespace Body

def takeTopology {ε α : Type} (b : Body) : Except ε (Topology × α) → Body
  | .ok (t, _) => { b with topology := t }
  | .error _ => b

/-- the tier in which the last evaluation saw a subject -/
def observedOf (b : Body) : Subject → Option Tier
  | .organ k => (b.topology.organ? k).map (·.observed)
  | .awareness => some b.bus.awarenessTier

theorem observed_written {t t' : Topology} (h : t.Written t') (k : OrganKind) :
    (t'.organ? k).map (·.observed) = (t.organ? k).map (·.observed) := by
  obtain ⟨j, x, h⟩ := h.organ?
  rw [h k]
  split
  · rw [Option.map_map]
    rfl
  · rfl

theorem observedOf_takeTopology {ε α : Type} (b : Body) {r : Except ε (Topology × α)}
    (h : ∀ t a, r = .ok (t, a) →
      ∀ k, (t.organ? k).map (·.observed) = (b.topology.organ? k).map (·.observed)) (s : Subject) :
    (b.takeTopology r).observedOf s = b.observedOf s := by
  cases r with
  | error e => rfl
  | ok p =>
    cases s with
    | organ k => exact h p.1 p.2 rfl k
    | awareness => rfl

section
variable [Rounding]

def happen (b : Body) : Event → Body
  | .set k v => b.takeTopology (b.topology.setHealthTo k v)
  | .add k d => b.takeTopology (b.topology.addHealthOf k d)
  | .damage k x => b.takeTopology (b.topology.damage k x)
  | .recover v ks => { b with topology := (b.topology.recoverBy v ks).1 }
  | .feel l k r => b.takeTopology (b.topology.feel l k r)
  | .load s => b.takeTopology (b.topology.loadSource s)
  | .aware x => b.setAwareness x
  | .evaluate => b.evaluate.1

def after (b : Body) (es : List Event) : Body := es.foldl happen b

def alerts (b : Body) : Event → List Alert
  | .evaluate => b.evaluate.2
  | _ => []

def alertsOf (b : Body) : List Event → List Alert
  | [] => []
  | e :: es => b.alerts e ++ (b.happen e).alertsOf es

def tierOf (b : Body) : Subject → Option Tier
  | .organ k => (b.topology.organ? k).map Organ.tier
  | .awareness => some (.ofNumber b.bus.awareness)

def valueOf (b : Body) : Subject → Option Number
  | .organ k => (b.topology.organ? k).map (·.health)
  | .awareness => some b.bus.awareness

/-- the tiers of a subject at the evaluations of a run -/
def sampled (s : Subject) (b : Body) : List Event → List Tier
  | [] => []
  | .evaluate :: es => (b.tierOf s).toList ++ sampled s (b.happen .evaluate) es
  | e :: es => sampled s (b.happen e) es

/-- the tier of a subject at the last evaluation of a run, or the one observed before the first -/
def lastSeen (s : Subject) (b : Body) (es : List Event) : Option Tier :=
  (sampled s b es).getLast?.or (b.observedOf s)

def edge? (b : Body) (s : Subject) (seen : Option Tier) : Option Alert :=
  match seen, b.tierOf s, b.valueOf s with
  | some previous, some tier, some value =>
    if tier = previous then none else some { subject := s, previous, tier, value }
  | _, _, _ => none

/-! ## what an event leaves of the observed tiers -/

theorem observed_loadSource {t t' : Topology} {src : State.Source}
    {m : List (OrganKind × Number)} (h : t.loadSource src = .ok (t', m)) (k : OrganKind) :
    (t'.organ? k).map (·.observed) = (t.organ? k).map (·.observed) := by
  rcases Topology.loadSource_cases t src with ⟨e, he⟩ | ⟨t1, m1, he, hl⟩
  · rw [he] at h
    cases h
  · rw [he] at h
    cases h
    by_cases hk : k ∈ m.map (·.1)
    · obtain ⟨e, hm, rfl⟩ := List.mem_map.mp hk
      obtain ⟨o, ho, ho'⟩ := hl.written e hm
      rw [ho, ho']
      rfl
    · rw [hl.others k hk]

/-- **Only an evaluation changes what was observed.** -/
theorem observedOf_happen (b : Body) {e : Event} (he : e ≠ .evaluate) (s : Subject) :
    (b.happen e).observedOf s = b.observedOf s := by
  cases e with
  | set k v =>
    exact b.observedOf_takeTopology (fun _ _ h => observed_written (Topology.setHealthTo_written h)) s
  | add k d =>
    exact b.observedOf_takeTopology (fun _ _ h => observed_written (Topology.addHealthOf_written h)) s
  | damage k x =>
    exact b.observedOf_takeTopology (fun _ _ h => observed_written (Topology.damage_written h)) s
  | recover v ks =>
    have hr : ∀ k, ((b.topology.recoverBy v ks).1.organ? k).map (·.observed)
        = (b.topology.organ? k).map (·.observed) := by
      refine Topology.recoverBy_preserves (P := fun t => ∀ k, (t.organ? k).map (·.observed)
        = (b.topology.organ? k).map (·.observed)) ?_ fun k => rfl
      intro t t' hw h k
      rw [observed_written hw k, h k]
    cases s with
    | organ k => exact hr k
    | awareness => rfl
  | feel l k r =>
    exact b.observedOf_takeTopology (fun _ _ h => observed_written (Topology.feel_written h)) s
  | load src => exact b.observedOf_takeTopology (fun _ _ h => observed_loadSource h) s
  | aware x => cases s <;> rfl
  | evaluate => exact absurd rfl he

theorem observedOf_evaluate (b : Body) (s : Subject) : b.evaluate.1.observedOf s = b.tierOf s := by
  cases s with
  | organ k =>
    show (b.topology.evaluate.1.organ? k).map _ = _
    rw [Topology.organ?_evaluate, Option.map_map]
    rfl
  | awareness => rfl

theorem tierOf_evaluate (b : Body) (s : Subject) : b.evaluate.1.tierOf s = b.tierOf s := by
  cases s with
  | organ k =>
    show (b.topology.evaluate.1.organ? k).map _ = _
    rw [Topology.organ?_evaluate, Option.map_map]
    rfl
  | awareness => rfl

theorem exists_of_tierOf {b : Body} {s : Subject} {tier : Tier} (h : b.tierOf s = some tier) :
    ∃ seen value, b.observedOf s = some seen ∧ b.valueOf s = some value := by
  cases s with
  | organ k =>
    obtain ⟨o, ho, -⟩ := Option.map_eq_some_iff.mp h
    refine ⟨o.observed, o.health, ?_, ?_⟩
    · show (b.topology.organ? k).map _ = _
      rw [ho]
      rfl
    · show (b.topology.organ? k).map _ = _
      rw [ho]
      rfl
  | awareness => exact ⟨_, _, rfl, rfl⟩

theorem tierOf_eq_none_iff (b : Body) (s : Subject) : b.tierOf s = none ↔ b.observedOf s = none := by
  cases s with
  | organ k =>
    show (b.topology.organ? k).map _ = none ↔ (b.topology.organ? k).map _ = none
    rw [Option.map_eq_none_iff, Option.map_eq_none_iff]
  | awareness =>
    constructor
    · intro h
      cases h
    · intro h
      cases h

/-! ## one evaluation -/

/-- the alerts of an evaluation, subject by subject -/
theorem evaluate_alerts (b : Body) :
    b.evaluate.2 = Subject.all.filterMap fun s => b.edge? s (b.observedOf s) := by
  show b.topology.organs.filterMap Organ.alert? ++ b.bus.alert?.toList = _
  unfold Subject.all Topology.organs
  rw [List.filterMap_append, List.filterMap_map, List.filterMap_filterMap]
  congr 2
  funext k
  show (b.topology.organ? k).bind Organ.alert? = b.edge? (.organ k) (b.observedOf (.organ k))
  cases hk : b.topology.organ? k with
  | none =>
    have ho : b.observedOf (.organ k) = none := by rw [observedOf, hk, Option.map_none]
    rw [ho]
    rfl
  | some o =>
    obtain rfl : o.kind = k := Topology.kind_of_organ? hk
    have ho : b.observedOf (.organ o.kind) = some o.observed := by
      rw [observedOf, hk, Option.map_some]
    have ht : b.tierOf (.organ o.kind) = some o.tier := by rw [tierOf, hk, Option.map_some]
    have hv : b.valueOf (.organ o.kind) = some o.health := by
      rw [valueOf, hk, Option.map_some]
    unfold edge?
    rw [ho, ht, hv]
    rfl

theorem subject_of_edge? {b : Body} {s : Subject} {seen : Option Tier} {a : Alert}
    (h : b.edge? s seen = some a) :
    a.subject = s ∧ some a.previous = seen ∧ b.tierOf s = some a.tier ∧ a.previous ≠ a.tier := by
  unfold edge? at h
  split at h
  · next previous tier value ht hv =>
    split at h
    · cases h
    · next hne =>
      cases h
      exact ⟨rfl, rfl, ht, fun e => hne e.symm⟩
  · cases h

theorem edge?_isSome (b : Body) (s : Subject) {seen : Option Tier}
    (hs : seen = none ↔ b.tierOf s = none) :
    (b.edge? s seen).isSome = true ↔ b.tierOf s ≠ seen := by
  cases ht : b.tierOf s with
  | none =>
    rw [hs.mpr ht]
    unfold edge?
    rw [ht]
    exact ⟨fun h => (by cases h), fun h => absurd rfl h⟩
  | some tier =>
    cases seen with
    | none =>
      rw [hs.mp rfl] at ht
      cases ht
    | some previous =>
      obtain ⟨-, value, -, hv⟩ := exists_of_tierOf ht
      unfold edge?
      rw [ht, hv]
      dsimp only
      by_cases h : tier = previous
      · rw [if_pos h, h]
        exact ⟨fun h => (by cases h), fun h => absurd rfl h⟩
      · rw [if_neg h]
        exact ⟨fun _ e => h (Option.some.inj e), fun _ => rfl⟩

theorem evaluate_subject (b : Body) (s : Subject) :
    b.evaluate.2.filter (fun a => a.subject = s) = (b.edge? s (b.observedOf s)).toList := by
  rw [evaluate_alerts]
  exact Subject.filter_filterMap (fun _ _ h => (subject_of_edge? h).1) Subject.all_nodup s.mem_all

theorem evaluate_subjects_nodup (b : Body) : (b.evaluate.2.map (·.subject)).Nodup := by
  rw [evaluate_alerts, List.map_filterMap]
  refine List.Nodup.filterMap ?_ Subject.all_nodup
  intro r s u hr hs
  obtain ⟨a, ha, rfl⟩ := Option.map_eq_some_iff.mp (Option.mem_def.mp hr)
  obtain ⟨c, hc, he⟩ := Option.map_eq_some_iff.mp (Option.mem_def.mp hs)
  rw [← (subject_of_edge? ha).1, ← (subject_of_edge? hc).1, he]

theorem evaluate_evaluate (b : Body) : b.evaluate.1.evaluate.2 = [] := by
  rw [evaluate_alerts, List.filterMap_eq_nil_iff]
  intro s _
  have h := b.evaluate.1.edge?_isSome s (b.evaluate.1.tierOf_eq_none_iff s).symm
  rw [observedOf_evaluate, tierOf_evaluate] at h
  rw [observedOf_evaluate, ← Option.not_isSome_iff_eq_none]
  exact fun hs => h.mp hs rfl

/-! ## runs -/

section
variable {b : Body} {e : Event} (he : e ≠ .evaluate)
include he

theorem sampled_cons_of_ne (es : List Event) (s : Subject) :
    sampled s b (e :: es) = sampled s (b.happen e) es := by
  cases e <;> first | rfl | exact absurd rfl he

theorem alerts_of_ne : b.alerts e = [] := by
  cases e <;> first | rfl | exact absurd rfl he

end

/-- **The observed tier is the one at the last evaluation.** -/
theorem observedOf_after (b : Body) (es : List Event) (s : Subject) :
    (b.after es).observedOf s = b.lastSeen s es := by
  induction es generalizing b with
  | nil => rfl
  | cons e es ih =>
    show ((b.happen e).after es).observedOf s = _
    rw [ih]
    unfold lastSeen
    by_cases he : e = .evaluate
    · subst he
      show _ = ((b.tierOf s).toList ++ sampled s (b.happen .evaluate) es).getLast?.or _
      rw [show (b.happen .evaluate).observedOf s = b.tierOf s from b.observedOf_evaluate s,
        List.getLast?_append]
      cases ht : b.tierOf s with
      | none =>
        rw [(b.tierOf_eq_none_iff s).mp ht]
        cases (sampled s (b.happen .evaluate) es).getLast? <;> rfl
      | some tier => cases (sampled s (b.happen .evaluate) es).getLast? <;> rfl
    · rw [sampled_cons_of_ne he, b.observedOf_happen he]

end
end Body

/-- the changes in a sequence of tiers that begins with the given one -/
def edges : Tier → List Tier → List (Tier × Tier)
  | _, [] => []
  | p, t :: ts => if t = p then edges p ts else (p, t) :: edges t ts

theorem edges_cons (p t : Tier) (ts : List Tier) :
    edges p (t :: ts) = if t = p then edges p ts else (p, t) :: edges t ts := rfl

theorem edges_head (p : Tier) (ts : List Tier) : ∀ e ∈ (edges p ts).head?, e.1 = p := by
  induction ts with
  | nil =>
    intro e he
    cases he
  | cons t ts ih =>
    rw [edges_cons]
    split
    · exact ih
    · intro e he
      cases he
      rfl

theorem edges_ne {p : Tier} {ts : List Tier} {e : Tier × Tier} (h : e ∈ edges p ts) :
    e.1 ≠ e.2 := by
  induction ts generalizing p with
  | nil => cases h
  | cons t ts ih =>
    rw [edges_cons] at h
    split at h
    · exact ih h
    · next hne =>
      rcases List.mem_cons.mp h with rfl | h
      · exact fun e => hne e.symm
      · exact ih h

theorem edges_chain (p : Tier) (ts : List Tier) :
    (edges p ts).IsChain fun e f => f.1 = e.2 := by
  induction ts generalizing p with
  | nil => exact .nil
  | cons t ts ih =>
    rw [edges_cons]
    split
    · exact ih p
    · rw [List.isChain_cons]
      exact ⟨edges_head t ts, ih t⟩

namespace Body

variable [Rounding]

/-- **The alerts on one subject in a run are the edges between its tiers.** -/
theorem alertsOf_subject (b : Body) (es : List Event) {s : Subject} {seen : Tier}
    (h : b.observedOf s = some seen) :
    ((b.alertsOf es).filter (fun a => a.subject = s)).map (fun a => (a.previous, a.tier))
      = edges seen (sampled s b es) := by
  induction es generalizing b seen with
  | nil => rfl
  | cons e es ih =>
    show ((b.alerts e ++ (b.happen e).alertsOf es).filter _).map _ = _
    rw [List.filter_append, List.map_append]
    by_cases he : e = .evaluate
    · subst he
      obtain ⟨tier, ht⟩ : ∃ tier, b.tierOf s = some tier := by
        rw [← Option.ne_none_iff_exists', Ne, b.tierOf_eq_none_iff, h]
        exact fun e => (by cases e)
      obtain ⟨-, value, -, hv⟩ := exists_of_tierOf ht
      have hrest := ih (b.happen .evaluate) ((b.observedOf_evaluate s).trans ht)
      have hs : sampled s b (.evaluate :: es) = tier :: sampled s (b.happen .evaluate) es := by
        show (b.tierOf s).toList ++ _ = _
        rw [ht]
        rfl
      rw [hrest, hs]
      show (b.evaluate.2.filter _).map _ ++ _ = _
      rw [evaluate_subject]
      unfold edge?
      rw [h, ht, hv, edges_cons]
      dsimp only
      by_cases hc : tier = seen
      · rw [if_pos hc, if_pos hc, hc]
        rfl
      · rw [if_neg hc, if_neg hc]
        rfl
    · rw [alerts_of_ne he, sampled_cons_of_ne he,
        ih (b.happen e) ((b.observedOf_happen he s).trans h)]
      rfl

theorem alertsOf_absent (b : Body) (es : List Event) {s : Subject} (h : b.observedOf s = none) :
    (b.alertsOf es).filter (fun a => a.subject = s) = [] := by
  induction es generalizing b with
  | nil => rfl
  | cons e es ih =>
    show (b.alerts e ++ (b.happen e).alertsOf es).filter _ = _
    rw [List.filter_append]
    by_cases he : e = .evaluate
    · subst he
      have ht : b.tierOf s = none := (b.tierOf_eq_none_iff s).mpr h
      show b.evaluate.2.filter _ ++ _ = _
      rw [ih (b.happen .evaluate) ((b.observedOf_evaluate s).trans ht), evaluate_subject, h]
      rfl
    · rw [alerts_of_ne he, ih (b.happen e) ((b.observedOf_happen he s).trans h)]
      rfl

theorem alertsOf_chain (b : Body) (es : List Event) (s : Subject) :
    ((b.alertsOf es).filter fun a => a.subject = s).IsChain fun a c => c.previous = a.tier := by
  cases h : b.observedOf s with
  | none =>
    rw [b.alertsOf_absent es h]
    exact .nil
  | some seen =>
    have hc := edges_chain seen (sampled s b es)
    rw [← b.alertsOf_subject es h, List.isChain_map] at hc
    exact hc

theorem alertsOf_ne (b : Body) (es : List Event) {a : Alert} (ha : a ∈ b.alertsOf es) :
    a.previous ≠ a.tier := by
  have hm : a ∈ (b.alertsOf es).filter fun c => c.subject = a.subject :=
    List.mem_filter.mpr ⟨ha, decide_eq_true rfl⟩
  cases h : b.observedOf a.subject with
  | none =>
    rw [b.alertsOf_absent es h] at hm
    cases hm
  | some seen =>
    have he := List.mem_map_of_mem (f := fun c : Alert => (c.previous, c.tier)) hm
    rw [b.alertsOf_subject es h] at he
    exact edges_ne he

theorem exists_alert_iff (b : Body) (es : List Event) (s : Subject) :
    (∃ a ∈ (b.after es).evaluate.2, a.subject = s) ↔ (b.after es).tierOf s ≠ b.lastSeen s es := by
  rw [← observedOf_after, ← edge?_isSome _ _ ((b.after es).tierOf_eq_none_iff s).symm]
  have hf := (b.after es).evaluate_subject s
  constructor
  · rintro ⟨a, ha, hs⟩
    have hm : a ∈ (b.after es).evaluate.2.filter fun c => c.subject = s :=
      List.mem_filter.mpr ⟨ha, decide_eq_true hs⟩
    rw [hf, Option.mem_toList] at hm
    rw [hm]
    rfl
  · intro h
    obtain ⟨a, ha⟩ := Option.isSome_iff_exists.mp h
    have hm : a ∈ (b.after es).evaluate.2.filter fun c => c.subject = s := by
      rw [hf, Option.mem_toList]
      exact ha
    obtain ⟨hm, hs⟩ := List.mem_filter.mp hm
    exact ⟨a, hm, of_decide_eq_true hs⟩

/-- **Alerts are exactly the edges.**  After any run, an evaluation goes through the subjects in
their order and reports those whose tier is not the one at the last evaluation, with these two
tiers; the alerts of the whole run on one subject are the edges of its tiers at the evaluations, and
chain; and an evaluation right after another reports nothing. -/
theorem alerts_are_edges (b : Body) (es : List Event) :
    (b.after es).evaluate.2
        = Subject.all.filterMap (fun s => (b.after es).edge? s (b.lastSeen s es)) ∧
      (∀ s, (∃ a ∈ (b.after es).evaluate.2, a.subject = s) ↔
        (b.after es).tierOf s ≠ b.lastSeen s es) ∧
      (∀ a ∈ (b.after es).evaluate.2, some a.previous = b.lastSeen a.subject es ∧
        some a.tier = (b.after es).tierOf a.subject) ∧
      ((b.after es).evaluate.2.map (·.subject)).Nodup ∧
      (∀ s seen, b.observedOf s = some seen →
        ((b.alertsOf es).filter (fun a => a.subject = s)).map (fun a => (a.previous, a.tier))
          = edges seen (sampled s b es)) ∧
      (∀ s, ((b.alertsOf es).filter fun a => a.subject = s).IsChain
        fun a c => c.previous = a.tier) ∧
      (∀ a ∈ b.alertsOf es, a.previous ≠ a.tier) ∧
      (b.after es).evaluate.1.evaluate.2 = [] := by
  have hall : (b.after es).evaluate.2
      = Subject.all.filterMap (fun s => (b.after es).edge? s (b.lastSeen s es)) := by
    rw [evaluate_alerts]
    congr 1
    funext s
    rw [observedOf_after]
  refine ⟨hall, b.exists_alert_iff es, ?_, (b.after es).evaluate_subjects_nodup,
    fun s seen h => b.alertsOf_subject es h, b.alertsOf_chain es,
    fun a ha => b.alertsOf_ne es ha, (b.after es).evaluate_evaluate⟩
  intro a ha
  rw [hall] at ha
  obtain ⟨s, -, hs⟩ := List.mem_filterMap.mp ha
  obtain ⟨rfl, hp, ht, -⟩ := subject_of_edge? hs
  exact ⟨hp, ht.symm⟩

end Body
end Organism
