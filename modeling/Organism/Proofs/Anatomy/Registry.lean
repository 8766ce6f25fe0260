import Organism.Anatomy.Registry
import Organism.Number.Basic
import Organism.Proofs.Anatomy.Topology
import Organism.Proofs.Number.Unit
import Organism.Proofs.Table
import Mathlib.Data.List.Induction
import Mathlib.Order.Basic

/-!
# What the registry keeps

Registrations are numbered as they are asked for, and each that is accepted leaves a record under
its number.  This list is all that the registry keeps: its views show the list, or parts of it.

* `history`             the records that registrations leave;
* `history_ascending`   their ids ascend, and are numbers of registrations;
* `Tracks`              both indexes of a registry are made of one list, which is the history but
                        for the switches;
* `Tracks.shows`        **every view shows the one list**;
* `Tracks.take`, `Tracks.setEnabled`   what each operation makes of it;
* `Tracks.run`          **any calls keep to the history of their registrations**;
* `place_ofTopology`    **a registry of a topology starts with the abilities of its organs**;
* `views_coherent`      **what a registry shows, from any start and after any calls**.
-/

namespace Organism

structure Registration where
  organ : OrganKind
  ability : Ability
  label : String
  description : String := ""
  priority : Value

/-- the record that a registration leaves under its number, if the priority is accepted -/
def Registration.record? [Rounding] (q : Registration) (id : Int) : Option Capability :=
  q.priority.toHealth.toOption.map fun priority =>
    { id, organ := q.organ, ability := q.ability, label := q.label, description := q.description
      priority }

namespace Capability

def switch (id : Int) (enabled : Bool) (c : Capability) : Capability :=
  if c.id = id then { c with enabled } else c

def unswitched (c : Capability) : Capability := { c with enabled := true }

def place (c : Capability) : OrganKind × Ability := (c.organ, c.ability)

variable (id : Int) (enabled : Bool) (c : Capability)

@[simp] theorem id_switch : (c.switch id enabled).id = c.id := by
  unfold switch
  split <;> rfl

@[simp] theorem organ_switch : (c.switch id enabled).organ = c.organ := by
  unfold switch
  split <;> rfl

@[simp] theorem unswitched_switch : (c.switch id enabled).unswitched = c.unswitched := by
  unfold switch
  split <;> rfl

end Capability

namespace Registry

section
variable [Rounding]

/-! ## histories -/

/-- the records that registrations leave, each under its number -/
def history (asked : List Registration) : List Capability :=
  asked.zipIdx.filterMap fun q => q.1.record? q.2

theorem history_concat (asked : List Registration) (q : Registration) :
    history (asked ++ [q]) = history asked ++ (q.record? asked.length).toList := by
  unfold history
  rw [List.zipIdx_append, List.filterMap_append, Nat.zero_add]
  show _ ++ List.filterMap _ [(q, asked.length)] = _
  rw [List.filterMap_cons]
  cases q.record? asked.length <;> rfl

variable {asked : List Registration} {q : Registration} {id : Int} {c : Capability}

theorem record?_eq_some (h : q.record? id = some c) :
    c.id = id ∧ c.place = (q.organ, q.ability) ∧ c.enabled = true ∧ c.priority.InUnit := by
  obtain ⟨x, hx, rfl⟩ := Option.map_eq_some_iff.mp h
  obtain ⟨y, -, hy⟩ := ok_of_bind (ok_of_toOption hx)
  refine ⟨rfl, rfl, rfl, ?_⟩
  show x.InUnit
  rw [(Number.toHealth_eq_ok_iff.mp hy).2]
  exact Number.inUnit_toUnit y

theorem map_unswitched_record (q : Registration) (id : Int) :
    (q.record? id).toList.map Capability.unswitched = (q.record? id).toList := by
  cases hq : q.record? id with
  | none => rfl
  | some c =>
    obtain ⟨-, -, henabled, -⟩ := record?_eq_some hq
    show [{ c with enabled := true }] = [c]
    rw [← henabled]

theorem history_ascending (asked : List Registration) :
    (history asked).Pairwise (fun a b => a.id < b.id) ∧
      ∀ c ∈ history asked, c.id < asked.length := by
  induction asked using List.reverseRecOn with
  | nil => exact ⟨.nil, nofun⟩
  | append_singleton asked q ih =>
    obtain ⟨hascending, hbelow⟩ := ih
    rw [history_concat, List.length_append, List.length_singleton]
    have hlast : ∀ c ∈ (q.record? asked.length).toList, c.id = asked.length := fun c hc =>
      (record?_eq_some (Option.mem_toList.mp hc)).1
    constructor
    · refine List.pairwise_append.mpr ⟨hascending, ?_, fun a ha b hb => ?_⟩
      · cases q.record? asked.length <;> simp
      · rw [hlast b hb]
        exact hbelow a ha
    · intro c hc
      rcases List.mem_append.mp hc with hold | hnew
      · have hid := hbelow c hold
        omega
      · have hid := hlast c hnew
        omega

theorem inUnit_of_mem_history (h : c ∈ history asked) : c.priority.InUnit := by
  obtain ⟨q, -, hq⟩ := List.mem_filterMap.mp h
  exact (record?_eq_some hq).2.2.2

theorem place_history (h : ∀ q ∈ asked, ∃ x, q.priority.toHealth = .ok x) :
    (history asked).map Capability.place = asked.map fun q => (q.organ, q.ability) := by
  induction asked using List.reverseRecOn with
  | nil => rfl
  | append_singleton asked q ih =>
    obtain ⟨x, hx⟩ := h q (List.mem_append_right _ List.mem_cons_self)
    rw [history_concat, List.map_append, List.map_append,
      ih fun p hp => h p (List.mem_append_left _ hp)]
    unfold Registration.record?
    rw [hx]
    rfl

/-! ## the one list -/

def take (r : Registry) (q : Registration) : Registry × Except Fault Int :=
  r.register q.organ q.ability q.label q.description q.priority

/-- Every view of the registry shows the one list of records, and no index names another one. -/
structure Shows (r : Registry) (cs : List Capability) : Prop where
  records : r.records = cs
  size : r.size = cs.length
  get? : ∀ id, r.get? id = cs.find? (·.id = id)
  ofOrgan : ∀ o, r.ofOrgan o = cs.filter (·.organ = o)
  ofAbility : ∀ a, r.ofAbility a = cs.filter (·.ability = a)
  indexed : ∀ o, ∀ id ∈ r.idsOf o, (r.get? id).isSome

/-- Both indexes of the registry are made of one list of records, which are those of the history but
for their switches. -/
structure Tracks (r : Registry) (asked : List Registration) (cs : List Capability) : Prop where
  count : r.nextId = asked.length
  rows : r.byId.rows = cs.map fun c => (c.id, c)
  index : ∀ o, r.idsOf o = (cs.filter (·.organ = o)).map (·.id)
  history : cs.map Capability.unswitched = history asked

namespace Tracks

variable {r : Registry} {cs : List Capability}

theorem empty : Tracks {} [] [] := ⟨rfl, rfl, fun _ => rfl, rfl⟩

theorem keys (h : Tracks r asked cs) : r.byId.keys = cs.map (·.id) := by
  unfold Table.keys
  rw [h.rows, List.map_map]
  rfl

theorem unswitched_mem (h : Tracks r asked cs) (hc : c ∈ cs) :
    c.unswitched ∈ Registry.history asked :=
  h.history ▸ List.mem_map_of_mem hc

theorem below (h : Tracks r asked cs) (hc : c ∈ cs) : c.id < asked.length :=
  (history_ascending asked).2 c.unswitched (h.unswitched_mem hc)

theorem fresh (h : Tracks r asked cs) : r.nextId ∉ r.byId.keys := by
  rw [h.keys, h.count]
  intro hmem
  obtain ⟨c, hc, hid⟩ := List.mem_map.mp hmem
  have hlt := h.below hc
  omega

theorem inUnit (h : Tracks r asked cs) (hc : c ∈ cs) : c.priority.InUnit :=
  inUnit_of_mem_history (c := c.unswitched) (h.unswitched_mem hc)

theorem ascending (h : Tracks r asked cs) : (cs.map (·.id)).Pairwise (· < ·) := by
  have hhistory := (history_ascending asked).1
  rw [← h.history, List.pairwise_map] at hhistory
  exact List.pairwise_map.mpr hhistory

/-! ### views -/

theorem mem_rows (h : Tracks r asked cs) (hc : c ∈ cs) : (c.id, c) ∈ r.byId.rows :=
  h.rows ▸ List.mem_map_of_mem (f := fun c : Capability => (c.id, c)) hc

theorem get?_mem (h : Tracks r asked cs) (hc : c ∈ cs) : r.get? c.id = some c :=
  Table.get?_eq_some_iff.mpr (h.mem_rows hc)

theorem get? (h : Tracks r asked cs) (id : Int) : r.get? id = cs.find? (·.id = id) := by
  unfold Registry.get? Table.get?
  rw [h.rows, List.find?_map, Option.map_map]
  exact Option.map_id'

theorem filterMap_get? (h : Tracks r asked cs) {part : List Capability} (hpart : part ⊆ cs) :
    (part.map (·.id)).filterMap r.get? = part := by
  have hrows : part.map (fun c => (c.id, c)) ⊆ r.byId.rows :=
    h.rows ▸ List.map_subset _ hpart
  have hget := r.byId.filterMap_get? hrows
  rw [List.map_map, List.map_map] at hget
  exact hget.trans (List.map_id _)

theorem records (h : Tracks r asked cs) : r.records = cs := by
  have hsorted : (cs.map (·.id)).mergeSort (fun i j => i ≤ j) = cs.map (·.id) :=
    List.mergeSort_of_pairwise (h.ascending.imp fun hij => decide_eq_true hij.le)
  unfold Registry.records
  rw [h.keys, hsorted]
  exact h.filterMap_get? (List.Subset.refl cs)

theorem ofOrgan (h : Tracks r asked cs) (o : OrganKind) :
    r.ofOrgan o = cs.filter (·.organ = o) := by
  unfold Registry.ofOrgan
  rw [h.index]
  exact h.filterMap_get? (List.filter_subset_self cs)

theorem ofAbility (h : Tracks r asked cs) (a : Ability) :
    r.ofAbility a = cs.filter (·.ability = a) := by
  unfold Registry.ofAbility
  rw [h.rows, List.map_map]
  exact congrArg _ (List.map_id cs)

theorem size (h : Tracks r asked cs) : r.size = cs.length := by
  unfold Registry.size Table.size
  rw [h.rows, List.length_map]

theorem indexed (h : Tracks r asked cs) {o : OrganKind} (hid : id ∈ r.idsOf o) :
    (r.get? id).isSome := by
  rw [h.index] at hid
  obtain ⟨c, hc, rfl⟩ := List.mem_map.mp hid
  rw [h.get?_mem (List.mem_of_mem_filter hc)]
  rfl

/-- **Every view shows the one list.** -/
theorem shows (h : Tracks r asked cs) : r.Shows cs :=
  ⟨h.records, h.size, h.get?, h.ofOrgan, h.ofAbility, fun _ _ => h.indexed⟩

/-! ### operations -/

/-- **A registration uses up its number, and leaves a record under it or nothing at all.** -/
theorem take (h : Tracks r asked cs) (q : Registration) :
    Tracks (r.take q).1 (asked ++ [q]) (cs ++ (q.record? asked.length).toList) := by
  have hcount : r.nextId + 1 = ((asked ++ [q]).length : Int) := by
    rw [h.count, List.length_append]
    rfl
  have hhistory : (cs ++ (q.record? asked.length).toList).map Capability.unswitched =
      Registry.history (asked ++ [q]) := by
    rw [history_concat, List.map_append, h.history, map_unswitched_record]
  unfold Registration.record? at hhistory ⊢
  unfold Registry.take register
  cases hx : q.priority.toHealth with
  | error fault =>
    rw [hx] at hhistory
    refine ⟨hcount, ?_, ?_, hhistory⟩
    · exact (List.append_nil cs).symm ▸ h.rows
    · exact (List.append_nil cs).symm ▸ h.index
  | ok x =>
    rw [hx] at hhistory
    refine ⟨hcount, ?_, fun o => ?_, hhistory⟩
    · rw [List.map_append, ← h.rows, ← h.count]
      exact Table.rows_put_fresh h.fresh _
    · show ((r.byOrgan.put q.organ (r.idsOf q.organ ++ [r.nextId])).get? o).getD [] = _
      rw [Table.get?_put, List.filter_append, List.map_append, ← h.index, ← h.count]
      by_cases ho : o = q.organ
      · subst ho
        simp [Except.toOption]
      · simp [Except.toOption, ho, Ne.symm ho, Registry.idsOf]

/-- **A switch changes the one record of the id.** -/
theorem setEnabled (h : Tracks r asked cs) (id : Int) (enabled : Bool) :
    Tracks (r.setEnabled id enabled).1 asked (cs.map (Capability.switch id enabled)) := by
  have hindex : ∀ o, ((cs.map (Capability.switch id enabled)).filter (·.organ = o)).map (·.id) =
      (cs.filter (·.organ = o)).map (·.id) := by
    intro o
    rw [List.filter_map, List.map_map]
    simp [Function.comp_def]
  have hhistory : (cs.map (Capability.switch id enabled)).map Capability.unswitched =
      Registry.history asked := by
    rw [List.map_map, ← h.history]
    simp [Function.comp_def]
  unfold Registry.setEnabled
  cases hget : r.get? id with
  | none =>
    have hnone : cs.map (Capability.switch id enabled) = cs := by
      refine (List.map_congr_left fun c hc => if_neg fun hid => ?_).trans (List.map_id cs)
      rw [← hid, h.get?_mem hc] at hget
      cases hget
    rw [hnone]
    exact h
  | some c =>
    refine ⟨h.count, ?_, fun o => (h.index o).trans (hindex o).symm, hhistory⟩
    refine (Table.rows_put_changed hget fun c => { c with enabled }).trans ?_
    rw [h.rows, List.map_map, List.map_map]
    refine List.map_congr_left fun c _ => ?_
    simp only [Function.comp_apply, Capability.id_switch]
    unfold Capability.switch
    split <;> rfl

theorem setEnabled_answer (h : Tracks r asked cs) (id : Int) (enabled : Bool) :
    (r.setEnabled id enabled).2 = true ↔ ∃ c ∈ cs, c.id = id := by
  have hfound : (r.setEnabled id enabled).2 = (r.get? id).isSome := by
    unfold Registry.setEnabled
    cases r.get? id <;> rfl
  rw [hfound, h.get?, List.find?_isSome]
  simp

end Tracks

/-! ## answers -/

theorem take_accepted {r : Registry} (h : q.record? r.nextId = some c) :
    (r.take q).2 = .ok r.nextId := by
  obtain ⟨x, hx, -⟩ := Option.map_eq_some_iff.mp h
  unfold take register
  rw [ok_of_toOption hx]

theorem take_refused (r : Registry) (h : q.record? id = none) :
    ∃ fault, (r.take q).2 = .error fault := by
  unfold Registration.record? at h
  unfold take register
  cases hx : q.priority.toHealth with
  | error fault => exact ⟨fault, rfl⟩
  | ok x =>
    rw [hx] at h
    cases h

theorem record?_real {x : Number} (h : q.priority = .real x) :
    q.record? id = none ↔ x.isFinite = false := by
  have hx : q.priority.toHealth = x.toHealth := by
    rw [h]
    rfl
  unfold Registration.record?
  rw [hx]
  cases x <;> simp [Number.toHealth, Number.isFinite, Except.toOption]

end

/-! ## runs -/

inductive Call where
  | register (q : Registration)
  | setEnabled (id : Int) (enabled : Bool)

def registrations (calls : List Call) : List Registration :=
  calls.filterMap fun
    | .register q => some q
    | .setEnabled .. => none

theorem registrations_map (asked : List Registration) :
    registrations (asked.map .register) = asked := by
  unfold registrations
  rw [List.filterMap_map]
  exact List.filterMap_some

section
variable [Rounding]

def Call.on (r : Registry) : Call → Registry
  | register q => (r.take q).1
  | setEnabled id enabled => (r.setEnabled id enabled).1

def run (r : Registry) (calls : List Call) : Registry := calls.foldl Call.on r

/-- **Any calls keep to the history of their registrations.** -/
theorem Tracks.run {r : Registry} {asked : List Registration} {cs : List Capability}
    (h : Tracks r asked cs) (calls : List Call) :
    ∃ cs, Tracks (r.run calls) (asked ++ registrations calls) cs := by
  induction calls generalizing r asked cs with
  | nil => exact ⟨cs, (List.append_nil asked).symm ▸ h⟩
  | cons call calls ih =>
    cases call with
    | register q =>
      have hrest := ih (h.take q)
      rw [List.append_assoc] at hrest
      exact hrest
    | setEnabled id enabled => exact ih (h.setEnabled id enabled)

end

/-! ## the registry of a topology -/

def rank (k : OrganKind) : Nat := (Named.all (α := OrganKind)).idxOf k

/-- by organs in the order of reports, then by the names of abilities -/
def Earlier (p q : OrganKind × Ability) : Prop :=
  rank p.1 < rank q.1 ∨ p.1 = q.1 ∧ Named.label p.2 < Named.label q.2

theorem organs_ascending (t : Topology) :
    t.organs.Pairwise fun o p => rank o.kind < rank p.kind := by
  have hkinds := t.healths_keys
  unfold Topology.healths at hkinds
  rw [List.map_map] at hkinds
  have hranks : (t.organs.map Organ.kind).Pairwise fun k l => rank k < rank l := by
    refine Eq.subst hkinds.symm ?_
    exact List.Pairwise.filter _ (by decide)
  rw [List.pairwise_map] at hranks
  exact hranks

theorem sortedAbilities_ascending (o : Organ) :
    o.sortedAbilities.Pairwise fun a b => Named.label a < Named.label b := by
  unfold Organ.sortedAbilities
  exact List.Pairwise.filter _ (by decide)

theorem mem_sortedAbilities {o : Organ} {a : Ability} :
    a ∈ o.sortedAbilities ↔ a ∈ o.abilities := by
  unfold Organ.sortedAbilities Organ.offers
  rw [List.mem_filter, List.contains_iff_mem]
  exact and_iff_right (by cases a <;> decide)

section
variable [Rounding]

/-- the registrations for the abilities of the organs -/
def seeds (t : Topology) : List Registration :=
  t.organs.flatMap fun o => o.sortedAbilities.map fun a =>
    { organ := o.kind, ability := a, label := s!"{o.kind.label}.{Named.label a}"
      priority := .real (priority a) }

def opening (start : Option Topology) : Registry := start.elim {} ofTopology

def openingSeeds (start : Option Topology) : List Registration := start.elim [] seeds

theorem opening_eq (start : Option Topology) :
    opening start = run {} ((openingSeeds start).map .register) := by
  cases start with
  | none => rfl
  | some t =>
    show t.organs.foldl registerOrgan {} = ((seeds t).map Call.register).foldl Call.on {}
    unfold seeds
    rw [List.foldl_map, List.foldl_flatMap]
    congr 1
    funext r o
    rw [List.foldl_map]
    rfl

theorem tracks_opening (start : Option Topology) :
    ∃ cs, Tracks (opening start) (openingSeeds start) cs := by
  obtain ⟨cs, hcs⟩ := Tracks.empty.run ((openingSeeds start).map .register)
  rw [registrations_map, ← opening_eq] at hcs
  exact ⟨cs, hcs⟩

theorem seeds_ascending (t : Topology) :
    ((seeds t).map fun q => (q.organ, q.ability)).Pairwise Earlier := by
  unfold seeds
  rw [List.pairwise_map, List.pairwise_flatMap]
  constructor
  · intro o _
    exact List.pairwise_map.mpr ((sortedAbilities_ascending o).imp fun hab => .inr ⟨rfl, hab⟩)
  · refine (organs_ascending t).imp fun {o p} hop => ?_
    intro x hx y hy
    obtain ⟨a, -, rfl⟩ := List.mem_map.mp hx
    obtain ⟨b, -, rfl⟩ := List.mem_map.mp hy
    exact .inl hop

theorem mem_seeds {t : Topology} {k : OrganKind} {a : Ability} :
    (k, a) ∈ (seeds t).map (fun q => (q.organ, q.ability)) ↔
      ∃ o, t.organ? k = some o ∧ a ∈ o.abilities := by
  unfold seeds
  simp only [List.map_flatMap, List.map_map, List.mem_flatMap, List.mem_map, Function.comp_apply,
    Prod.mk.injEq, Topology.mem_organs, mem_sortedAbilities]
  constructor
  · rintro ⟨o, ⟨k', ho⟩, b, hb, rfl, rfl⟩
    exact ⟨o, Topology.kind_of_organ? ho ▸ ho, hb⟩
  · rintro ⟨o, ho, ha⟩
    exact ⟨o, ⟨k, ho⟩, a, ha, Topology.kind_of_organ? ho, rfl⟩

end

section
attribute [local instance] Rounding.binary64

theorem seeds_accepted {t : Topology} {q : Registration} (h : q ∈ seeds t) :
    ∃ x, q.priority.toHealth = .ok x := by
  obtain ⟨o, -, hq⟩ := List.mem_flatMap.mp h
  obtain ⟨a, -, rfl⟩ := List.mem_map.mp hq
  have hfinite : (priority a).isFinite = true := by cases a <;> decide +kernel
  exact ⟨_, Number.toHealth_eq_ok hfinite⟩

/-- **A registry of a topology starts with the abilities of its organs.** -/
theorem place_ofTopology (t : Topology) :
    (ofTopology t).records.map Capability.place =
      (seeds t).map fun q => (q.organ, q.ability) := by
  obtain ⟨cs, hcs⟩ := tracks_opening (some t)
  have hplaces := congrArg (List.map Capability.place) hcs.history
  rw [List.map_map] at hplaces
  rw [← place_history fun _ hq => seeds_accepted hq]
  show (opening (some t)).records.map _ = _
  rw [hcs.records]
  exact hplaces

/-- **What a registry shows**, from any start and after any calls.

* Its views show one list of records, in the strict order of their ids: those of the registrations
  that were accepted, each under the number of its registration, but for their switches.
* Priorities are in the unit interval.
* A further registration gets the next number, and its record comes last; if it is refused, as one
  with a priority that is not finite, the number is used up and the views show what they showed.
* A switch is set in the one record of the id, if there is one, which the answer tells.
* A registry of a topology starts with one record for each ability of each organ, in the order of
  the organs and then of the names of the abilities. -/
theorem views_coherent (start : Option Topology) (calls : List Call) :
    let r := (opening start).run calls
    let asked := openingSeeds start ++ registrations calls
    let all := r.records
    r.nextId = asked.length ∧ all.map Capability.unswitched = history asked ∧
    (all.map (·.id)).Pairwise (· < ·) ∧ r.Shows all ∧ (∀ c ∈ all, c.priority.InUnit) ∧
    (∀ (q : Registration) (c : Capability), q.record? asked.length = some c →
      (r.take q).2 = .ok asked.length ∧ (r.take q).1.Shows (all ++ [c])) ∧
    (∀ q : Registration, q.record? asked.length = none →
      (∃ fault, (r.take q).2 = .error fault) ∧ (r.take q).1.Shows all) ∧
    (∀ (q : Registration) (x : Number), q.priority = .real x →
      (q.record? asked.length = none ↔ x.isFinite = false)) ∧
    (∀ id enabled, ((r.setEnabled id enabled).2 = true ↔ ∃ c ∈ all, c.id = id) ∧
      (r.setEnabled id enabled).1.Shows (all.map (Capability.switch id enabled))) ∧
    ∀ t, start = some t →
      let seeded := (opening start).records.map Capability.place
      (∀ k a, (k, a) ∈ seeded ↔ ∃ o, t.organ? k = some o ∧ a ∈ o.abilities) ∧
      seeded.Pairwise Earlier := by
  intro r asked all
  obtain ⟨seeded, hseeded⟩ := tracks_opening start
  obtain ⟨cs, hcs⟩ := hseeded.run calls
  obtain rfl : cs = all := hcs.records.symm
  refine ⟨hcs.count, hcs.history, hcs.ascending, hcs.shows, fun c hc => hcs.inUnit hc, ?_, ?_,
    fun q x => record?_real, fun id enabled => ?_, ?_⟩
  · intro q c hq
    have hanswer := take_accepted (r := r) (hcs.count ▸ hq)
    have htake := (hcs.take q).shows
    rw [hq] at htake
    exact ⟨hanswer.trans (congrArg _ hcs.count), htake⟩
  · intro q hq
    have htake := (hcs.take q).shows
    rw [hq, Option.toList_none, List.append_nil] at htake
    exact ⟨take_refused r hq, htake⟩
  · exact ⟨hcs.setEnabled_answer id enabled, (hcs.setEnabled id enabled).shows⟩
  · rintro t rfl seeded
    have hplaces : seeded = (seeds t).map fun q => (q.organ, q.ability) := place_ofTopology t
    rw [hplaces]
    exact ⟨fun k a => mem_seeds, seeds_ascending t⟩

/-- after the seven seeds of the sample, a refused priority uses up a number that no record has -/
theorem views_coherent_sample :
    let lost : Registration :=
      { organ := .cortex, ability := .planning, label := "lost", priority := .real .nan }
    let nvme : Registration :=
      { organ := .memory, ability := .storage, label := "nvme", priority := .real 4 }
    let r := (opening (some (.sample 1))).run [.register lost, .register nvme, .setEnabled 8 false]
    r.nextId = 9 ∧ (∃ fault, (r.take lost).2 = .error fault) ∧ (r.take lost).1.Shows r.records ∧
      (∃ c, (r.take nvme).2 = .ok 9 ∧ (r.take nvme).1.Shows (r.records ++ [c]) ∧ c.priority = 1) ∧
      (∃ c ∈ r.records, c.id = 8) ∧ ¬ ∃ c ∈ r.records, c.id = 7 := by
  intro lost nvme r
  obtain ⟨hcount, -, -, -, -, haccepted, hrefused, -, hswitch, -⟩ :=
    views_coherent (some (.sample 1)) [.register lost, .register nvme, .setEnabled 8 false]
  obtain ⟨hfault, hsame⟩ := hrefused lost rfl
  obtain ⟨c, hc, hfull⟩ : ∃ c, nvme.record? 9 = some c ∧ c.priority = 1 :=
    ⟨_, rfl, by decide +kernel⟩
  obtain ⟨hanswer, hmore⟩ := haccepted nvme c hc
  have hno : (r.setEnabled 7 true).2 = false := by decide +kernel
  refine ⟨hcount, hfault, hsame, ⟨c, hanswer, hmore, hfull⟩, (hswitch 8 true).1.mp ?_, fun h => ?_⟩
  · decide +kernel
  · exact Bool.false_ne_true (hno.symm.trans ((hswitch 7 true).1.mpr h))

end
end Registry
end Organism
