import Organism.Anatomy.Topology
import Organism.Proofs.Fallible
import Organism.Proofs.Number.Unit
import Mathlib.Data.List.Nodup

/-!
# Organs of a topology

* `Topology.mapOrgans`       every organ changed in its place: the shape of all changes;
* `organ?_mapOrgans`         **the organ of a kind after such a change**;
* `healths_keys`             the healths are listed in the fixed order of kinds;
* `Topology.Distinct`        no two organs of one kind, as in every topology that was built;
* `setHealth_eq`             a finite number becomes the health of its organ, and nothing else changes.
-/

namespace Organism

namespace Topology

variable {t : Topology} {k : OrganKind} {o : Organ}

/-! ## parts -/

theorem kind_of_organ? (h : t.organ? k = some o) : o.kind = k := by
  simpa using List.find?_some h

theorem mem_of_organ? (h : t.organ? k = some o) : o ∈ t.organList := List.mem_of_find?_eq_some h

theorem has_iff_exists : t.has k = true ↔ ∃ o, t.organ? k = some o := Option.isSome_iff_exists

theorem organ_eq (h : t.organ? k = some o) : t.organ k = .ok o := by
  unfold organ
  rw [h]

theorem mem_organs : o ∈ t.organs ↔ ∃ k, t.organ? k = some o := by
  unfold organs
  rw [List.mem_filterMap]
  constructor
  · rintro ⟨k, -, h⟩
    exact ⟨k, h⟩
  · rintro ⟨k, h⟩
    exact ⟨k, by cases k <;> decide, h⟩

theorem mem_healths {x : Number} :
    (k, x) ∈ t.healths ↔ ∃ o, t.organ? k = some o ∧ o.health = x := by
  unfold healths
  rw [List.mem_map]
  constructor
  · rintro ⟨o, ho, e⟩
    obtain ⟨k', h⟩ := mem_organs.mp ho
    cases e
    rw [kind_of_organ? h]
    exact ⟨o, h, rfl⟩
  · rintro ⟨o, h, rfl⟩
    exact ⟨o, mem_organs.mpr ⟨k, h⟩, by rw [kind_of_organ? h]⟩

theorem healths_keys (t : Topology) :
    t.healths.map (·.1) = (Named.all (α := OrganKind)).filter t.has := by
  unfold healths organs
  rw [List.map_map]
  induction Named.all (α := OrganKind) with
  | nil => rfl
  | cons k ks ih =>
    cases h : t.organ? k with
    | none =>
      have hk : t.has k = false := by
        unfold has
        rw [h]
        rfl
      rw [List.filterMap_cons_none h, List.filter_cons_of_neg (by simp [hk]), ih]
    | some o =>
      have hk : t.has k = true := has_iff_exists.mpr ⟨o, h⟩
      rw [List.filterMap_cons_some h, List.filter_cons_of_pos hk, List.map_cons, ih]
      congr 1
      exact kind_of_organ? h

theorem healths_keys_nodup (t : Topology) : (t.healths.map (·.1)).Nodup := by
  rw [healths_keys]
  exact List.Nodup.filter _ (by decide)

/-! ## changes in place -/

def mapOrgans (t : Topology) (f : Organ → Organ) : Topology :=
  { t with organList := t.organList.map f }

section
variable {f : Organ → Organ}

theorem organ?_mapOrgans (hf : ∀ o, (f o).kind = o.kind) (t : Topology) (k : OrganKind) :
    (t.mapOrgans f).organ? k = (t.organ? k).map f := by
  unfold organ? mapOrgans
  rw [List.find?_map]
  congr 2
  funext o
  exact congrArg (fun j => decide (j = k)) (hf o)

theorem has_mapOrgans (hf : ∀ o, (f o).kind = o.kind) (t : Topology) (k : OrganKind) :
    (t.mapOrgans f).has k = t.has k := by
  unfold has
  rw [organ?_mapOrgans hf, Option.isSome_map]

theorem mapOrgans_mapOrgans (t : Topology) (f g : Organ → Organ) :
    (t.mapOrgans f).mapOrgans g = t.mapOrgans fun o => g (f o) := by
  unfold mapOrgans
  rw [List.map_map]
  rfl

theorem mapOrgans_congr {g : Organ → Organ} (h : ∀ o ∈ t.organList, f o = g o) :
    t.mapOrgans f = t.mapOrgans g := by
  unfold mapOrgans
  rw [List.map_congr_left h]

end

theorem replace_eq_mapOrgans (t : Topology) (o : Organ) :
    t.replace o = t.mapOrgans fun p => if p.kind = o.kind then o else p := rfl

theorem kind_replaced (o p : Organ) : (if p.kind = o.kind then o else p).kind = p.kind := by
  split
  · next h => exact h.symm
  · rfl

theorem organ?_replace (t : Topology) (o : Organ) (k : OrganKind) :
    (t.replace o).organ? k = if k = o.kind then (t.organ? k).map fun _ => o else t.organ? k := by
  rw [replace_eq_mapOrgans, organ?_mapOrgans (kind_replaced o)]
  cases h : t.organ? k with
  | none =>
    split <;> rfl
  | some p =>
    have hp : p.kind = k := kind_of_organ? h
    rw [Option.map_some, hp]
    split <;> rfl

/-! ## topologies that were built -/

def Distinct (t : Topology) : Prop := (t.organList.map (·.kind)).Nodup

theorem Distinct.mapOrgans {f : Organ → Organ} (h : t.Distinct) (hf : ∀ o, (f o).kind = o.kind) :
    (t.mapOrgans f).Distinct := by
  unfold Distinct Topology.mapOrgans
  rw [List.map_map]
  have e : (fun o : Organ => o.kind) ∘ f = fun o => o.kind := funext hf
  rw [e]
  exact h

theorem Distinct.organ?_eq (h : t.Distinct) (ho : o ∈ t.organList) : t.organ? o.kind = some o := by
  unfold Distinct at h
  unfold organ?
  generalize t.organList = os at h ho
  induction os with
  | nil => cases ho
  | cons p ps ih =>
    rw [List.map_cons, List.nodup_cons] at h
    rcases List.mem_cons.mp ho with rfl | ho
    · rw [List.find?_cons_of_pos (by simp)]
    · have hp : p.kind ≠ o.kind := by
        intro e
        exact h.1 (e ▸ List.mem_map_of_mem ho)
      rw [List.find?_cons_of_neg (by simpa using hp)]
      exact ih h.2 ho

theorem addNode_organList {n : Node} {t' : Topology} (e : t.addNode n = .ok t') :
    t'.organList = t.organList := by
  unfold addNode at e
  split at e
  · cases e
  · cases e
    rfl

theorem foldlM_addNode_organList {nodes : List Node} {t' : Topology}
    (e : nodes.foldlM addNode t = .ok t') : t'.organList = t.organList :=
  foldlM_preserves (P := fun t' => t'.organList = t.organList)
    (fun _ _ _ h e => (addNode_organList e).trans h) rfl e

theorem addOrgan_distinct {t' : Topology} (h : t.Distinct) (e : t.addOrgan o = .ok t') :
    t'.Distinct := by
  unfold addOrgan at e
  split at e
  · cases e
  · next hn =>
    split at e
    · cases e
      unfold Distinct at h ⊢
      rw [List.map_append, List.map_singleton, List.nodup_append]
      refine ⟨h, List.nodup_singleton _, ?_⟩
      intro k hk j hj
      rw [List.mem_singleton] at hj
      obtain ⟨p, hp, rfl⟩ := List.mem_map.mp hk
      intro he
      refine hn (List.any_eq_true.mpr ⟨p, hp, ?_⟩)
      rw [decide_eq_true_eq, he, hj]
    · cases e

/-- **A topology that was built has no two organs of one kind.** -/
theorem build_distinct {nodes : List Node} {organs : List Organ} {t : Topology}
    (e : build nodes organs = .ok t) : t.Distinct := by
  obtain ⟨t1, hn, e⟩ := ok_of_bind e
  refine foldlM_preserves (fun _ _ _ => addOrgan_distinct) ?_ e
  unfold Distinct
  rw [foldlM_addNode_organList hn]
  exact List.nodup_nil

theorem addOrgan_organList {t' : Topology} (e : t.addOrgan o = .ok t') :
    t'.organList = t.organList ++ [o] := by
  unfold addOrgan at e
  split at e
  · cases e
  · split at e
    · cases e
      rfl
    · cases e

theorem foldlM_addOrgan_organList {organs : List Organ} {t' : Topology}
    (e : organs.foldlM addOrgan t = .ok t') : t'.organList = t.organList ++ organs := by
  induction organs generalizing t with
  | nil =>
    cases e
    exact (List.append_nil _).symm
  | cons o organs ih =>
    rw [List.foldlM_cons] at e
    obtain ⟨t1, h1, e⟩ := ok_of_bind e
    rw [ih e, addOrgan_organList h1, List.append_assoc, List.singleton_append]

theorem build_organList {nodes : List Node} {organs : List Organ} {t : Topology}
    (e : build nodes organs = .ok t) : t.organList = organs := by
  obtain ⟨t1, hn, e⟩ := ok_of_bind e
  rw [foldlM_addOrgan_organList e, foldlM_addNode_organList hn, List.nil_append]

/-! ## writes -/

section
variable [Rounding] {x : Number}

def changeOf (o : Organ) (x : Number) : HealthChange where
  organ := o.kind
  previous := o.health
  health := x.toUnit
  crossed := Tier.ofNumber o.health != Tier.ofNumber x.toUnit

theorem write_eq (t : Topology) (o : Organ) (h : x.isFinite = true) :
    t.write o x = .ok (t.replace { o with health := x.toUnit }, changeOf o x) := by
  unfold write
  rw [Number.toHealth_eq_ok h]
  rfl

theorem write_eq_ok {r : Topology × HealthChange} (h : t.write o x = .ok r) :
    x.isFinite = true ∧ r = (t.replace { o with health := x.toUnit }, changeOf o x) := by
  cases hx : x.toHealth with
  | error e =>
    unfold write at h
    rw [hx] at h
    cases h
  | ok y =>
    obtain ⟨hf, -⟩ := Number.toHealth_eq_ok_iff.mp hx
    rw [write_eq t o hf] at h
    exact ⟨hf, (Except.ok.inj h).symm⟩

theorem setHealth_eq (ho : t.organ? k = some o) (hx : x.isFinite = true) :
    t.setHealth k x = .ok (t.replace { o with health := x.toUnit }, changeOf o x) := by
  unfold setHealth
  rw [organ_eq ho]
  exact write_eq t o hx

/-! ## the default organism -/

theorem sample_distinct (x : Number) : (sample x).Distinct := by
  show [OrganKind.cortex, .memory, .ioBridge].Nodup
  decide

theorem sample_has (x : Number) (k : OrganKind) : (sample x).has k = true := by
  cases k <;> rfl

theorem sample_health (o : Organ) (h : o ∈ (sample x).organList) : o.health = x := by
  unfold sample at h
  simp only [List.mem_cons, List.not_mem_nil, or_false] at h
  rcases h with rfl | rfl | rfl <;> rfl

end
end Topology
end Organism
