import Organism.Proofs.Settings.Accepted

/-!
# The worst tier

A lower health is in no better tier, whatever the bounds of the tiers are rounded to.  So the worst
tier of the organs can be told in two ways: as the worst of all tiers, or as the tier of the lowest
health.

* `foldl_choice`         a choice between two, made all along a list;
* `rank_ofNumber_le`     **a lower health is in no better tier**;
* `minHealth_spec`       the lowest health is that of an organ, and no organ has a lower one;
* `worstTier_spec`       the worst tier is that of an organ, and no organ is in a worse one;
* `worstTier_eq`         **the worst tier is the tier of the lowest health**.
-/

namespace Organism

theorem foldl_choice {α : Type} {f : α → α → α} {R : α → α → Prop} {P : α → Prop}
    (hf : ∀ a b, P a → P b → (f a b = a ∨ f a b = b) ∧ R (f a b) a ∧ R (f a b) b)
    (htrans : ∀ a b c, R a b → R b c → R a c) {a : α} {as : List α} (h : ∀ x ∈ a :: as, P x) :
    as.foldl f a ∈ a :: as ∧ ∀ x ∈ a :: as, R (as.foldl f a) x := by
  induction as generalizing a with
  | nil =>
    have ha : P a := h a List.mem_cons_self
    obtain ⟨hself, hR, -⟩ := hf a a ha ha
    rw [or_self] at hself
    rw [hself] at hR
    exact ⟨List.mem_cons_self, List.forall_mem_singleton.mpr hR⟩
  | cons b bs ih =>
    have ha : P a := h a List.mem_cons_self
    have hb : P b := h b (List.mem_cons_of_mem _ List.mem_cons_self)
    obtain ⟨hchoice, hRa, hRb⟩ := hf a b ha hb
    have hmem : ∀ x ∈ f a b :: bs, x ∈ a :: b :: bs := by
      intro x hx
      rcases List.mem_cons.mp hx with rfl | hx
      · rcases hchoice with h | h <;> simp [h]
      · simp [hx]
    obtain ⟨hin, hall⟩ := ih fun x hx => h x (hmem x hx)
    have hbound : R (bs.foldl f (f a b)) (f a b) := hall _ List.mem_cons_self
    refine ⟨hmem _ hin, ?_⟩
    intro x hx
    simp only [List.mem_cons] at hx
    rcases hx with rfl | rfl | hx
    · exact htrans _ _ _ hbound hRa
    · exact htrans _ _ _ hbound hRb
    · exact hall x (List.mem_cons_of_mem _ hx)

theorem Number.lesser_choice (x y : Number) (hx : x.InUnit) (hy : y.InUnit) :
    (lesser x y = x ∨ lesser x y = y) ∧ lesser x y ≤ x ∧ lesser x y ≤ y := by
  obtain ⟨p, rfl, -, -⟩ := hx
  obtain ⟨q, rfl, -, -⟩ := hy
  rw [lesser_finite, le_finite, le_finite]
  refine ⟨?_, min_le_left p q, min_le_right p q⟩
  rcases min_choice p q with h | h <;> simp [h]

namespace Tier

theorem worse_choice (s t : Tier) :
    (worse s t = s ∨ worse s t = t) ∧ s.rank ≤ (worse s t).rank ∧ t.rank ≤ (worse s t).rank := by
  unfold worse
  split
  · exact ⟨.inr rfl, by omega, by omega⟩
  · exact ⟨.inl rfl, by omega, by omega⟩

theorem rank_eq_zero_iff {t : Tier} : t.rank = 0 ↔ t = ok := by
  cases t <;> decide

section
variable [Rounding]

/-- **A lower health is in no better tier.** -/
theorem rank_ofNumber_le {x y : Number} (hx : x.InUnit) (hy : y.InUnit) (h : x ≤ y) :
    (ofNumber y).rank ≤ (ofNumber x).rank := by
  have hbound : ∀ bound : Number, bound ≤ x → bound ≤ y := fun bound hb => Number.le_trans hb h
  have hpos : 0 < x → 0 < y := by
    obtain ⟨p, rfl, -, -⟩ := hx
    obtain ⟨q, rfl, -, -⟩ := hy
    intro hp
    have hpq : p ≤ q := (Number.le_finite p q).mp h
    exact (Number.lt_finite 0 q).mpr (lt_of_lt_of_le ((Number.lt_finite 0 p).mp hp) hpq)
  have hok := hbound okFrom
  have hdegraded := hbound degradedFrom
  have himpaired := hbound impairedFrom
  unfold ofNumber
  split_ifs <;> first | decide | (exfalso; tauto)

end
end Tier

namespace Topology

variable {t : Topology}

theorem Distinct.mem_organs (hd : t.Distinct) {o : Organ} : o ∈ t.organs ↔ o ∈ t.organList := by
  rw [Topology.mem_organs]
  constructor
  · rintro ⟨k, hk⟩
    exact mem_of_organ? hk
  · intro ho
    exact ⟨o.kind, hd.organ?_eq ho⟩

theorem Distinct.health_inUnit (hd : t.Distinct) (hu : t.Each Number.InUnit) {o : Organ}
    (ho : o ∈ t.organList) : o.health.InUnit := hu o.kind o (hd.organ?_eq ho)

/-- **The lowest health is that of an organ, and no organ has a lower one.** -/
theorem minHealth_spec (hu : ∀ o ∈ t.organList, o.health.InUnit) (hne : t.organList ≠ []) :
    (∃ o ∈ t.organList, o.health = t.minHealth) ∧ ∀ o ∈ t.organList, t.minHealth ≤ o.health := by
  unfold minHealth
  cases hos : t.organList with
  | nil => exact absurd hos hne
  | cons o os =>
    have hall : ∀ x ∈ (o :: os).map (·.health), x.InUnit := by
      intro x hx
      obtain ⟨p, hp, rfl⟩ := List.mem_map.mp hx
      exact hu p (hos ▸ hp)
    obtain ⟨hmem, hle⟩ := foldl_choice (R := (· ≤ ·)) Number.lesser_choice
      (fun _ _ _ => Number.le_trans) hall
    refine ⟨List.mem_map.mp hmem, ?_⟩
    intro p hp
    exact hle _ (List.mem_map_of_mem hp)

section
variable [Rounding]

/-- **The worst tier is that of an organ, and no organ is in a worse one.** -/
theorem worstTier_spec (hne : t.organs ≠ []) :
    ∃ s, t.worstTier = .ok s ∧ (∃ o ∈ t.organs, o.tier = s) ∧ ∀ o ∈ t.organs, o.tier.rank ≤ s.rank := by
  have htiers : t.tiers.map (·.2) = t.organs.map (·.tier) := by
    unfold tiers
    rw [List.map_map]
    rfl
  unfold worstTier
  rw [htiers]
  cases hos : t.organs with
  | nil => exact absurd hos hne
  | cons o os =>
    have hall : ∀ x ∈ (o :: os).map (·.tier), True := fun _ _ => trivial
    obtain ⟨hmem, hge⟩ := foldl_choice (R := fun s t => t.rank ≤ s.rank)
      (fun s t _ _ => Tier.worse_choice s t) (fun _ _ _ h k => k.trans h) hall
    refine ⟨_, rfl, List.mem_map.mp hmem, ?_⟩
    intro p hp
    exact hge _ (List.mem_map_of_mem (f := fun o : Organ => o.tier) hp)

/-- **The worst tier of the organs is the tier of the lowest health.** -/
theorem worstTier_eq (hd : t.Distinct) (hu : t.Each Number.InUnit) (hne : t.organList ≠ []) :
    t.worstTier = .ok (Tier.ofNumber t.minHealth) := by
  obtain ⟨⟨lowest, hlowest, hmin⟩, hle⟩ := minHealth_spec (fun _ => hd.health_inUnit hu) hne
  have horgans : t.organs ≠ [] := List.ne_nil_of_mem (hd.mem_organs.mpr hlowest)
  obtain ⟨s, hs, ⟨o, ho, rfl⟩, hge⟩ := worstTier_spec horgans
  have ho' : o ∈ t.organList := hd.mem_organs.mp ho
  have hup : o.tier.rank ≤ (Tier.ofNumber t.minHealth).rank :=
    Tier.rank_ofNumber_le (hmin ▸ hd.health_inUnit hu hlowest) (hd.health_inUnit hu ho') (hle o ho')
  have hdown : (Tier.ofNumber t.minHealth).rank ≤ o.tier.rank := by
    have := hge lowest (hd.mem_organs.mpr hlowest)
    rwa [Organ.tier, hmin] at this
  rw [hs, Tier.rank_injective (le_antisymm hup hdown)]

theorem ofNumber_minHealth_eq_ok (hd : t.Distinct) (hu : t.Each Number.InUnit)
    (hne : t.organList ≠ []) :
    Tier.ofNumber t.minHealth = .ok ↔ ∀ o ∈ t.organs, o.tier = .ok := by
  obtain ⟨o, ho⟩ := List.exists_mem_of_ne_nil _ hne
  obtain ⟨s, hs, ⟨worst, hworst, hws⟩, hge⟩ :=
    worstTier_spec (List.ne_nil_of_mem (hd.mem_organs.mpr ho))
  obtain rfl : s = Tier.ofNumber t.minHealth :=
    Except.ok.inj (hs.symm.trans (worstTier_eq hd hu hne))
  constructor
  · intro hok p hp
    have hrank := hge p hp
    rw [hok] at hrank
    exact Tier.rank_eq_zero_iff.mp (Nat.le_zero.mp hrank)
  · intro hall
    rw [← hws]
    exact hall worst hworst

end
end Topology
end Organism
