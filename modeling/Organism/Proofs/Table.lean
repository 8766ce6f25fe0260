import Organism.Table
import Mathlib.Tactic.Common

/-!
# What tables hold

* `Table.get?_eq_some_iff`, `isSome_get?_iff`   what is found is what stands in the rows;
* `Table.get?_put`       **what is put is found, and all else is as it was**;
* `Table.get?_erase`     the same for a key that is erased;
* `Table.rows_put_fresh`, `rows_put_known`, `rows_put_changed`
                         where a new row stands, and what replaces an old one;
* `Table.filterMap_get?`   keys looked up one after the other;
* `Table.putAll`, `get?_putAll`   rows put one after the other: the last of a key counts.
-/

namespace Organism.Table

variable {α β : Type}

section
variable [DecidableEq α]

/-! ## reading -/

@[simp] theorem get?_empty (key : α) : ({} : Table α β).get? key = none := rfl

theorem get?_eq_some_iff {t : Table α β} {key : α} {v : β} :
    t.get? key = some v ↔ (key, v) ∈ t.rows := by
  unfold get?
  obtain ⟨rows, hnodup⟩ := t
  induction rows with
  | nil => simp
  | cons e rows ih =>
    obtain ⟨k, w⟩ := e
    obtain ⟨hk, hrows⟩ := List.nodup_cons.mp hnodup
    by_cases h : k = key
    · subst h
      have hout : (k, v) ∉ rows := fun hmem => hk (List.mem_map.mpr ⟨_, hmem, rfl⟩)
      simp [hout, eq_comm]
    · simpa [h, Ne.symm h] using ih hrows

theorem isSome_get?_iff {t : Table α β} {key : α} : (t.get? key).isSome ↔ key ∈ t.keys := by
  rw [Option.isSome_iff_exists]
  unfold keys
  rw [List.mem_map]
  constructor
  · rintro ⟨v, hv⟩
    exact ⟨_, get?_eq_some_iff.mp hv, rfl⟩
  · rintro ⟨e, he, rfl⟩
    exact ⟨e.2, get?_eq_some_iff.mpr he⟩

theorem get?_eq_none_iff {t : Table α β} {key : α} : t.get? key = none ↔ key ∉ t.keys := by
  rw [← isSome_get?_iff, Option.not_isSome_iff_eq_none]

/-! ## writing -/

/-- **What is put is found, and all else is as it was.** -/
theorem get?_put (t : Table α β) (key : α) (v : β) (k : α) :
    (t.put key v).get? k = if k = key then some v else t.get? k := by
  show ((putRow key v t.rows).find? fun e => e.1 = k).map (·.2) =
    if k = key then some v else (t.rows.find? fun e => e.1 = k).map (·.2)
  induction t.rows with
  | nil => simp [putRow, eq_comm]
  | cons e rows ih =>
    obtain ⟨k', w⟩ := e
    unfold putRow
    by_cases hkey : k' = key
    · subst hkey
      by_cases hk : k' = k
      · simp [hk]
      · simp [hk, Ne.symm hk]
    · by_cases hk : k' = k
      · subst hk
        simp [hkey]
      · simpa [hkey, hk] using ih

theorem get?_put_self (t : Table α β) (key : α) (v : β) : (t.put key v).get? key = some v := by
  rw [get?_put, if_pos rfl]

theorem get?_erase (t : Table α β) (key k : α) :
    (t.erase key).get? k = if k = key then none else t.get? k := by
  refine Option.ext fun v => ?_
  rw [get?_eq_some_iff]
  show (k, v) ∈ t.rows.filter (fun e => e.1 ≠ key) ↔ _
  rw [List.mem_filter, ← get?_eq_some_iff]
  by_cases h : k = key <;> simp [h]

/-! ## rows -/

theorem putRow_fresh {key : α} {rows : List (α × β)} (h : key ∉ rows.map (·.1)) (v : β) :
    putRow key v rows = rows ++ [(key, v)] := by
  induction rows with
  | nil => rfl
  | cons e rows ih =>
    rw [List.map_cons, List.mem_cons, not_or] at h
    unfold putRow
    rw [if_neg (Ne.symm h.1), ih h.2, List.cons_append]

theorem putRow_known {key : α} {pre : List (α × β)} (h : key ∉ pre.map (·.1))
    (post : List (α × β)) (w v : β) :
    putRow key v (pre ++ (key, w) :: post) = pre ++ (key, v) :: post := by
  induction pre with
  | nil => simp [putRow]
  | cons e pre ih =>
    rw [List.map_cons, List.mem_cons, not_or] at h
    rw [List.cons_append, List.cons_append]
    unfold putRow
    rw [if_neg (Ne.symm h.1), ih h.2]

theorem rows_put_fresh {t : Table α β} {key : α} (h : key ∉ t.keys) (v : β) :
    (t.put key v).rows = t.rows ++ [(key, v)] :=
  putRow_fresh h v

theorem rows_put_known {t : Table α β} {key : α} {w : β} (h : t.get? key = some w) (v : β) :
    ∃ pre post, t.rows = pre ++ (key, w) :: post ∧ key ∉ pre.map (·.1) ∧
      (t.put key v).rows = pre ++ (key, v) :: post := by
  obtain ⟨pre, post, hrows⟩ := List.append_of_mem (get?_eq_some_iff.mp h)
  have hpre : key ∉ pre.map (·.1) := by
    have hnodup := t.nodup
    rw [hrows, List.map_append, List.map_cons] at hnodup
    intro hmem
    exact (List.nodup_append.mp hnodup).2.2 _ hmem _ List.mem_cons_self rfl
  refine ⟨pre, post, hrows, hpre, ?_⟩
  show putRow key v t.rows = _
  rw [hrows, putRow_known hpre]

theorem rows_put_changed {t : Table α β} {key : α} {w : β} (h : t.get? key = some w) (f : β → β) :
    (t.put key (f w)).rows = t.rows.map fun e => if e.1 = key then (e.1, f e.2) else e := by
  obtain ⟨pre, post, hrows, hpre, hput⟩ := rows_put_known h (f w)
  have hpost : key ∉ post.map (·.1) := by
    have hnodup := t.nodup
    rw [hrows, List.map_append, List.map_cons] at hnodup
    exact (List.nodup_cons.mp (List.nodup_append.mp hnodup).2.1).1
  have hsame : ∀ rows : List (α × β), key ∉ rows.map (·.1) →
      rows.map (fun e => if e.1 = key then (e.1, f e.2) else e) = rows := by
    intro rows hkey
    refine (List.map_congr_left fun e he => if_neg fun heq => ?_).trans (List.map_id rows)
    exact hkey (List.mem_map.mpr ⟨e, he, heq⟩)
  rw [hput, hrows, List.map_append, List.map_cons, hsame pre hpre, hsame post hpost, if_pos rfl]

theorem filterMap_get? (t : Table α β) {rows : List (α × β)} (h : rows ⊆ t.rows) :
    (rows.map (·.1)).filterMap t.get? = rows.map (·.2) := by
  induction rows with
  | nil => rfl
  | cons e rows ih =>
    obtain ⟨he, hrows⟩ := List.cons_subset.mp h
    rw [List.map_cons, List.filterMap_cons_some (get?_eq_some_iff.mpr he), ih hrows, List.map_cons]

theorem getLast?_filter (t : Table α β) (key : α) :
    (t.rows.filter fun e => e.1 = key).getLast?.map (·.2) = t.get? key := by
  cases hlast : (t.rows.filter fun e => e.1 = key).getLast? with
  | none =>
    have hnone : ∀ e ∈ t.rows, e.1 ≠ key := by
      simpa [List.filter_eq_nil_iff] using List.getLast?_eq_none_iff.mp hlast
    symm
    rw [Option.map_none, get?_eq_none_iff]
    intro hkey
    obtain ⟨e, he, rfl⟩ := List.mem_map.mp hkey
    exact hnone e he rfl
  | some e =>
    obtain ⟨he, hkey⟩ := List.mem_filter.mp (List.mem_of_getLast? hlast)
    obtain rfl : e.1 = key := of_decide_eq_true hkey
    exact (get?_eq_some_iff.mpr he).symm

theorem lookup_map_rows {γ : Type} (f : β → γ) (t : Table α β) (key : α) :
    (t.rows.map fun e => (e.1, f e.2)).lookup key = (t.get? key).map f := by
  unfold get?
  induction t.rows with
  | nil => rfl
  | cons e rows ih =>
    rw [List.map_cons, List.lookup_cons, ih, List.find?_cons]
    by_cases h : e.1 = key
    · simp [h]
    · have hne : (key == e.1) = false := beq_eq_false_iff_ne.mpr (Ne.symm h)
      simp [h, hne]

theorem lookup_rows (t : Table α β) (key : α) : t.rows.lookup key = t.get? key := by
  have h := t.lookup_map_rows id key
  rw [Option.map_id] at h
  exact (congrArg (List.lookup key) (List.map_id t.rows)).symm.trans h

/-! ## many rows -/

def putAll (t : Table α β) (rows : List (α × β)) : Table α β :=
  rows.foldl (fun t e => t.put e.1 e.2) t

theorem get?_putAll (t : Table α β) (rows : List (α × β)) (key : α) :
    (t.putAll rows).get? key =
      ((rows.filter fun e => e.1 = key).getLast?.map (·.2)).or (t.get? key) := by
  induction rows generalizing t with
  | nil => rfl
  | cons e rows ih =>
    refine (ih (t.put e.1 e.2)).trans ?_
    rw [get?_put, List.filter_cons]
    by_cases h : e.1 = key
    · subst h
      rw [if_pos rfl, if_pos (decide_eq_true rfl), List.getLast?_cons]
      cases (rows.filter fun e' => e'.1 = e.1).getLast? <;> rfl
    · rw [if_neg (Ne.symm h), if_neg (by simpa using h)]

end
end Organism.Table
