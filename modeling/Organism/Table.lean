/-!
# Tables

Entries under keys, each key once, in the order in which the keys came.

* `Table.get?`     the value of a key;
* `Table.put`      a value written under a key: in the place that the key has, or at the end;
* `Table.erase`    all entries but that of a key.
-/

namespace Organism

/-- entries under keys, each key once -/
structure Table (α β : Type) where
  rows : List (α × β)
  nodup : (rows.map (·.1)).Nodup

namespace Table

variable {α β : Type}

instance : EmptyCollection (Table α β) := ⟨{ rows := [], nodup := List.nodup_nil }⟩

def keys (t : Table α β) : List α := t.rows.map (·.1)

def size (t : Table α β) : Nat := t.rows.length

section
variable [DecidableEq α]

def get? (t : Table α β) (key : α) : Option β := (t.rows.find? fun e => e.1 = key).map (·.2)

/-! ## writing -/

/-- the row of a key replaced in its place, or added at the end -/
def putRow (key : α) (v : β) : List (α × β) → List (α × β)
  | [] => [(key, v)]
  | (k, w) :: rows => if k = key then (k, v) :: rows else (k, w) :: putRow key v rows

theorem mem_keys_putRow {k key : α} {v : β} {rows : List (α × β)} :
    k ∈ (putRow key v rows).map (·.1) ↔ k = key ∨ k ∈ rows.map (·.1) := by
  induction rows with
  | nil => simp [putRow]
  | cons e rows ih =>
    obtain ⟨k', w⟩ := e
    unfold putRow
    by_cases h : k' = key
    · simp [h]
    · rw [if_neg h, List.map_cons, List.map_cons, List.mem_cons, List.mem_cons, ih]
      exact or_left_comm

theorem nodup_putRow {key : α} {v : β} {rows : List (α × β)} (h : (rows.map (·.1)).Nodup) :
    ((putRow key v rows).map (·.1)).Nodup := by
  induction rows with
  | nil => simp [putRow]
  | cons e rows ih =>
    obtain ⟨k, w⟩ := e
    obtain ⟨hk, hrows⟩ := List.nodup_cons.mp h
    unfold putRow
    by_cases he : k = key
    · rw [if_pos he]
      exact h
    · rw [if_neg he]
      refine List.nodup_cons.mpr ⟨fun hmem => ?_, ih hrows⟩
      rcases mem_keys_putRow.mp hmem with hkey | hold
      · exact he hkey
      · exact hk hold

def put (t : Table α β) (key : α) (v : β) : Table α β where
  rows := putRow key v t.rows
  nodup := nodup_putRow t.nodup

def erase (t : Table α β) (key : α) : Table α β where
  rows := t.rows.filter fun e => e.1 ≠ key
  nodup := t.nodup.sublist (List.filter_sublist.map _)

end
end Table
end Organism
