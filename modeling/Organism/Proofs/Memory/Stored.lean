import Organism.Memory
import Organism.Proofs.Fallible
import Organism.Proofs.Table

/-!
# What is stored

* `Memory.get?_put`            **what is put is found under its scope and key, and every other entry
                               is what it was**;
* `Memory.get?_delete`         the same for an entry that is deleted;
* `Value.Inside`, `Storable`   what stands in a value at any depth, and that it can all be stored;
* `Value.under?`               what stands in a value under texts, one inside the other;
* `Value.Worded`               a value with the keys of its maps as texts;
* `stored_error`               **a value is refused for something inside it**;
* `storable_of_stored`         **what is stored has nothing of the kind inside**;
* `worded_of_stored`           **what is stored is the value with the keys of its maps as texts**.
-/

namespace Organism

/-! ## entries -/

namespace Memory

/-- **What is put is found, and every other entry is what it was.** -/
theorem get?_put (m : Memory) (scope scope' : Scope) (key key' : String) (v : Value) :
    (m.put scope key v).get? scope' key' =
      if scope' = scope ∧ key' = key then some v else m.get? scope' key' := by
  refine (m.entries.get?_put (scope, key) v (scope', key')).trans ?_
  simp only [Prod.mk.injEq]
  rfl

theorem get?_put_self (m : Memory) (scope : Scope) (key : String) (v : Value) :
    (m.put scope key v).get? scope key = some v :=
  m.entries.get?_put_self (scope, key) v

theorem get?_put_of_ne (m : Memory) {scope scope' : Scope} {key key' : String}
    (h : ¬ (scope' = scope ∧ key' = key)) (v : Value) :
    (m.put scope key v).get? scope' key' = m.get? scope' key' := by
  rw [get?_put, if_neg h]

theorem get?_delete (m : Memory) (scope scope' : Scope) (key key' : String) :
    (m.delete scope key).get? scope' key' =
      if scope' = scope ∧ key' = key then none else m.get? scope' key' := by
  refine (m.entries.get?_erase (scope, key) (scope', key')).trans ?_
  simp only [Prod.mk.injEq]
  rfl

end Memory

/-! ## storable values -/

def Kind.isStorable : Kind → Bool
  | .flag | .whole | .real | .text | .map => true
  | .none | .bytes | .list => false

namespace Value

/-! ## values inside values -/

/-- `u` is the value, or stands in it at some depth -/
inductive Inside (u : Value) : Value → Prop where
  | self : Inside u u
  | item {v : Value} {items : List Value} (hv : v ∈ items) (h : Inside u v) : Inside u (list items)
  | entry {e : Value × Value} {es : List (Value × Value)} (he : e ∈ es) (h : Inside u e.2) :
    Inside u (map es)

def Storable (v : Value) : Prop := ∀ u, Inside u v → u.kind.isStorable = true

/-- what holds of a map if it holds of the values in it, and of all other values, holds of all -/
@[elab_as_elim]
theorem map_induction {P : Value → Prop} (hplain : ∀ v, v.kind ≠ .map → P v)
    (hmap : ∀ es, (∀ e ∈ es, P e.2) → P (map es)) : ∀ v, P v
  | map es => hmap es fun e he =>
    have : sizeOf e.2 < 1 + sizeOf es := by
      have := List.sizeOf_lt_of_mem he
      have : sizeOf e = 1 + sizeOf e.1 + sizeOf e.2 := rfl
      omega
    map_induction hplain hmap e.2
  | none => hplain none nofun
  | flag b => hplain (flag b) nofun
  | whole n => hplain (whole n) nofun
  | real x => hplain (real x) nofun
  | text s => hplain (text s) nofun
  | bytes bs => hplain (bytes bs) nofun
  | list vs => hplain (list vs) nofun
termination_by v => sizeOf v

theorem overwrite_record (key : String) (v : Value) (fields : List (String × Value)) :
    overwrite (fields.map fun e => (text e.1, e.2)) (text key) v =
      (Table.putRow key v fields).map fun e => (text e.1, e.2) := by
  induction fields with
  | nil => rfl
  | cons e fields ih =>
    have hsame : (text e.1 == text key) = (e.1 == key) := rfl
    show (if (text e.1 == text key) = true then _ else _) =
      (if e.1 = key then _ else _ : List _).map _
    rw [hsame, ih]
    by_cases h : e.1 = key <;> simp [h]

section
variable [Rounding]

/-! ## keys as texts -/

/-- the value of a text among entries: that of the last key that reads so -/
def reading? (es : List (Value × Value)) (name : String) : Option Value :=
  (es.filter fun e => e.1.inText = name).getLast?.map (·.2)

/-- what stands in a value under texts, one inside the other -/
def under? : List String → Value → Option Value
  | [], v => some v
  | name :: path, map es => (reading? es name).bind (under? path)
  | _ :: _, _ => Option.none

/-- a value up to what is in it, if it is a map -/
def face : Value → Value
  | map _ => map []
  | v => v

/-- `w` is `v` with the keys of all maps as texts -/
structure Worded (v w : Value) : Prop where
  /-- the same values stand under the same texts -/
  under (path : List String) : (w.under? path).map face = (v.under? path).map face
  keys (es : List (Value × Value)) :
    Inside (map es) w → ∃ t : Table String Value, map es = record t.rows

/-! ## entries of a map -/

def storedRow (e : Value × Value) : Except Fault (String × Value) :=
  e.2.stored.map fun w => (e.1.inText, w)

theorem storedEntries_eq (t : Table String Value) (es : List (Value × Value)) :
    storedEntries (t.rows.map fun e => (text e.1, e.2)) es =
      (es.mapM storedRow).map fun rows => (t.putAll rows).rows.map fun e => (text e.1, e.2) := by
  induction es generalizing t with
  | nil => rfl
  | cons e es ih =>
    obtain ⟨k, v⟩ := e
    have hrow : storedRow (k, v) = v.stored.map fun w => (k.inText, w) := rfl
    rw [storedEntries, List.mapM_cons, hrow]
    cases v.stored with
    | error fault => rfl
    | ok w =>
      show storedEntries (overwrite _ (text k.inText) w) es = _
      rw [overwrite_record]
      refine (ih (t.put k.inText w)).trans ?_
      cases es.mapM storedRow <;> rfl

theorem stored_map (es : List (Value × Value)) :
    (map es).stored =
      (es.mapM storedRow).map fun rows => record (({} : Table String Value).putAll rows).rows := by
  rw [stored]
  refine (congrArg (Except.map map) (storedEntries_eq {} es)).trans ?_
  cases es.mapM storedRow <;> rfl

/-! ## what is refused -/

theorem stored_plain {v : Value} (h : v.kind ≠ .map) :
    v.stored = if v.kind.isStorable then .ok v else .error (.unsupportedEntry v.kind) := by
  cases v with
  | map es => exact absurd rfl h
  | _ => rfl

theorem eq_of_stored_plain {v w : Value} (hv : v.kind ≠ .map) (h : v.stored = .ok w) :
    v.kind.isStorable = true ∧ w = v := by
  rw [stored_plain hv] at h
  split at h
  · next hkind => exact ⟨hkind, (Except.ok.inj h).symm⟩
  · cases h

/-- **A value is refused for something inside it** that is of a type that cannot be stored. -/
theorem stored_error {v : Value} {fault : Fault} (h : v.stored = .error fault) :
    ∃ u, Inside u v ∧ u.kind.isStorable = false ∧ fault = .unsupportedEntry u.kind := by
  induction v using map_induction generalizing fault with
  | hplain v hv =>
    rw [stored_plain hv] at h
    cases hkind : v.kind.isStorable with
    | true =>
      rw [hkind] at h
      cases h
    | false =>
      rw [hkind] at h
      cases h
      exact ⟨v, .self, hkind, rfl⟩
  | hmap es ih =>
    have hentry : ∀ e ∈ es, (∃ row, storedRow e = .ok row ∧ True) ∨
        ∃ fault, storedRow e = .error fault ∧
          ∃ u, Inside u (map es) ∧ u.kind.isStorable = false ∧ fault = .unsupportedEntry u.kind := by
      intro e he
      unfold storedRow
      cases hstored : e.2.stored with
      | ok w => exact .inl ⟨_, rfl, trivial⟩
      | error fault =>
        obtain ⟨u, hu, hkind, hfault⟩ := ih e he hstored
        exact .inr ⟨fault, rfl, u, .entry he hu, hkind, hfault⟩
    rw [stored_map] at h
    rcases mapM_cases hentry with ⟨rows, hrows, -⟩ | ⟨fault', hfault, hcause⟩
    · rw [hrows] at h
      cases h
    · rw [hfault] at h
      cases h
      exact hcause

theorem stored_of_storable {v : Value} (h : v.Storable) : ∃ w, v.stored = .ok w := by
  cases hstored : v.stored with
  | ok w => exact ⟨w, rfl⟩
  | error fault =>
    obtain ⟨u, hu, hkind, -⟩ := stored_error hstored
    rw [h u hu] at hkind
    cases hkind

/-- what is stored of a value; the value itself if nothing can be -/
def kept (v : Value) : Value := v.stored.toOption.getD v

theorem kept_of_stored {v w : Value} (h : v.stored = .ok w) : v.kept = w := by
  unfold kept
  rw [h]
  rfl

theorem entries_of_stored {es : List (Value × Value)} {w : Value} (h : (map es).stored = .ok w) :
    (∀ e ∈ es, e.2.stored = .ok e.2.kept) ∧
      w = record
        (({} : Table String Value).putAll (es.map fun e => (e.1.inText, e.2.kept))).rows := by
  rw [stored_map] at h
  obtain ⟨rows, hrows, rfl⟩ := ok_of_map h
  have hkept : ∀ e row, storedRow e = .ok row → (e.1.inText, e.2.kept) = row := by
    intro e row hrow
    obtain ⟨v, hv, rfl⟩ := ok_of_map hrow
    rw [kept_of_stored hv]
  obtain ⟨hall, rfl⟩ := map_of_mapM hkept hrows
  refine ⟨fun e he => ?_, rfl⟩
  obtain ⟨v, hv, -⟩ := ok_of_map (hall e he)
  rw [kept_of_stored hv, hv]

/-- **What is stored has nothing inside that cannot be stored.** -/
theorem storable_of_stored {v w : Value} (h : v.stored = .ok w) : v.Storable := by
  induction v using map_induction generalizing w with
  | hplain v hv =>
    obtain ⟨hkind, -⟩ := eq_of_stored_plain hv h
    intro u hu
    cases hu with
    | self => exact hkind
    | item => cases hkind
    | entry => exact absurd rfl hv
  | hmap es ih =>
    obtain ⟨hall, -⟩ := entries_of_stored h
    intro u hu
    cases hu with
    | self => rfl
    | entry he hu => exact ih _ he (hall _ he) u hu

/-! ## what is kept -/

theorem reading?_record (t : Table String Value) (name : String) :
    reading? (t.rows.map fun e => (text e.1, e.2)) name = t.get? name := by
  unfold reading?
  rw [List.filter_map, List.getLast?_map, Option.map_map]
  exact t.getLast?_filter name

theorem get?_kept (es : List (Value × Value)) (name : String) :
    (({} : Table String Value).putAll (es.map fun e => (e.1.inText, e.2.kept))).get? name =
      (reading? es name).map kept := by
  unfold reading?
  rw [Table.get?_putAll, Table.get?_empty, Option.or_none, List.filter_map, List.getLast?_map,
    Option.map_map, Option.map_map]
  rfl

theorem mem_of_reading? {es : List (Value × Value)} {name : String} {v : Value}
    (h : reading? es name = some v) : ∃ e ∈ es, e.2 = v := by
  obtain ⟨e, he, rfl⟩ := Option.map_eq_some_iff.mp h
  exact ⟨e, (List.mem_filter.mp (List.mem_of_getLast? he)).1, rfl⟩

theorem under?_of_stored {v w : Value} (h : v.stored = .ok w) (path : List String) :
    (w.under? path).map face = (v.under? path).map face := by
  induction path generalizing v w with
  | nil =>
    induction v using map_induction with
    | hplain v hv => rw [(eq_of_stored_plain hv h).2]
    | hmap es =>
      obtain ⟨-, rfl⟩ := entries_of_stored h
      rfl
  | cons name path ih =>
    induction v using map_induction with
    | hplain v hv => rw [(eq_of_stored_plain hv h).2]
    | hmap es =>
      obtain ⟨hall, rfl⟩ := entries_of_stored h
      show ((reading? (List.map _ _) name).bind (under? path)).map face =
        ((reading? es name).bind (under? path)).map face
      rw [reading?_record, get?_kept]
      cases hread : reading? es name with
      | none => rfl
      | some v =>
        obtain ⟨e, he, rfl⟩ := mem_of_reading? hread
        exact ih (hall e he)

theorem keys_of_stored {v w : Value} (h : v.stored = .ok w) {es : List (Value × Value)}
    (hes : Inside (map es) w) : ∃ t : Table String Value, map es = record t.rows := by
  induction v using map_induction generalizing w with
  | hplain v hv =>
    obtain ⟨hkind, rfl⟩ := eq_of_stored_plain hv h
    cases hes with
    | self => exact absurd rfl hv
    | item => cases hkind
    | entry => exact absurd rfl hv
  | hmap fs ih =>
    obtain ⟨hall, rfl⟩ := entries_of_stored h
    cases hes with
    | self => exact ⟨_, rfl⟩
    | entry hmem hinside =>
      obtain ⟨row, hrow, rfl⟩ := List.mem_map.mp hmem
      have hread := Table.get?_eq_some_iff.mpr hrow
      rw [get?_kept] at hread
      obtain ⟨x, hx, hkept⟩ := Option.map_eq_some_iff.mp hread
      obtain ⟨e, he, rfl⟩ := mem_of_reading? hx
      rw [← hkept] at hinside
      exact ih e he (hall e he) hinside

theorem kind_of_stored {v w : Value} (h : v.stored = .ok w) : w.kind ≠ .none := by
  induction v using map_induction with
  | hplain v hv =>
    obtain ⟨hkind, rfl⟩ := eq_of_stored_plain hv h
    intro hnone
    rw [hnone] at hkind
    cases hkind
  | hmap es =>
    obtain ⟨-, rfl⟩ := entries_of_stored h
    nofun

/-- **What is stored is the value with the keys of its maps as texts.** -/
theorem worded_of_stored {v w : Value} (h : v.stored = .ok w) : v.Worded w :=
  ⟨under?_of_stored h, fun _ => keys_of_stored h⟩

end
end Value
end Organism
