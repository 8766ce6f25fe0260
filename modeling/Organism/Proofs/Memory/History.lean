import Organism.Number.Basic
import Organism.Proofs.Memory.Stored
import Mathlib.Data.Finset.Card
import Mathlib.Data.List.Induction

/-!
# What a working memory remembers

A store is changed by calls, to it or to the views of its scopes.  What it holds after them can be
told from the calls alone.

* `Call`, `Call.on`     the calls, and what each of them does and answers;
* `LastSet`             the value that calls have set last at a place, if they left one there;
* `get?_on`             one call changes the entry of its place only;
* `get?_run`            **a store holds what has been set last**;
* `get?_run_scope`      **the entries of a scope are those that the calls about it leave**;
* `run_faithful`        **a store is faithful to its calls**.
-/

namespace Organism.Memory

/-- a call that changes a store, made to it or to a view of it -/
inductive Call where
  | set (scope : Scope) (key : String) (v : Value)
  | setThrough (view : View) (key : String) (v : Value)
  | delete (scope : Scope) (key : String)

inductive Answer where
  | done
  | failed (fault : Fault)
  | deleted (present : Bool)

namespace Call

def place : Call → Scope × String
  | set scope key _ => (scope, key)
  | setThrough view key _ => (view.scope, key)
  | delete scope key => (scope, key)

/-- the value that a call is to set; none for a call that deletes -/
def value? : Call → Option Value
  | set _ _ v => some v
  | setThrough _ _ v => some v
  | delete .. => none

/-- the call is to set something that cannot be stored -/
def Refused (c : Call) : Prop := ∃ v, c.value? = some v ∧ ¬ v.Storable

theorem refused_iff {c : Call} {v : Value} (h : c.value? = some v) : c.Refused ↔ ¬ v.Storable := by
  simp [Refused, h]

theorem not_refused {c : Call} (h : c.value? = none) : ¬ c.Refused := by
  simp [Refused, h]

variable [Rounding]

def settle (m : Memory) : Except Fault Memory → Memory × Answer
  | .ok m' => (m', .done)
  | .error fault => (m, .failed fault)

def on (m : Memory) : Call → Memory × Answer
  | set scope key v => settle m (m.set? scope key v)
  | setThrough view key v => settle m (view.set? m key v)
  | delete scope key => ((m.pop scope key).1, .deleted (m.pop scope key).2)

def outcome (c : Call) (old : Option Value) : Option Value :=
  match c.value? with
  | some v => v.stored.toOption.or old
  | none => none

end Call

/-- of the calls about the place that were not refused, the last one sets the value -/
def LastSet (calls : List Call) (place : Scope × String) (v : Value) : Prop :=
  ∃ before c after, calls = before ++ c :: after ∧ c.place = place ∧ c.value? = some v ∧
    v.Storable ∧ ∀ d ∈ after, d.place = place → d.Refused

section
variable {calls : List Call} {c : Call} {place : Scope × String} {v : Value}

theorem not_lastSet_nil : ¬ LastSet [] place v := by
  rintro ⟨before, c, after, h, -⟩
  cases before <;> cases h

theorem lastSet_concat :
    LastSet (calls ++ [c]) place v ↔
      c.place = place ∧ c.value? = some v ∧ v.Storable ∨
        LastSet calls place v ∧ (c.place = place → c.Refused) := by
  constructor
  · rintro ⟨before, d, after, hcalls, hplace, hvalue, hv, hafter⟩
    rcases List.eq_nil_or_concat' after with rfl | ⟨after, e, rfl⟩
    · obtain ⟨-, heq⟩ := List.append_inj' hcalls rfl
      cases heq
      exact .inl ⟨hplace, hvalue, hv⟩
    · rw [← List.cons_append, ← List.append_assoc] at hcalls
      obtain ⟨rfl, heq⟩ := List.append_inj' hcalls rfl
      cases heq
      refine .inr ⟨⟨before, d, after, rfl, hplace, hvalue, hv, ?_⟩, ?_⟩
      · exact fun e he => hafter e (List.mem_append_left _ he)
      · exact hafter _ (List.mem_append_right _ List.mem_cons_self)
  · rintro (⟨hplace, hvalue, hv⟩ | ⟨⟨before, d, after, rfl, hplace, hvalue, hv, hafter⟩, hc⟩)
    · exact ⟨calls, c, [], rfl, hplace, hvalue, hv, nofun⟩
    · refine ⟨before, d, after ++ [c], by simp, hplace, hvalue, hv, ?_⟩
      intro e he
      rcases List.mem_append.mp he with he | he
      · exact hafter e he
      · exact List.mem_singleton.mp he ▸ hc

end

/-! ## places -/

def live (m : Memory) : Finset (Scope × String) := ⟨m.entries.keys, m.entries.nodup⟩

theorem mem_live {m : Memory} {p : Scope × String} : p ∈ m.live ↔ (m.get? p.1 p.2).isSome :=
  (Table.isSome_get?_iff (t := m.entries)).symm

theorem card_live (m : Memory) : m.live.card = m.size := List.length_map _

section
variable [Rounding]

/-! ## one call -/

theorem on_of_value {c : Call} {v : Value} (h : c.value? = some v) (m : Memory) :
    c.on m = Call.settle m (v.stored.map (m.put c.place.1 c.place.2)) := by
  cases c with
  | set scope key w =>
    cases h
    rfl
  | setThrough view key w =>
    cases h
    rfl
  | delete => cases h

theorem on_of_storable {c : Call} {v : Value} (h : c.value? = some v) (hv : v.Storable)
    (m : Memory) : (c.on m).2 = .done := by
  obtain ⟨w, hw⟩ := Value.stored_of_storable hv
  rw [on_of_value h, hw]
  rfl

theorem on_of_not_storable {c : Call} {v : Value} (h : c.value? = some v) (hv : ¬ v.Storable)
    (m : Memory) : ∃ u, Value.Inside u v ∧ u.kind.isStorable = false ∧
      c.on m = (m, .failed (.unsupportedEntry u.kind)) := by
  cases hstored : v.stored with
  | ok w => exact absurd (Value.storable_of_stored hstored) hv
  | error fault =>
    obtain ⟨u, hu, hkind, rfl⟩ := Value.stored_error hstored
    refine ⟨u, hu, hkind, ?_⟩
    rw [on_of_value h, hstored]
    rfl

/-- **One call changes the entry of its place only.** -/
theorem get?_on (m : Memory) (c : Call) (scope : Scope) (key : String) :
    (c.on m).1.get? scope key =
      if c.place = (scope, key) then c.outcome (m.get? scope key) else m.get? scope key := by
  unfold Call.outcome
  cases hvalue : c.value? with
  | none =>
    cases c with
    | delete scope' key' =>
      refine (m.get?_delete scope' scope key' key).trans ?_
      simp only [Call.place, Prod.mk.injEq, eq_comm]
    | set => cases hvalue
    | setThrough => cases hvalue
  | some v =>
    rw [on_of_value hvalue]
    dsimp only
    cases v.stored with
    | error fault => exact (ite_self _).symm
    | ok w =>
      refine (m.get?_put c.place.1 scope c.place.2 key w).trans ?_
      simp only [Prod.ext_iff, eq_comm]
      rfl

/-! ## all calls -/

def run (calls : List Call) : Memory := calls.foldl (fun m c => (c.on m).1) {}

theorem run_concat (calls : List Call) (c : Call) : run (calls ++ [c]) = (c.on (run calls)).1 := by
  unfold run
  rw [List.foldl_append]
  rfl

/-- **A store holds what has been set last**, as it is stored. -/
theorem get?_run {calls : List Call} {scope : Scope} {key : String} {w : Value} :
    (run calls).get? scope key = some w ↔
      ∃ v, LastSet calls (scope, key) v ∧ v.stored = .ok w := by
  induction calls using List.reverseRecOn with
  | nil => exact ⟨nofun, fun ⟨_, hv, _⟩ => absurd hv not_lastSet_nil⟩
  | append_singleton calls c ih =>
    rw [run_concat, get?_on]
    simp only [lastSet_concat]
    by_cases hplace : c.place = (scope, key)
    · simp only [hplace, if_true, true_and, true_implies]
      unfold Call.outcome
      cases hvalue : c.value? with
      | none => simp [Call.not_refused hvalue]
      | some u =>
        rw [Call.refused_iff hvalue]
        cases hstored : u.stored with
        | ok w' =>
          have hu := Value.storable_of_stored hstored
          simp [hstored, hu, and_assoc, Except.toOption]
        | error fault =>
          have hu : ¬ u.Storable := by
            intro h
            obtain ⟨w', hw'⟩ := Value.stored_of_storable h
            rw [hw'] at hstored
            cases hstored
          have hnot : ∀ v, ¬ (some u = some v ∧ v.Storable) := by
            rintro v ⟨hv, h⟩
            exact hu (Option.some.inj hv ▸ h)
          simp only [hnot, hu, false_or, not_false_eq_true, and_true]
          rw [hstored]
          exact ih
    · simp [hplace, ih]

theorem get?_of_lastSet {calls : List Call} {scope : Scope} {key : String} {v : Value}
    (h : LastSet calls (scope, key) v) :
    ∃ w, v.Worded w ∧ (run calls).get? scope key = some w := by
  have hv : v.Storable := by
    obtain ⟨-, -, -, -, -, -, hv, -⟩ := h
    exact hv
  obtain ⟨w, hw⟩ := Value.stored_of_storable hv
  exact ⟨w, Value.worded_of_stored hw, get?_run.mpr ⟨v, h, hw⟩⟩

theorem isSome_get?_run {calls : List Call} {scope : Scope} {key : String} :
    ((run calls).get? scope key).isSome ↔ ∃ v, LastSet calls (scope, key) v := by
  rw [Option.isSome_iff_exists]
  constructor
  · rintro ⟨w, hw⟩
    obtain ⟨v, hv, -⟩ := get?_run.mp hw
    exact ⟨v, hv⟩
  · rintro ⟨v, hv⟩
    obtain ⟨w, -, hw⟩ := get?_of_lastSet hv
    exact ⟨w, hw⟩

theorem get_of_not_lastSet {calls : List Call} {scope : Scope} {key : String}
    (h : ∀ v, ¬ LastSet calls (scope, key) v) (default : Value) :
    (run calls).get scope key default = default := by
  have hempty : (run calls).get? scope key = none := by
    rw [← Option.not_isSome_iff_eq_none, isSome_get?_run]
    exact not_exists.mpr h
  exact congrArg (Option.getD · default) hempty

theorem pop_run {calls : List Call} {scope : Scope} {key : String} :
    ((run calls).pop scope key).2 = true ↔ ∃ v, LastSet calls (scope, key) v := by
  rw [← isSome_get?_run]
  show ((((run calls).get? scope key).getD .none).kind != .none) = true ↔ _
  cases hget : (run calls).get? scope key with
  | none => simp [Value.kind]
  | some w =>
    obtain ⟨v, -, hw⟩ := get?_run.mp hget
    have hkind : w.kind ≠ .none := Value.kind_of_stored hw
    simpa using hkind

/-- **The entries of a scope are those that the calls about it leave.** -/
theorem get?_run_scope (calls : List Call) (scope : Scope) (key : String) :
    (run calls).get? scope key =
      (run (calls.filter fun c => c.place.1 = scope)).get? scope key := by
  induction calls using List.reverseRecOn with
  | nil => rfl
  | append_singleton calls c ih =>
    rw [run_concat, get?_on, List.filter_append]
    by_cases hscope : c.place.1 = scope
    · have hone : [c].filter (fun c => c.place.1 = scope) = [c] := by simp [hscope]
      rw [hone, run_concat, get?_on, ih]
    · have hnone : [c].filter (fun c => c.place.1 = scope) = [] := by simp [hscope]
      have hplace : c.place ≠ (scope, key) := fun h => hscope (congrArg Prod.fst h)
      rw [hnone, List.append_nil, if_neg hplace, ih]

/-- **A store is faithful to its calls**, made to it or to views of its scopes.

* Under a scope and a key stands what has been set there last, with the keys of maps as texts; where
  nothing is left, the default takes its place.
* What cannot be stored is refused for something inside it, and the store stays as it was.
* A call that deletes tells whether something was there.
* The size is the number of places where something is left.
* No call about another scope matters to what stands in a scope. -/
theorem run_faithful (calls : List Call) :
    let m := run calls
    (∀ scope key v, LastSet calls (scope, key) v → ∃ w, v.Worded w ∧
      ∀ default, m.get scope key default = w ∧ (View.mk scope).get m key default = w) ∧
    (∀ scope key, (∀ v, ¬ LastSet calls (scope, key) v) → ∀ default,
      m.get scope key default = default ∧ (View.mk scope).get m key default = default) ∧
    (∀ (c : Call) (v : Value), c.value? = some v →
      (v.Storable → (c.on m).2 = .done) ∧
      (¬ v.Storable → ∃ u, Value.Inside u v ∧ u.kind.isStorable = false ∧
        c.on m = (m, .failed (.unsupportedEntry u.kind)) ∧
        (Fault.unsupportedEntry u.kind).label = "TypeError")) ∧
    (∀ scope key, ∃ present, ((Call.delete scope key).on m).2 = .deleted present ∧
      (present = true ↔ ∃ v, LastSet calls (scope, key) v)) ∧
    (∃ places : Finset (Scope × String),
      (∀ p, p ∈ places ↔ ∃ v, LastSet calls p v) ∧ m.size = places.card) ∧
    ∀ scope key, m.get? scope key =
      (run (calls.filter fun c => c.place.1 = scope)).get? scope key := by
  intro m
  refine ⟨?_, ?_, ?_, ?_, ?_, get?_run_scope calls⟩
  · intro scope key v hv
    obtain ⟨w, hworded, hw⟩ := get?_of_lastSet hv
    have hget : ∀ default, m.get scope key default = w := fun default =>
      congrArg (Option.getD · default) hw
    exact ⟨w, hworded, fun default => ⟨hget default, hget default⟩⟩
  · intro scope key hnone default
    have hget := get_of_not_lastSet hnone default
    exact ⟨hget, hget⟩
  · intro c v hvalue
    refine ⟨fun hv => on_of_storable hvalue hv m, fun hv => ?_⟩
    obtain ⟨u, hu, hkind, hfailed⟩ := on_of_not_storable hvalue hv m
    exact ⟨u, hu, hkind, hfailed, rfl⟩
  · exact fun scope key => ⟨_, rfl, pop_run⟩
  · exact ⟨m.live, fun p => mem_live.trans isSome_get?_run, m.card_live.symm⟩

end

section
attribute [local instance] Rounding.binary64

/-- a map whose keys `1` and `"1"` become one, a list inside a map, and two scopes of one name -/
theorem run_faithful_alike :
    let organ : Scope := .organ 1
    let other : Scope := { kind := "organ:1" }
    let given := Value.map [(.whole 1, .flag true), (.text "1", .map [(.none, .whole 2)])]
    let bad := Value.map [(.text "a", .map [(.text "b", .list [])])]
    let calls : List Call :=
      [.set other "load" (.whole 5), .setThrough ⟨organ⟩ "load" given, .delete other "load",
        .set organ "load" bad]
    let m := run calls
    organ.name = other.name ∧ LastSet calls (organ, "load") given ∧
      (∃ w, given.Worded w ∧ m.get organ "load" .none = w) ∧
      m.get other "load" (.text "idle") = .text "idle" ∧
      (∃ u, Value.Inside u bad ∧ u.kind.isStorable = false ∧
        (Call.set organ "load" bad).on m = (m, .failed (.unsupportedEntry u.kind))) ∧
      m.size = 1 := by
  intro organ other given bad calls m
  obtain ⟨hset, hnot, hset?, -, ⟨places, hplaces, hsize⟩, -⟩ := run_faithful calls
  have hgiven : given.Storable :=
    Value.storable_of_stored (w := .map [(.text "1", .map [(.text "None", .whole 2)])]) rfl
  have hbad : ¬ bad.Storable := by
    intro h
    have hlist : Value.Inside (.list []) bad :=
      .entry List.mem_cons_self (.entry List.mem_cons_self .self)
    exact absurd (h _ hlist) (by decide)
  have hlast : LastSet calls (organ, "load") given := by
    refine ⟨[_], _, [_, _], rfl, rfl, rfl, hgiven, ?_⟩
    simp only [List.mem_cons, List.not_mem_nil, or_false, forall_eq_or_imp, forall_eq]
    exact ⟨fun h => absurd h (by decide), fun _ => ⟨bad, rfl, hbad⟩⟩
  have hother : ∀ v, ¬ LastSet calls (other, "load") v := by
    have hnone : ((run calls).get? other "load").isSome = false := rfl
    intro v hv
    rw [isSome_get?_run.mpr ⟨v, hv⟩] at hnone
    cases hnone
  obtain ⟨w, hworded, hw⟩ := hset _ _ _ hlast
  obtain ⟨u, hu, hkind, hfailed, -⟩ := (hset? (.set organ "load" bad) bad rfl).2 hbad
  exact ⟨by decide, hlast, ⟨w, hworded, (hw .none).1⟩, (hnot _ _ hother _).1,
    ⟨u, hu, hkind, hfailed⟩, rfl⟩

end
end Organism.Memory
