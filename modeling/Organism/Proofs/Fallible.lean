import Organism.Fault
import Mathlib.Data.List.Forall2

/-!
# Calculations that may fail

* `ok_of_isOk`, `ok_of_toOption`   the result of a calculation that succeeds;
* `ok_of_elim`          the value that an option has;
* `ok_of_bind`, `ok_of_map`   a sequence that succeeds, taken apart;
* `error_of_map`, `error_of_bind`   one that fails, in its first part or in what follows;
* `foldlM_preserves`    an invariant of one step is one of the whole fold;
* `foldlM_ok`           a fold whose steps all succeed;
* `mapM_cases`          how a list of calculations ends, from how each of them may end;
* `forall₂_of_mapM`, `map_of_mapM`   the results of a list of calculations, one by one.
-/

namespace Organism

variable {ε α β : Type}

theorem ok_of_isOk {r : Except ε α} (h : r.isOk = true) : ∃ a, r = .ok a := by
  cases r with
  | error e => cases h
  | ok a => exact ⟨a, rfl⟩

theorem ok_of_toOption {r : Except ε α} {a : α} (h : r.toOption = some a) : r = .ok a := by
  cases r with
  | error e => cases h
  | ok b =>
    cases h
    rfl

theorem isOk_mapError {δ : Type} (f : ε → δ) (r : Except ε α) :
    (r.mapError f).isOk = r.isOk := by
  cases r <;> rfl

theorem ok_of_elim {o : Option α} {e : ε} {a : α} (h : o.elim (.error e) Except.ok = .ok a) :
    o = some a := by
  cases o with
  | none => cases h
  | some b => exact congrArg some (Except.ok.inj h)

theorem ok_of_bind {x : Except ε α} {f : α → Except ε β} {b : β} (h : (x >>= f) = .ok b) :
    ∃ a, x = .ok a ∧ f a = .ok b := by
  cases x with
  | error e => cases h
  | ok a => exact ⟨a, rfl, h⟩

theorem ok_of_map {x : Except ε α} {f : α → β} {b : β} (h : x.map f = .ok b) :
    ∃ a, x = .ok a ∧ f a = b := by
  cases x with
  | error e => cases h
  | ok a => exact ⟨a, rfl, Except.ok.inj h⟩

theorem error_of_map {x : Except ε α} {f : α → β} {e : ε} (h : x.map f = .error e) :
    x = .error e := by
  cases x with
  | error e' => exact congrArg Except.error (Except.error.inj h)
  | ok a => cases h

theorem error_of_bind {x : Except ε α} {f : α → Except ε β} {e : ε} (h : (x >>= f) = .error e) :
    x = .error e ∨ ∃ a, x = .ok a ∧ f a = .error e := by
  cases x with
  | error e' =>
    cases h
    exact .inl rfl
  | ok a => exact .inr ⟨a, rfl, h⟩

theorem foldlM_preserves {f : β → α → Except ε β} {P : β → Prop}
    (hf : ∀ b a b', P b → f b a = .ok b' → P b') {as : List α} {b b' : β} (h : P b)
    (e : as.foldlM f b = .ok b') : P b' := by
  induction as generalizing b with
  | nil =>
    cases e
    exact h
  | cons a as ih =>
    rw [List.foldlM_cons] at e
    obtain ⟨b1, h1, e⟩ := ok_of_bind e
    exact ih (hf b a b1 h h1) e

theorem foldlM_ok {f : β → α → Except ε β} {as : List α}
    (h : ∀ a ∈ as, ∀ b, ∃ b', f b a = .ok b') (b : β) : ∃ b', as.foldlM f b = .ok b' := by
  induction as generalizing b with
  | nil => exact ⟨b, rfl⟩
  | cons a as ih =>
    obtain ⟨b1, h1⟩ := h a (List.mem_cons_self ..) b
    rw [List.foldlM_cons, h1]
    exact ih (fun c hc => h c (List.mem_cons_of_mem _ hc)) b1

/-- if every calculation ends with a result of one sort or an error of another, so do all together -/
theorem mapM_cases {f : α → Except ε β} {P : β → Prop} {E : ε → Prop} {as : List α}
    (h : ∀ a ∈ as, (∃ b, f a = .ok b ∧ P b) ∨ ∃ e, f a = .error e ∧ E e) :
    (∃ bs, as.mapM f = .ok bs ∧ ∀ b ∈ bs, P b) ∨ ∃ e, as.mapM f = .error e ∧ E e := by
  induction as with
  | nil =>
    refine .inl ⟨[], rfl, ?_⟩
    intro b hb
    cases hb
  | cons a as ih =>
    rw [List.mapM_cons]
    rcases h a (List.mem_cons_self ..) with ⟨b, hb, hP⟩ | ⟨e, he, hE⟩
    · rw [hb]
      rcases ih fun c hc => h c (List.mem_cons_of_mem _ hc) with ⟨bs, hbs, hPs⟩ | ⟨e, he, hE⟩
      · rw [hbs]
        exact .inl ⟨b :: bs, rfl, List.forall_mem_cons.mpr ⟨hP, hPs⟩⟩
      · rw [he]
        exact .inr ⟨e, rfl, hE⟩
    · rw [he]
      exact .inr ⟨e, rfl, hE⟩

theorem forall₂_of_mapM {f : α → Except ε β} {as : List α} {bs : List β}
    (h : as.mapM f = .ok bs) : List.Forall₂ (fun a b => f a = .ok b) as bs := by
  induction as generalizing bs with
  | nil =>
    cases h
    exact .nil
  | cons a as ih =>
    rw [List.mapM_cons] at h
    obtain ⟨b, hb, h⟩ := ok_of_bind h
    obtain ⟨bs', hbs, h⟩ := ok_of_bind h
    cases h
    exact .cons hb (ih hbs)

theorem map_of_mapM {f : α → Except ε β} {g : α → β} (hg : ∀ a b, f a = .ok b → g a = b)
    {as : List α} {bs : List β} (h : as.mapM f = .ok bs) :
    (∀ a ∈ as, f a = .ok (g a)) ∧ bs = as.map g := by
  induction as generalizing bs with
  | nil =>
    cases h
    exact ⟨nofun, rfl⟩
  | cons a as ih =>
    rw [List.mapM_cons] at h
    obtain ⟨b, hb, h⟩ := ok_of_bind h
    obtain ⟨bs', hbs, h⟩ := ok_of_bind h
    cases h
    obtain ⟨hall, rfl⟩ := ih hbs
    obtain rfl := hg a b hb
    exact ⟨List.forall_mem_cons.mpr ⟨hb, hall⟩, rfl⟩

end Organism
