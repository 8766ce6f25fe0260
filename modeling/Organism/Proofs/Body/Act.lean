import Organism.Body

/-!
# What acts lead to

An act is run on a body and ends with a result or a fault, on a body that may have changed either
way.

* `run_bind_ok`, … how the parts of an act are run;
* `Act.Leads`      from every body with `P` a result ends on a body with `Q`, a fault on one with `E`;
* `leads_bind`, …  one rule for every way in which acts are put together;
* `Act.Keeps`      a property that holds after the act whenever it held before, fault or not.
-/

namespace Organism.Act

variable {α β : Type}

/-! ## running -/

section
variable {a : Act α} {b b' : Body} {e : Fault} {x : α}

theorem bind_run {γ δ : Type} {m : StateM Body γ} {k : γ → StateM Body δ} {y : γ}
    (h : m b = (y, b')) : (m >>= k) b = k y b' := by
  show StateT.bind m k b = _
  unfold StateT.bind
  show (have p := m b; _) = _
  rw [h]
  rfl

theorem run_bind_ok {f : α → Act β} (h : a.run b = (.ok x, b')) :
    (a >>= f).run b = (f x).run b' := bind_run (k := ExceptT.bindCont f) h

theorem run_bind_error {f : α → Act β} (h : a.run b = (.error e, b')) :
    (a >>= f).run b = (.error e, b') := bind_run (k := ExceptT.bindCont f) h

theorem run_tryCatch_ok {f : Fault → Act α} (h : a.run b = (.ok x, b')) :
    (tryCatch a f).run b = (.ok x, b') := by
  have hc : (tryCatch a f : Act α) = ExceptT.tryCatch a f := rfl
  rw [hc]
  unfold ExceptT.tryCatch
  exact bind_run h

theorem run_tryCatch_error {f : Fault → Act α} (h : a.run b = (.error e, b')) :
    (tryCatch a f).run b = (f e).run b' := by
  have hc : (tryCatch a f : Act α) = ExceptT.tryCatch a f := rfl
  rw [hc]
  unfold ExceptT.tryCatch
  exact bind_run h

theorem run_ofExcept (r : Except Fault α) (b : Body) : (ofExcept r).run b = (r, b) := by
  cases r <;> rfl

variable {f : Topology → Except Fault (Topology × α)}

theorem run_onTopology_ok {t : Topology} (h : f b.topology = .ok (t, x)) :
    (onTopology f).run b = (.ok x, { b with topology := t }) := by
  have hf : (ofExcept (f b.topology)).run b = (.ok (t, x), b) := by rw [h, run_ofExcept]
  exact (run_bind_ok rfl).trans ((run_bind_ok hf).trans rfl)

theorem run_onTopology_error (h : f b.topology = .error e) :
    (onTopology f).run b = (.error e, b) := by
  have hf : (ofExcept (f b.topology)).run b = (.error e, b) := by rw [h, run_ofExcept]
  exact (run_bind_ok rfl).trans (run_bind_error hf)

end

/-! ## triples -/

def After (Q : α → Body → Prop) (E : Fault → Body → Prop) : Except Fault α × Body → Prop
  | (.ok x, b) => Q x b
  | (.error e, b) => E e b

/-- run on a body with `P`, the act ends with a result and `Q`, or with a fault and `E` -/
structure Leads (P : Body → Prop) (a : Act α) (Q : α → Body → Prop) (E : Fault → Body → Prop) :
    Prop where
  after : ∀ b, P b → After Q E (a.run b)

variable {P P' : Body → Prop} {a : Act α} {Q Q' : α → Body → Prop} {R : β → Body → Prop}
  {E F : Fault → Body → Prop}

/-! ## rules -/

theorem Leads.weaken (h : Leads P a Q E) (hP : ∀ b, P' b → P b) (hQ : ∀ x b, Q x b → Q' x b)
    (hE : ∀ e b, E e b → F e b) : Leads P' a Q' F := by
  refine ⟨fun b hb => ?_⟩
  have hr := h.after b (hP b hb)
  generalize a.run b = r at hr ⊢
  rcases r with ⟨e | x, b'⟩
  · exact hE e b' hr
  · exact hQ x b' hr

theorem Leads.mono_start (h : Leads P a Q E) (hP : ∀ b, P' b → P b) : Leads P' a Q E :=
  h.weaken hP (fun _ _ hb => hb) fun _ _ hb => hb

theorem Leads.mono_result (h : Leads P a Q E) (hQ : ∀ x b, Q x b → Q' x b) : Leads P a Q' E :=
  h.weaken (fun _ hb => hb) hQ fun _ _ hb => hb

theorem Leads.mono_fault (h : Leads P a Q E) (hE : ∀ e b, E e b → F e b) : Leads P a Q F :=
  h.weaken (fun _ hb => hb) (fun _ _ hb => hb) hE

theorem leads_true : Leads P a (fun _ _ => True) fun _ _ => True := by
  refine ⟨fun b _ => ?_⟩
  generalize a.run b = r
  rcases r with ⟨e | x, b'⟩
  · trivial
  · trivial

theorem Leads.run_ok (h : Leads P a Q fun _ _ => False) {b : Body} (hb : P b) :
    ∃ x b', a.run b = (.ok x, b') ∧ Q x b' := by
  have hr := h.after b hb
  generalize a.run b = r at hr ⊢
  rcases r with ⟨e | x, b'⟩
  · exact hr.elim
  · exact ⟨x, b', rfl, hr⟩

theorem Leads.and (h : Leads P a Q E) (h' : Leads P' a Q' F) :
    Leads (fun b => P b ∧ P' b) a (fun x b => Q x b ∧ Q' x b) fun e b => E e b ∧ F e b := by
  refine ⟨fun b hb => ?_⟩
  have hr := h.after b hb.1
  have hr' := h'.after b hb.2
  generalize a.run b = r at hr hr' ⊢
  rcases r with ⟨e | x, b'⟩
  · exact ⟨hr, hr'⟩
  · exact ⟨hr, hr'⟩

/-- a fact that does not depend on the body may be assumed from the start -/
theorem leads_assume {φ : Prop} (h : φ → Leads P a Q E) : Leads (fun b => P b ∧ φ) a Q E :=
  ⟨fun b hb => (h hb.2).after b hb.1⟩

theorem leads_pure {x : α} (h : ∀ b, P b → Q x b) : Leads P (pure x) Q E := ⟨h⟩

theorem leads_throw {e : Fault} (h : ∀ b, P b → E e b) : Leads P (throw e : Act α) Q E := ⟨h⟩

theorem leads_bind {f : α → Act β} (ha : Leads P a Q E) (hf : ∀ x, Leads (Q x) (f x) R E) :
    Leads P (a >>= f) R E := by
  refine ⟨fun b hb => ?_⟩
  have hr := ha.after b hb
  rcases h : a.run b with ⟨e | x, b'⟩
  · rw [h] at hr
    rw [run_bind_error h]
    exact hr
  · rw [h] at hr
    rw [run_bind_ok h]
    exact (hf x).after b' hr

theorem leads_map {f : α → β} (h : Leads P a (fun x => R (f x)) E) : Leads P (f <$> a) R E :=
  leads_bind h fun _ => leads_pure fun _ => id

theorem leads_get {Q : Body → Body → Prop} (h : ∀ b, P b → Q b b) : Leads P (get : Act Body) Q E :=
  ⟨h⟩

theorem leads_update {f : Body → Body} {Q : Unit → Body → Prop} (h : ∀ b, P b → Q () (f b)) :
    Leads P (update f) Q E := ⟨h⟩

theorem leads_ofExcept {r : Except Fault α} (hok : ∀ x, r = .ok x → ∀ b, P b → Q x b)
    (he : ∀ e, r = .error e → ∀ b, P b → E e b) : Leads P (ofExcept r) Q E := by
  cases r with
  | error e => exact ⟨he e rfl⟩
  | ok x => exact ⟨hok x rfl⟩

theorem leads_tryCatch {handler : Fault → Act α} (ha : Leads P a Q F)
    (hh : ∀ e, Leads (F e) (handler e) Q E) : Leads P (tryCatch a handler) Q E := by
  refine ⟨fun b hb => ?_⟩
  have hr := ha.after b hb
  rcases h : a.run b with ⟨e | x, b'⟩
  · rw [h] at hr
    rw [run_tryCatch_error h]
    exact (hh e).after b' hr
  · rw [h] at hr
    rw [run_tryCatch_ok h]
    exact hr

theorem leads_onTopology {f : Topology → Except Fault (Topology × α)}
    (hok : ∀ b, P b → ∀ t x, f b.topology = .ok (t, x) → Q x { b with topology := t })
    (he : ∀ b, P b → ∀ e, f b.topology = .error e → E e b) : Leads P (onTopology f) Q E := by
  refine ⟨fun b hb => ?_⟩
  cases h : f b.topology with
  | error e =>
    rw [run_onTopology_error h]
    exact he b hb e h
  | ok r =>
    obtain ⟨t, x⟩ := r
    rw [run_onTopology_ok h]
    exact hok b hb t x h

theorem leads_ite {c : Prop} [Decidable c] {a' : Act α} (ht : c → Leads P a Q E)
    (hf : ¬ c → Leads P a' Q E) : Leads P (if c then a else a') Q E := by
  split
  · next h => exact ht h
  · next h => exact hf h

/-! ## properties that are kept -/

/-- whatever becomes of the act, the property holds after it if it held before -/
def Keeps (P : Body → Prop) (a : Act α) : Prop := Leads P a (fun _ => P) fun _ => P

theorem Keeps.bind {f : α → Act β} (ha : Keeps P a) (hf : ∀ x, Keeps P (f x)) :
    Keeps P (a >>= f) := leads_bind ha hf

theorem keeps_pure (x : α) : Keeps P (pure x) := leads_pure fun _ => id

theorem keeps_throw (e : Fault) : Keeps P (throw e : Act α) := leads_throw fun _ => id

theorem keeps_get : Keeps P (get : Act Body) := leads_get fun _ => id

theorem keeps_update {f : Body → Body} (h : ∀ b, P b → P (f b)) : Keeps P (update f) :=
  leads_update h

theorem keeps_ofExcept (r : Except Fault α) : Keeps P (ofExcept r) :=
  leads_ofExcept (fun _ _ _ => id) fun _ _ _ => id

theorem Keeps.tryCatch {handler : Fault → Act α} (ha : Keeps P a) (hh : ∀ e, Keeps P (handler e)) :
    Keeps P (tryCatch a handler) := leads_tryCatch ha hh

theorem Keeps.ite {c : Prop} [Decidable c] {a' : Act α} (ha : Keeps P a) (ha' : Keeps P a') :
    Keeps P (if c then a else a') := leads_ite (fun _ => ha) fun _ => ha'

/-- what holds of the body after the act, whatever becomes of it, is kept -/
theorem keeps_of_body (h : ∀ b, P b → P (a.run b).2) : Keeps P a := by
  refine ⟨fun b hb => ?_⟩
  have hr := h b hb
  generalize a.run b = r at hr ⊢
  rcases r with ⟨e | x, b'⟩
  · exact hr
  · exact hr

theorem Leads.body {Q : Body → Prop} (h : Leads P a (fun _ => Q) fun _ => Q) {b : Body}
    (hb : P b) : Q (a.run b).2 := by
  have hr := h.after b hb
  generalize a.run b = r at hr ⊢
  rcases r with ⟨e | x, b'⟩
  · exact hr
  · exact hr

theorem Keeps.body (h : Keeps P a) {b : Body} (hb : P b) : P (a.run b).2 := Leads.body h hb

end Organism.Act
