import Organism.Proofs.Daemon.Frame
import Organism.Proofs.Memory.Stored

/-!
# The decision

One daemon decides: it makes the awareness on the bus a policy, turns the simulation off if the core
has to be protected, and remembers the policy and the awareness.  No other act has to do with the
policy, or with what is remembered of it.

* `ofAwareness_protect`    the core is protected below the least awareness of the tier `impaired`;
* `Body.Decided`           what the daemon that decides has done: the policy, and the level for it;
* `Body.Recorded`          the policy and what is remembered of it are those for an awareness;
* `policy_decides`, `policy_records`   **the daemon does both, and never fails**;
* `Body.Upheld`            the policy and what is remembered stay, but for the last faults;
* `upholds_of_touches`, `upholds_simulation`   **all other acts uphold them**.
-/

namespace Organism

attribute [local instance] Rounding.binary64

open Act Body

theorem Policy.ofAwareness_protect {x : Number} (hx : x.InUnit) :
    ofAwareness x = .protectCore ↔ x < Tier.impairedFrom := by
  have himpaired : Tier.impairedFrom = .finite Tier.impairedFrom.value := by decide +kernel
  have hdegraded : Tier.degradedFrom = .finite Tier.degradedFrom.value := by decide +kernel
  have hok : Tier.okFrom = .finite Tier.okFrom.value := by decide +kernel
  have hle : Tier.impairedFrom.value ≤ Tier.degradedFrom.value ∧
      Tier.degradedFrom.value ≤ Tier.okFrom.value := by decide +kernel
  obtain ⟨q, rfl, -, -⟩ := hx
  unfold ofAwareness
  rw [himpaired, hdegraded, hok]
  simp only [Number.le_finite, Number.lt_finite]
  generalize Tier.impairedFrom.value = a at hle
  generalize Tier.degradedFrom.value = b at hle
  generalize Tier.okFrom.value = c at hle
  obtain ⟨hab, hbc⟩ := hle
  by_cases ha : a ≤ q
  · rw [if_pos ha]
    constructor
    · intro h
      split at h
      · cases h
      · split at h
        · cases h
        · cases h
    · exact fun h => absurd ha (not_le.mpr h)
  · have hb : ¬ b ≤ q := fun h => ha (hab.trans h)
    have hc : ¬ c ≤ q := fun h => hb (hbc.trans h)
    rw [if_neg ha, if_neg hb, if_neg hc]
    exact ⟨fun _ => not_le.mp ha, fun _ => rfl⟩

/-- the policy is the one for the awareness, and the level is off if the core has to be protected -/
structure Body.Decided (b b' : Body) : Prop where
  policy : b'.bus.policy = .ofAwareness b.bus.awareness
  level : b'.bus.simLevel =
    if Policy.ofAwareness b.bus.awareness = .protectCore then .off else b.bus.simLevel

namespace Body

/-- the policy and what is remembered of it are those for the awareness -/
structure Recorded (a : Number) (b : Body) : Prop where
  policy : b.bus.policy = .ofAwareness a
  label : b.memory.get? .everywhere "ai.policy" = some (.text (Named.label (Policy.ofAwareness a)))
  awareness : b.memory.get? .everywhere "ai.awareness" = some (.real a)

structure Undecided (b : Body) : Prop where
  policy : b.bus.policy = .pushCapacity
  memory : ∀ scope, b.memory.get? scope "ai.policy" = none ∧
    b.memory.get? scope "ai.awareness" = none

structure Upheld (b b' : Body) : Prop where
  policy : b'.bus.policy = b.bus.policy
  memory : ∀ scope key, key ≠ "sim.last_fault" →
    b'.memory.get? scope key = b.memory.get? scope key

end Body

/-! ## what the daemon that decides does -/

namespace Duty

variable {b : Body} {p : Policy} {level : SimLevel}

def Settled (p : Policy) (level : SimLevel) (b : Body) : Prop :=
  b.bus.policy = p ∧ b.bus.simLevel = level

theorem adopt_settles (p : Policy) (awareness : Number) (level : SimLevel) :
    Leads (fun b => b.bus.simLevel = level) (adopt p awareness) (fun _ => Settled p level)
      fun _ _ => False := by
  have hset : Leads (fun b => b.bus.simLevel = level) (Act.update fun b => b.setPolicy p)
      (fun _ => Settled p level) fun _ _ => False := leads_update fun b h => ⟨rfl, h⟩
  unfold adopt
  refine leads_bind (Q := fun _ b => b.bus.simLevel = level) (leads_get fun _ h => h) fun _ => ?_
  refine leads_ite (fun _ => ?_) fun _ => hset
  exact leads_bind (Q := fun _ b => b.bus.simLevel = level) (leads_update fun _ h => h)
    fun _ => hset

theorem protect_settles (p : Policy) (level : SimLevel) :
    Leads (Settled p level) (protect p)
      (fun _ => Settled p (if p = .protectCore then .off else level)) fun _ _ => False := by
  unfold protect
  refine leads_bind (Q := fun c b => Settled p level b ∧ c.bus.simLevel = level)
    (leads_get fun b h => ⟨h, h.2⟩) fun c => leads_assume fun hc => ?_
  refine leads_ite (fun h => leads_update ?_) fun h => leads_pure ?_
  · rintro b ⟨hpolicy, -⟩
    have hp : p = .protectCore := of_decide_eq_true (Bool.and_eq_true_iff.mp h).1
    obtain ⟨journal, hb⟩ := b.setSimLevel_eq .off
    rw [hb, if_pos hp]
    exact ⟨hpolicy, rfl⟩
  · rintro b ⟨hpolicy, hlevel⟩
    refine ⟨hpolicy, hlevel.trans ?_⟩
    split
    · next hp =>
      by_contra hoff
      refine h (Bool.and_eq_true_iff.mpr ⟨decide_eq_true hp, decide_eq_true ?_⟩)
      rw [hc]
      exact hoff
    · rfl

theorem keeps_settled_store (setup : Setup) (scope : Scope) (key : String) (v : Value) :
    Leads (Settled p level) (store setup scope key v) (fun _ => Settled p level)
      fun _ _ => False :=
  leads_ite (fun _ => leads_update fun _ h => h) fun _ => leads_pure fun _ h => h

theorem policy_decides (setup : Setup) (b : Body) :
    Leads (fun b' => b' = b) (policy setup) (fun _ => b.Decided) fun _ _ => False := by
  unfold policy
  refine leads_bind (Q := fun c b' => b'.bus.simLevel = b.bus.simLevel ∧ c = b) ?_ fun c => ?_
  · refine leads_get ?_
    rintro b' rfl
    exact ⟨rfl, rfl⟩
  refine leads_assume ?_
  rintro rfl
  refine leads_bind (adopt_settles _ _ _) fun _ => ?_
  refine leads_bind (protect_settles _ _) fun _ => ?_
  refine leads_bind (keeps_settled_store setup _ _ _) fun _ => ?_
  refine leads_bind (keeps_settled_store setup _ _ _) fun _ => ?_
  exact leads_update fun b' h => ⟨h.1, h.2⟩

theorem leads_stored {setup : Setup} (hr : setup.remembers = true) {P : Body → Prop}
    {Q : Unit → Body → Prop} {E : Fault → Body → Prop} {scope : Scope} {key : String} {v : Value}
    (h : ∀ c, P c → Q () { c with memory := c.memory.put scope key v }) :
    Leads P (store setup scope key v) Q E := by
  unfold store
  rw [if_pos hr]
  exact leads_update h

theorem policy_remembers {setup : Setup} (hr : setup.remembers = true) (b : Body) :
    Leads (fun b' => b' = b) (policy setup)
      (fun _ b' => b'.memory.get? .everywhere "ai.policy" =
          some (.text (Named.label (Policy.ofAwareness b.bus.awareness))) ∧
        b'.memory.get? .everywhere "ai.awareness" = some (.real b.bus.awareness))
      fun _ _ => True := by
  unfold policy
  refine leads_bind (Q := fun c _ => True ∧ c = b) (leads_get fun _ h => ⟨trivial, h⟩) fun c => ?_
  refine leads_assume ?_
  rintro rfl
  refine leads_bind leads_true fun _ => ?_
  refine leads_bind leads_true fun _ => ?_
  refine leads_bind (Q := fun _ b' => b'.memory.get? .everywhere "ai.policy" =
    some (.text (Named.label (Policy.ofAwareness c.bus.awareness))))
    (leads_stored hr ?_) fun _ => ?_
  · exact fun b' _ => b'.memory.get?_put_self ..
  refine leads_bind (leads_stored hr ?_) fun _ => leads_update fun _ h => h
  intro b' h
  exact ⟨(b'.memory.get?_put_of_ne (by decide) _).trans h, b'.memory.get?_put_self ..⟩

/-- **The decision is recorded**, whatever the policy was before. -/
theorem policy_records {setup : Setup} (hr : setup.remembers = true) (b : Body) :
    Leads (fun b' => b' = b) (policy setup) (fun _ => Recorded b.bus.awareness)
      fun _ _ => False :=
  ((policy_decides setup b).and (policy_remembers hr b)).weaken (fun _ h => ⟨h, h⟩)
    (fun _ _ h => ⟨h.1.policy, h.2.1, h.2.2⟩) fun _ _ h => h.1

end Duty

/-! ## what all others leave as it is -/

namespace Body

variable {b b' : Body}

theorem Upheld.recorded (h : b.Upheld b') {a : Number} (hb : b.Recorded a) : b'.Recorded a where
  policy := h.policy.trans hb.policy
  label := (h.memory _ _ (by decide)).trans hb.label
  awareness := (h.memory _ _ (by decide)).trans hb.awareness

theorem Upheld.undecided (h : b.Upheld b') (hb : b.Undecided) : b'.Undecided where
  policy := h.policy.trans hb.policy
  memory scope := ⟨(h.memory scope _ (by decide)).trans (hb.memory scope).1,
    (h.memory scope _ (by decide)).trans (hb.memory scope).2⟩

theorem upheld_refl (b : Body) : b.Upheld b := ⟨rfl, fun _ _ _ => rfl⟩

theorem Upheld.trans (h : b.Upheld b') {c : Body} (h' : b'.Upheld c) : b.Upheld c :=
  ⟨h'.policy.trans h.policy, fun scope key hk =>
    (h'.memory scope key hk).trans (h.memory scope key hk)⟩

theorem Change.upheld {p : Part} (h : Change p b b') (hp : p ≠ .policy) (hm : p ≠ .memory) :
    b.Upheld b' := by
  cases h with
  | policy => exact absurd rfl hp
  | memory => exact absurd rfl hm
  | time h =>
    have hpolicy : b'.bus.policy = b.bus.policy := congrArg (fun b => b.bus.policy) h
    have hmemory : b'.memory = b.memory := congrArg (fun b => b.memory) h
    exact ⟨hpolicy, fun _ _ _ => by rw [hmemory]⟩
  | _ => exact ⟨rfl, fun _ _ _ => rfl⟩

end Body

/-- **An act that changes neither policy nor memory upholds the decision.** -/
theorem upholds_of_touches {α : Type} {S : List Part} {a : Act α} (h : Touches S a)
    (hp : .policy ∉ S) (hm : .memory ∉ S) (b : Body) : Keeps b.Upheld a := by
  refine h.keeps fun p hS c c' hc hb => hb.trans (hc.upheld ?_ ?_)
  · rintro rfl
    exact hp hS
  · rintro rfl
    exact hm hS

namespace Duty

theorem upholds_store (setup : Setup) (scope : Scope) (v : Value) (b : Body) :
    Keeps b.Upheld (store setup scope "sim.last_fault" v) := by
  refine Keeps.ite (keeps_update fun c hc => hc.trans ⟨rfl, fun scope' key hk => ?_⟩) (keeps_pure _)
  exact c.memory.get?_put_of_ne (fun h => hk h.2) v

theorem upholds_roll {α : Type} (draw : Dice → Except Fault α × Dice) (b : Body) :
    Keeps b.Upheld (roll draw) :=
  upholds_of_touches (touches_roll (S := [.dice]) (by decide) draw) (by decide) (by decide) b

theorem upholds_fault (setup : Setup) (i : Intensity) (b : Body) :
    Keeps b.Upheld (fault setup i) := by
  unfold fault
  refine keeps_get.bind fun c => ?_
  refine (upholds_roll _ b).bind fun place => ?_
  split
  · exact keeps_throw _
  · refine (keeps_ofExcept _).bind fun low => ?_
    refine (keeps_ofExcept _).bind fun high => ?_
    refine (upholds_roll _ b).bind fun amount => ?_
    refine Keeps.bind ?_ fun c => (upholds_store setup _ _ b).bind fun _ => keeps_pure _
    exact upholds_of_touches (touches_moved (S := [.health]) (by decide) fun _ _ _ =>
      Topology.damage_moved) (by decide) (by decide) b

theorem upholds_event (setup : Setup) (i : Intensity) (b : Body) :
    Keeps b.Upheld (event setup i) := by
  unfold event
  refine (upholds_roll _ b).bind fun x => (keeps_ofExcept _).bind fun p => ?_
  refine Keeps.ite (upholds_fault setup i b) ?_
  exact upholds_of_touches (touches_recovery (S := [.health]) (by decide) i) (by decide)
    (by decide) b

/-- **The simulation upholds the decision**, though it writes into the same memory. -/
theorem upholds_simulation (setup : Setup) (b : Body) : Keeps b.Upheld (simulation setup) := by
  unfold simulation
  refine keeps_get.bind fun c => ?_
  split
  · exact keeps_pure _
  · next i _ =>
    refine (upholds_event setup i b).bind fun e => ?_
    refine Keeps.bind (upholds_of_touches (touches_refresh (S := [.awareness]) (by decide))
      (by decide) (by decide) b) fun _ => keeps_get.bind fun _ => ?_
    exact upholds_of_touches (touches_publish (S := [.pulses]) (by decide) _) (by decide)
      (by decide) b

end Duty
end Organism
