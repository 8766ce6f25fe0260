import Organism.Daemon
import Organism.Proofs.Body.Coherence

/-!
# Daemons leave coherent bodies behind

* `leads_heartbeat`, `leads_policy`   the daemons that write no health, and never fail;
* `leads_attempt`                     an act whose unavailable readings are only reported;
* `leads_sense`                       the next reading, of the right kind if there is one;
* `leads_apply`                       **a reading is applied without any fault, or it is broken**;
* `keeps_status`                      the status daemon breaks down only before it writes a health,
                                      whatever the readings of the first organ are;
* `spelled_iff`                       the numerals in texts and in bytes are the amounts that are
                                      numbers without fixed places;
* `leads_recovery`                    the recovery of organs takes place for all of them or none,
                                      but its amount may have no fixed places afterwards;
* `leads_simulation`                  what a run of the simulation leaves behind;
* `keeps_simulation`                  awareness that is up to date, if the amounts of recovery are
                                      quantities.
-/

namespace Organism

attribute [local instance] Rounding.binary64

open Act Body

namespace Duty

/-! ## heartbeat -/

theorem leads_heartbeat {P : Body → Prop} (hP : Narrow P) {E : Fault → Body → Prop} :
    Leads P heartbeat (fun _ => P) E := by
  refine leads_bind (leads_quiet hP ?_) fun _ => ?_
  · exact fun _ => ⟨rfl, rfl, rfl⟩
  · exact leads_bind (Q := fun _ => P) (leads_get fun _ h => h) fun _ => leads_publish hP _

/-! ## status -/

section
variable {α : Type} {P N : Body → Prop} {Q : α → Body → Prop} {E : Fault → Body → Prop}

theorem leads_unavailable (hN : Narrow N) (k : OrganKind) (reason : String) (e : Fault) :
    Leads N (unavailable k reason e) (fun _ => N) E :=
  leads_bind (leads_note hN _ _ _) fun _ => leads_publish hN _

theorem leads_attempt (hN : Narrow N) (k : OrganKind) {act : Act α}
    (h : Leads P act Q fun e b => (IsUnavailable e ∧ N b) ∨ (¬ IsUnavailable e ∧ E e b)) :
    Leads P (attempt k act) (fun o b => o.elim (N b) fun x => Q x b) E := by
  refine leads_tryCatch (leads_map h) fun e => ?_
  split
  · next organ reason =>
    refine Leads.mono_start (P := N) ?_ fun b hb => ?_
    · exact leads_bind (leads_unavailable hN k reason _) fun _ => leads_pure fun _ h => h
    · exact hb.elim (fun hb => hb.2) fun hb => absurd ⟨organ, reason, rfl⟩ hb.1
  · next hne =>
    refine leads_throw fun b hb => ?_
    rcases hb with ⟨⟨organ, reason, rfl⟩, -⟩ | ⟨-, hb⟩
    · exact absurd rfl (hne organ reason)
    · exact hb

end

def Fits (k : OrganKind) (reading : Option Reading) : Prop :=
  ∀ r, reading = some r → r.organ = k ∧ r.Numeric

section
variable {I : Senses → Prop} (hI : Senses.Lasting I)
include hI

theorem leads_sense (f : Family) :
    Leads (Attentive I) (sense f)
      (fun r b => b.Attentive I ∧ (f ≠ .cpu → Fits f.organ (some r))) fun _ => Attentive I := by
  unfold sense
  refine leads_bind (Q := fun c b => c = b ∧ b.Attentive I) (leads_get fun b h => ⟨rfl, h⟩)
    fun c => ?_
  dsimp only
  refine leads_bind (Q := fun _ b => b.Attentive I ∧
    ∀ r, f ≠ .cpu → (c.senses.read f).1 = .ok r → r.family = f ∧ r.Numeric)
    (leads_update ?_) fun _ => ?_
  · rintro b ⟨rfl, h⟩
    exact ⟨⟨⟨h.whole, h.aware⟩, hI.read h.senses f⟩, fun r hf => hI.fits h.senses hf⟩
  · refine leads_ofExcept ?_ fun e _ b h => h.1
    intro r hr b h
    refine ⟨h.1, fun hcpu => ?_⟩
    intro r' hr'
    cases hr'
    obtain ⟨hf, hn⟩ := h.2 r hcpu hr
    exact ⟨congrArg Family.organ hf, hn⟩

theorem leads_attempt_sense (k : OrganKind) :
    Leads (Attentive I) (attempt k (sense k.family))
      (fun o b => b.Attentive I ∧ (k ≠ .cortex → Fits k o)) fun _ => Attentive I := by
  have hs := leads_sense hI k.family
  rw [Family.organ_family] at hs
  refine (leads_attempt (narrow_attentive I) k (E := fun _ => Attentive I)
    (hs.mono_fault fun e b hb => ?_)).mono_result ?_
  · by_cases hu : IsUnavailable e
    · exact .inl ⟨hu, hb⟩
    · exact .inr ⟨hu, hb⟩
  · intro o b h
    cases o with
    | none => exact ⟨h, fun _ r hr => (by cases hr)⟩
    | some r =>
      refine ⟨h.1, fun hk => h.2 fun hcpu => hk ?_⟩
      rw [← Family.organ_family k, hcpu]
      rfl

end

section
variable {setup : Setup} (hl : setup.limits.Stepped) {P N C : Body → Prop} (h : Stages P N C)
include hl h

theorem leads_feel (k : OrganKind) (r : Reading) :
    Leads P (feel setup k r) (fun _ => N) fun e b =>
      P b ∧ r.penalties setup.limits k = .error e := by
  refine leads_bind (Q := fun _ => N) (leads_onTopology ?_ ?_) fun c => leads_note h.between _ _ _
  · intro b hb t c hfelt
    have hwritten := (h.whole (h.start hb)).written (Topology.feel_written hfelt)
    exact h.write (h.start hb) hwritten
  · exact fun b hb e hfelt => ⟨hb, feel_error hl (h.whole (h.start hb)) hfelt⟩

/-- **A reading is applied without any fault, unless it is broken.** -/
theorem leads_apply (k : OrganKind) (reading : Option Reading) :
    Leads P (apply setup k reading) (fun _ => N) fun _ b => P b ∧
      ∃ r, reading = some r ∧ r.Broken setup.limits k := by
  unfold apply
  cases reading with
  | none => exact leads_pure fun _ hb => h.start hb
  | some r =>
    refine leads_bind (Q := fun _ => P) (leads_get fun _ hb => hb) fun b => ?_
    refine leads_ite (fun _ => ?_) fun _ => leads_pure fun _ hb => h.start hb
    refine leads_bind (Q := fun _ => N) ?_ fun _ => leads_pure fun _ hb => hb
    refine (leads_attempt h.between k
      (E := fun _ b => P b ∧ ∃ r', some r = some r' ∧ r'.Broken setup.limits k)
      ((leads_feel hl h k r).mono_fault ?_)).mono_result ?_
    · rintro e b ⟨hb, he⟩
      by_cases hu : IsUnavailable e
      · exact .inl ⟨hu, h.start hb⟩
      · exact .inr ⟨hu, hb, r, rfl, e, he, hu⟩
    · intro o b hb
      cases o <;> exact hb

end

section
variable {P : Body → Prop} (hP : Narrow P) {E : Fault → Body → Prop}
include hP

theorem leads_remember (tick : Nat) (cpu memory io : Option Reading) :
    Leads P (remember tick cpu memory io) (fun _ => P) E := by
  refine leads_ite (fun _ => leads_quiet hP ?_) fun _ => leads_pure fun _ h => h
  exact fun _ => ⟨rfl, rfl, rfl⟩

theorem leads_forM_publish (alerts : List Alert) :
    Leads P (alerts.forM fun a => Act.publish (alertMessage a)) (fun _ => P) E := by
  induction alerts with
  | nil => exact leads_pure fun _ h => h
  | cons a alerts ih =>
    show Leads P (Act.publish (alertMessage a) >>= fun _ => alerts.forM _) (fun _ => P) E
    exact leads_bind (leads_publish hP _) fun _ => ih

theorem leads_report (he : ∀ {b}, P b → P b.evaluate.1) (awareness : Number) :
    Leads P (do
      let alerts ← Act.evaluate
      alerts.forM fun a => Act.publish (alertMessage a)
      Act.publish (statusMessage (← get).topology awareness)) (fun _ => P) E := by
  have hevaluate : Leads P Act.evaluate (fun _ => P) E := ⟨fun _ hb => he hb⟩
  refine leads_bind hevaluate fun alerts => ?_
  refine leads_bind (leads_forM_publish hP alerts) fun _ => ?_
  exact leads_bind (Q := fun _ => P) (leads_get fun _ h => h) fun _ => leads_publish hP _

end

/-- **The status daemon leaves a body behind whose awareness is up to date.**  All readings are
taken before the first of them is applied; if that one is broken, nothing has been written, and from
there on nothing fails until the awareness is up to date. -/
theorem keeps_status {setup : Setup} (hl : setup.limits.Accepted) {I : Senses → Prop}
    (hI : Senses.Lasting I) (tick : Nat) : Keeps (Attentive I) (status setup tick) := by
  have hs := stages_attentive I
  have first : ∀ o, Leads (Attentive I) (apply setup .cortex o)
      (fun _ b => b.topology.Whole ∧ I b.senses) fun _ => Attentive I := fun o =>
    (leads_apply hl.stepped hs .cortex o).mono_fault fun _ _ h => h.1
  have later : ∀ {k : OrganKind} {o : Option Reading}, Fits k o →
      Leads (fun b => b.topology.Whole ∧ I b.senses) (apply setup k o)
        (fun _ b => b.topology.Whole ∧ I b.senses) fun _ => Attentive I := by
    intro k o ho
    refine (leads_apply hl.stepped hs.later k o).mono_fault ?_
    rintro e b ⟨-, r, hr, hbroken⟩
    obtain ⟨rfl, hn⟩ := ho r hr
    exact absurd hbroken (not_broken hl hn)
  unfold status
  refine Keeps.bind (keeps_update fun b h => ?_) fun _ => ?_
  · exact ⟨⟨h.whole, h.aware⟩, hI.setLevel h.senses _⟩
  refine leads_bind (leads_attempt_sense hI .cortex) fun cpu => leads_assume fun _ => ?_
  refine leads_bind (leads_attempt_sense hI .memory) fun memory => leads_assume fun hm => ?_
  refine leads_bind (leads_attempt_sense hI .ioBridge) fun io => leads_assume fun hi => ?_
  refine leads_bind (first cpu) fun _ => ?_
  refine leads_bind (later (hm nofun)) fun _ => ?_
  refine leads_bind (later (hi nofun)) fun _ => ?_
  refine leads_bind (leads_remember hs.between _ _ _ _) fun _ => ?_
  refine leads_bind (leads_refresh hs) fun awareness => ?_
  exact leads_report (narrow_attentive I) Attentive.evaluate awareness

/-! ## policy -/

section
variable {P : Body → Prop} (hP : Narrow P) {E : Fault → Body → Prop}
include hP

theorem leads_store (setup : Setup) (scope : Scope) (key : String) (v : Value) :
    Leads P (store setup scope key v) (fun _ => P) E := by
  refine leads_ite (fun _ => leads_quiet hP ?_) fun _ => leads_pure fun _ h => h
  exact fun _ => ⟨rfl, rfl, rfl⟩

theorem leads_setSimLevel (level : SimLevel) :
    Leads P (Act.update fun b => b.setSimLevel level) (fun _ => P) E := by
  refine leads_quiet hP fun b => ?_
  unfold Body.setSimLevel
  dsimp only
  split <;> exact ⟨rfl, rfl, rfl⟩

theorem leads_adopt (p : Policy) (awareness : Number) :
    Leads P (adopt p awareness) (fun _ => P) E := by
  have hset : Leads P (Act.update fun b => b.setPolicy p) (fun _ => P) E :=
    leads_quiet hP fun _ => ⟨rfl, rfl, rfl⟩
  unfold adopt
  refine leads_bind (Q := fun _ => P) (leads_get fun _ h => h) fun b => ?_
  dsimp only
  refine leads_ite (fun _ => ?_) fun _ => hset
  exact leads_bind (leads_note hP _ _ _) fun _ => hset

theorem leads_protect (p : Policy) : Leads P (protect p) (fun _ => P) E := by
  unfold protect
  refine leads_bind (Q := fun _ => P) (leads_get fun _ h => h) fun b => ?_
  exact leads_ite (fun _ => leads_setSimLevel hP _) fun _ => leads_pure fun _ h => h

theorem leads_policy (setup : Setup) : Leads P (policy setup) (fun _ => P) E := by
  unfold policy
  refine leads_bind (Q := fun _ => P) (leads_get fun _ h => h) fun b => ?_
  dsimp only
  refine leads_bind (leads_adopt hP _ _) fun _ => ?_
  refine leads_bind (leads_protect hP _) fun _ => ?_
  refine leads_bind (leads_store hP _ _ _ _) fun _ => ?_
  refine leads_bind (leads_store hP _ _ _ _) fun _ => ?_
  exact leads_publish hP _

end

/-! ## simulation -/

theorem keeps_roll {α : Type} {P : Body → Prop} (hP : Narrow P)
    (draw : Dice → Except Fault α × Dice) : Keeps P (roll draw) := by
  unfold roll
  refine keeps_get.bind fun b => ?_
  dsimp only
  refine Keeps.bind (leads_quiet hP ?_) fun _ => keeps_ofExcept _
  exact fun _ => ⟨rfl, rfl, rfl⟩

/-- the amount of the recovery is a numeral in a text or in bytes -/
def Spelled (i : Intensity) : Prop :=
  (∃ s x, i.recovery = .text s ∧ Number.ofText? s = some x) ∨
    ∃ bs x, i.recovery = .bytes bs ∧ Number.ofBytes? bs = some x

/-- those are the amounts that are read as numbers, but have no fixed places -/
theorem spelled_iff {i : Intensity} : Spelled i ↔
    (∃ x, i.recovery.toNumber = .ok x) ∧ ∃ e, i.recovery.fixed 3 = .error e := by
  constructor
  · rintro (⟨s, x, hv, hs⟩ | ⟨bs, x, hv, hbs⟩)
    · rw [hv]
      exact ⟨⟨x, by rw [Value.toNumber, hs]; rfl⟩, _, rfl⟩
    · rw [hv]
      exact ⟨⟨x, by rw [Value.toNumber, hbs]; rfl⟩, _, rfl⟩
  · rintro ⟨⟨x, hx⟩, e, he⟩
    rcases Value.quantity_of_toNumber hx with ⟨q, hq, hqx⟩ | ⟨s, hv, hs⟩ | ⟨bs, hv, hbs⟩
    · unfold Value.fixed at he
      rw [hq] at he
      dsimp only at he
      rw [hqx] at he
      cases he
    · exact .inl ⟨s, x, hv, hs⟩
    · exact .inr ⟨bs, x, hv, hbs⟩

theorem spelled_of_fixed {i : Intensity} {t : Topology} (ht : t.Whole) {cs : List HealthChange}
    (hcs : (t.recoverBy i.recovery (t.organs.map (·.kind))).2 = .ok cs) {e : Fault}
    (he : i.recovery.fixed 3 = .error e) : Spelled i := by
  obtain ⟨o, ho, -⟩ := ht.organ? .cortex
  cases horgans : t.organs with
  | nil =>
    have hmem := Topology.mem_organs.mpr ⟨_, ho⟩
    rw [horgans] at hmem
    cases hmem
  | cons o os =>
    rw [horgans] at hcs
    exact spelled_iff.mpr ⟨Topology.toNumber_of_recoverBy hcs, e, he⟩

section
variable {P N C : Body → Prop} (h : Stages P N C) {i : Intensity}
include h

theorem leads_fault (setup : Setup) (i : Intensity) :
    Leads P (fault setup i) (fun _ => N) fun _ => P := by
  unfold fault
  refine leads_bind keeps_get fun b => ?_
  dsimp only
  refine leads_bind (keeps_roll h.before _) fun place => ?_
  split
  · exact leads_throw fun _ hb => hb
  · next organ _ =>
    refine leads_bind (keeps_ofExcept _) fun low => ?_
    refine leads_bind (keeps_ofExcept _) fun high => ?_
    refine leads_bind (keeps_roll h.before _) fun amount => ?_
    refine leads_bind (leads_written h fun _ _ _ hw => ?_) fun c => ?_
    · exact Topology.damage_written hw
    · exact leads_bind (leads_store h.between _ _ _ _) fun _ => leads_pure fun _ hb => hb

/-- all organs recover, or none does; an amount without fixed places fails after that -/
theorem leads_recovery (h64 : ∀ x, i.recovery.toNumber = .ok x → x.Is64) :
    Leads P (recovery i) (fun _ => N) fun _ b => P b ∨ (N b ∧ Spelled i) := by
  unfold recovery
  refine leads_bind (Q := fun c b => c = b ∧ P b) (leads_get fun b hb => ⟨rfl, hb⟩) fun c => ?_
  dsimp only
  refine ⟨?_⟩
  rintro b ⟨rfl, hb⟩
  have hw := h.whole (h.start hb)
  rcases Topology.recoverBy_cases hw h64 (c.topology.organs.map (·.kind)) with
    ⟨cs, hcs⟩ | ⟨ht, e, he⟩
  · have hw' : (c.topology.recoverBy i.recovery (c.topology.organs.map (·.kind))).1.Whole :=
      Topology.recoverBy_preserves (fun _ _ hwritten hwhole => hwhole.written hwritten) hw
    have hN := h.write (h.start hb) hw'
    rw [hcs]
    cases hf : i.recovery.fixed 3 with
    | ok text => exact hN
    | error e => exact .inr ⟨hN, spelled_of_fixed hw hcs hf⟩
  · rw [ht, he]
    exact .inl (h.before c _ rfl rfl rfl hb)

theorem leads_event (setup : Setup) (h64 : ∀ x, i.recovery.toNumber = .ok x → x.Is64) :
    Leads P (event setup i) (fun _ => N) fun _ b => P b ∨ (N b ∧ Spelled i) := by
  unfold event
  refine leads_bind ((keeps_roll h.before _).mono_fault fun _ _ => .inl) fun x => ?_
  refine leads_bind ((keeps_ofExcept _).mono_fault fun _ _ => .inl) fun p => ?_
  refine leads_ite (fun _ => ?_) fun _ => leads_recovery h h64
  exact (leads_fault h setup i).mono_fault fun _ _ => .inl

/-- **A run of the simulation leaves the body as it was, or with healths and awareness that are up
to date**, unless the amount of the recovery is a numeral in a text or in bytes. -/
theorem leads_simulation {setup : Setup} (level : SimLevel)
    (h64 : ∀ i, setup.simulation.intensity? level = some i →
      ∀ x, i.recovery.toNumber = .ok x → x.Is64) :
    Leads (fun b => P b ∧ b.bus.simLevel = level) (simulation setup) (fun _ b => P b ∨ C b)
      fun _ b => P b ∨ (N b ∧ ∃ i, setup.simulation.intensity? level = some i ∧ Spelled i) := by
  unfold simulation
  refine leads_bind (Q := fun c b => P b ∧ c.bus.simLevel = level) (leads_get fun _ hb => hb)
    fun c => leads_assume fun hc => ?_
  rw [hc]
  cases hi : setup.simulation.intensity? level with
  | none => exact leads_pure fun _ hb => .inl hb
  | some i =>
    refine leads_bind ((leads_event h setup (h64 i hi)).mono_fault ?_) fun e => ?_
    · exact fun _ _ hb => hb.imp_right fun ⟨hN, hs⟩ => ⟨hN, i, rfl, hs⟩
    refine leads_bind (leads_refresh h) fun _ => ?_
    refine leads_bind (Q := fun _ => C) (leads_get fun _ hb => hb) fun _ => ?_
    exact (leads_publish h.after _).mono_result fun _ _ => .inr

end

theorem intensity_cases {s : SimulationSettings} {level : SimLevel} {i : Intensity}
    (h : s.intensity? level = some i) : i = s.low ∨ i = s.high := by
  cases level with
  | off => cases h
  | low => exact .inl (Option.some.inj h).symm
  | high => exact .inr (Option.some.inj h).symm

/-- **The simulation leaves a body behind whose awareness is up to date.** -/
theorem keeps_simulation {N C : Body → Prop} (h : Stages C N C) {setup : Setup}
    (hlow : setup.simulation.low.recovery.IsNumeric)
    (hhigh : setup.simulation.high.recovery.IsNumeric) : Keeps C (simulation setup) := by
  refine ⟨fun b hb => ?_⟩
  have hn : ∀ i, setup.simulation.intensity? b.bus.simLevel = some i → i.recovery.IsNumeric := by
    intro i hi
    rcases intensity_cases hi with rfl | rfl
    · exact hlow
    · exact hhigh
  refine ((leads_simulation h _ fun i hi _ hx => (hn i hi).is64 hx).weaken
    (fun _ hb => hb) (fun _ _ hb => hb.elim id id) ?_).after b ⟨hb, rfl⟩
  rintro e c (hc | ⟨-, i, hi, hspelled⟩)
  · exact hc
  · obtain ⟨q, x, hq, -⟩ := hn i hi
    rcases hspelled with ⟨s, -, hv, -⟩ | ⟨bs, -, hv, -⟩
    all_goals
      rw [hv] at hq
      cases hq

end Duty

/-! ## runs of daemons -/

/-- whatever becomes of a run of the daemon, the body stays coherent -/
def Daemon.Careful (d : Daemon) : Prop := ∀ tick, Keeps Coherent (d.act tick)

namespace Daemon

variable {d : Daemon} {b : Body}

theorem Careful.run (hd : d.Careful) (tick : Nat) (hb : b.Coherent) :
    (d.run tick b).1.Careful ∧ (d.run tick b).2.1.Coherent := by
  have h := (hd tick).body hb
  unfold Daemon.run
  generalize (d.act tick).run b = r at h
  rcases r with ⟨e | x, b'⟩
  · exact ⟨hd, narrow_coherent b' _ rfl rfl rfl h⟩
  · exact ⟨hd, h⟩

end Daemon
end Organism
