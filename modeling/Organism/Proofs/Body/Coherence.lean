import Organism.Body
import Organism.Proofs.Body.Act
import Organism.Proofs.Health.Awareness
import Organism.Proofs.Sense.Proper

/-!
# Bodies whose awareness is that of their healths

A body is aware when its organs are all there, with healths between 0 and 1, and the awareness on
its bus is that of these healths.  It is sound when its organs are all there and its senses are
proper, and coherent when it is aware as well.  Between a write of a health and the next refresh of
the awareness a body is only sound; after every act it has to be coherent again, also when the act
fails.

* `Body.Narrow`                    what these properties depend on;
* `Body.Stages`                    properties before the first write, from there to a refresh, and
                                   after it;
* `stages_coherent`, `stages_aware`   coherent bodies, and aware ones whatever their senses are;
* `Body.Attentive`                 an aware body with senses of which something holds;
* `leads_refresh`                  **a refresh ends the stage between**;
* `keeps_save`                     an act that leaves the healths alone;
* `keeps_restore`                  healths taken over from a file, whatever the file holds.
-/

namespace Organism

attribute [local instance] Rounding.binary64

namespace Body

structure Sound (b : Body) : Prop where
  whole : b.topology.Whole
  senses : b.senses.Proper

structure Coherent (b : Body) : Prop extends Sound b where
  aware : b.topology.awareness = .ok b.bus.awareness

/-- all organs are there, and the awareness is that of their healths -/
structure Aware (b : Body) : Prop where
  whole : b.topology.Whole
  aware : b.topology.awareness = .ok b.bus.awareness

/-- the body is aware, and the property holds of its senses -/
structure Attentive (I : Senses → Prop) (b : Body) : Prop extends Aware b where
  senses : I b.senses

variable {b b' : Body}

theorem Coherent.isAware (h : b.Coherent) : b.Aware := ⟨h.whole, h.aware⟩

theorem coherent_eq : Coherent = Attentive Senses.Proper :=
  funext fun _ => propext ⟨fun h => ⟨h.isAware, h.senses⟩, fun h => ⟨⟨h.whole, h.senses⟩, h.aware⟩⟩

/-- the property depends on the organs, the senses and the awareness only -/
def Narrow (P : Body → Prop) : Prop :=
  ∀ b b', b'.topology = b.topology → b'.senses = b.senses →
    b'.bus.awareness = b.bus.awareness → P b → P b'

theorem narrow_sound : Narrow Sound := by
  intro b b' ht hs _ h
  refine ⟨?_, ?_⟩
  · rw [ht]
    exact h.whole
  · rw [hs]
    exact h.senses

theorem narrow_coherent : Narrow Coherent := by
  intro b b' ht hs ha h
  refine ⟨narrow_sound b b' ht hs ha h.toSound, ?_⟩
  rw [ht, ha]
  exact h.aware

theorem narrow_whole : Narrow fun b => b.topology.Whole := by
  intro b b' ht _ _ h
  show b'.topology.Whole
  rw [ht]
  exact h

theorem narrow_aware : Narrow Aware := by
  intro b b' ht hs ha h
  refine ⟨narrow_whole b b' ht hs ha h.whole, ?_⟩
  rw [ht, ha]
  exact h.aware

theorem narrow_attentive (I : Senses → Prop) : Narrow (Attentive I) := by
  intro b b' ht hs ha h
  refine ⟨narrow_aware b b' ht hs ha h.toAware, ?_⟩
  rw [hs]
  exact h.senses

theorem Sound.withTopology (h : b.Sound) {t : Topology} (ht : t.Whole) :
    Sound { b with topology := t } := ⟨ht, h.senses⟩

theorem aware_setAwareness (h : b.topology.Whole) {x : Number}
    (hx : b.topology.awareness = .ok x) : (b.setAwareness x).Aware := by
  refine ⟨h, ?_⟩
  show b.topology.awareness = .ok x.toUnit
  rw [Number.toUnit_eq_self (h.awareness_inUnit hx)]
  exact hx

theorem Aware.evaluate (h : b.Aware) : b.evaluate.1.Aware := by
  refine ⟨h.whole.evaluate, ?_⟩
  show b.topology.evaluate.1.awareness = _
  rw [Topology.awareness_evaluate h.whole]
  exact h.aware

theorem Attentive.evaluate {I : Senses → Prop} (h : b.Attentive I) : b.evaluate.1.Attentive I :=
  ⟨h.toAware.evaluate, h.senses⟩

/-! ## stages -/

/-- what holds before the first write of a health, from there to a refresh, and after the refresh -/
structure Stages (P N C : Body → Prop) : Prop where
  before : Narrow P
  between : Narrow N
  after : Narrow C
  start : ∀ {b}, P b → N b
  whole : ∀ {b}, N b → b.topology.Whole
  write : ∀ {b t}, N b → t.Whole → N { b with topology := t }
  refresh : ∀ {b x}, N b → b.topology.awareness = .ok x → C (b.setAwareness x)

theorem stages_coherent : Stages Coherent Sound Coherent where
  before := narrow_coherent
  between := narrow_sound
  after := narrow_coherent
  start h := h.toSound
  whole h := h.whole
  write h ht := h.withTopology ht
  refresh h hx := ⟨⟨h.whole, h.senses⟩, (aware_setAwareness h.whole hx).aware⟩

theorem stages_aware : Stages Aware (fun b => b.topology.Whole) Aware where
  before := narrow_aware
  between := narrow_whole
  after := narrow_aware
  start h := h.whole
  whole h := h
  write _ ht := ht
  refresh h hx := aware_setAwareness h hx

theorem stages_attentive (I : Senses → Prop) :
    Stages (Attentive I) (fun b => b.topology.Whole ∧ I b.senses) (Attentive I) where
  before := narrow_attentive I
  between b b' ht hs ha h := by
    refine ⟨narrow_whole b b' ht hs ha h.1, ?_⟩
    rw [hs]
    exact h.2
  after := narrow_attentive I
  start h := ⟨h.whole, h.senses⟩
  whole h := h.1
  write h ht := ⟨ht, h.2⟩
  refresh h hx := ⟨aware_setAwareness h.1 hx, h.2⟩

theorem Stages.later {P N C : Body → Prop} (h : Stages P N C) : Stages N N C where
  before := h.between
  between := h.between
  after := h.after
  start h := h
  whole := h.whole
  write := h.write
  refresh := h.refresh

/-! ## the beginning of a tick -/

section
variable {P : Body → Prop} (hP : Narrow P)
include hP

theorem Narrow.notify (h : P b) (shown : Observer × Pulse) : P (b.notify shown) := by
  unfold Body.notify
  split
  · exact hP b _ rfl rfl rfl h
  · exact hP b _ rfl rfl rfl h
  · split
    · exact h
    · exact hP b _ rfl rfl rfl h

theorem Narrow.advance (h : P b) (tick : Int) : P (b.advance tick) := by
  unfold Body.advance
  dsimp only
  generalize Bus.surfaced _ = shown
  have h0 : P { b with bus := b.bus.advance tick } := hP b _ rfl rfl rfl h
  generalize { b with bus := b.bus.advance tick } = b0 at h0
  induction shown generalizing b0 with
  | nil => exact h0
  | cons s shown ih => exact ih (b0.notify s) (hP.notify h0 s)

end

end Body

namespace Act

open Body

/-! ## acts that leave the healths alone -/

section
variable {P : Body → Prop} (hP : Narrow P) {E : Fault → Body → Prop}
include hP

theorem leads_quiet {f : Body → Body} (h : ∀ b, (f b).topology = b.topology ∧
    (f b).senses = b.senses ∧ (f b).bus.awareness = b.bus.awareness) :
    Leads P (update f) (fun _ => P) E :=
  leads_update fun b => hP b (f b) (h b).1 (h b).2.1 (h b).2.2

theorem leads_note (level : LogLevel) (source : LogSource) (text : String) :
    Leads P (note level source text) (fun _ => P) E :=
  leads_quiet hP fun _ => ⟨rfl, rfl, rfl⟩

theorem leads_publish (m : Message) : Leads P (publish m) (fun _ => P) E :=
  leads_quiet hP fun _ => ⟨rfl, rfl, rfl⟩

end

theorem keeps_save {P : Body → Prop} (hP : Narrow P) (path : FilePath) :
    Keeps P (saveState path) := by
  unfold saveState
  refine keeps_get.bind fun b => ?_
  dsimp only
  refine Keeps.bind (leads_quiet hP ?_) fun _ => ?_
  · exact fun _ => ⟨rfl, rfl, rfl⟩
  split
  · exact leads_note hP _ _ _
  · exact keeps_throw _
  · exact keeps_throw _

section
variable {P N C : Body → Prop}

theorem leads_written {α : Type} (h : Stages P N C)
    {f : Topology → Except Fault (Topology × α)}
    (hf : ∀ t t' x, f t = .ok (t', x) → t.Written t') :
    Leads P (onTopology f) (fun _ => N) fun _ => P := by
  apply leads_onTopology
  · intro b hb t x ht
    exact h.write (h.start hb) ((h.whole (h.start hb)).written (hf _ _ _ ht))
  · exact fun _ hb _ _ => hb

/-! ## the awareness brought up to date -/

/-- **A refresh ends the stage between the writes and the refresh.** -/
theorem leads_refresh (h : Stages P N C) {E : Fault → Body → Prop} :
    Leads N refreshAwareness (fun _ => C) E := by
  refine ⟨fun b hb => ?_⟩
  obtain ⟨x, hx, -⟩ := (h.whole hb).awareness
  have hf : (ofExcept b.topology.awareness).run b = (.ok x, b) := by
    rw [hx]
    rfl
  have hr : refreshAwareness.run b = (.ok x, b.setAwareness x) :=
    (run_bind_ok rfl).trans ((run_bind_ok hf).trans rfl)
  rw [hr]
  exact h.refresh hb hx

theorem keeps_refresh (h : Stages C N C) : Keeps C refreshAwareness :=
  (leads_refresh h).mono_start fun _ hb => h.start hb

/-! ## files -/

theorem leads_restoreBytes (h : Stages P N C) (bytes : List UInt8) :
    Leads P (restoreBytes bytes) (fun _ => N) fun _ => P := by
  apply leads_onTopology
  · intro b hb t m hload
    rcases Topology.loadSource_cases b.topology (.bytes bytes) with ⟨e, he⟩ | ⟨t', m', hl, hld⟩
    · change b.topology.loadBytes bytes = _ at he
      rw [he] at hload
      cases hload
    · change b.topology.loadBytes bytes = _ at hl
      rw [hl] at hload
      cases hload
      exact h.write (h.start hb) ((h.whole (h.start hb)).loaded hld)
  · intro b hb e _
    exact hb

theorem leads_loadState (h : Stages P N C) (path : FilePath) :
    Leads P (loadState path) (fun _ => N) fun _ => P := by
  unfold loadState
  refine leads_bind keeps_get fun b => ?_
  split
  · exact leads_throw fun _ hb => hb
  · refine leads_bind (leads_note h.before _ _ _) fun _ => ?_
    exact leads_pure fun b hb => h.start hb
  · exact leads_throw fun _ hb => hb
  · refine leads_bind (leads_restoreBytes h _) fun values => ?_
    exact leads_bind (leads_note h.between _ _ _) fun _ => leads_pure fun _ hb => hb

theorem keeps_takeOver (h : Stages C N C) (path : FilePath) : Keeps C (takeOver path) :=
  leads_bind (leads_loadState h path) fun _ => leads_bind (leads_refresh h) fun _ => keeps_pure _

/-- **Healths are taken over from a file together with their awareness, or not at all.** -/
theorem keeps_restore (h : Stages C N C) (path : FilePath) : Keeps C (restore path) := by
  refine (keeps_takeOver h path).tryCatch fun e => ?_
  refine Keeps.ite ?_ (keeps_throw e)
  exact Keeps.bind (leads_note h.after _ _ _) fun _ => keeps_pure _

end

end Act
end Organism
