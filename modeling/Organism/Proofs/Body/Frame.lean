import Organism.Body
import Organism.Proofs.Anatomy.Moves
import Organism.Proofs.Body.Act

/-!
# What acts leave alone

A body has parts, and an act changes some of them only, whether it ends with a result or a fault.

* `Part`, `Body.Change`    the parts, and the elementary changes of each;
* `Body.core`              what passing time leaves alone;
* `Body.Course`            any number of changes of given parts;
* `Course.preserves`       **what every single change preserves, a course preserves**;
* `Body.Bounded`           healths and awareness are between 0 and 1, which no change ends;
* `Body.Savable`           all organs are there, with healths that can be stored: the same;
* `Act.Touches`            the act is a course of changes of given parts, with one rule for every
                           way in which acts are put together.
-/

namespace Organism

attribute [local instance] Rounding.binary64

/-- what an act may change -/
inductive Part where
  | health
  | alerts
  | awareness
  | policy
  | simLevel
  | verbosity
  | memory
  | files
  | senses
  | dice
  | readings
  | beats
  | pulses
  | notes
  | time
deriving DecidableEq

namespace Body

/-! ## changes -/

def core (b : Body) : Body :=
  { b with
    bus := { b.bus with published := 0, tick := 0, pending := [], inbox := [], history := [] }
    stopped := false
    journal := []
    seen := []
    console := [] }

theorem topology_of_core {b b' : Body} (h : b'.core = b.core) : b'.topology = b.topology :=
  congrArg (fun b => b.topology) h

/-- an elementary change of one part -/
inductive Change : Part → Body → Body → Prop
  | move {b : Body} {t : Topology} :
    b.topology.Moved t → Change .health b { b with topology := t }
  | load {b : Body} {t : Topology} {bytes : List UInt8} {m : List (OrganKind × Number)} :
    b.topology.loadBytes bytes = .ok (t, m) → Change .health b { b with topology := t }
  | evaluate (b : Body) : Change .alerts b b.evaluate.1
  | awareness (b : Body) (x : Number) : Change .awareness b (b.setAwareness x)
  | policy (b : Body) (p : Policy) : Change .policy b (b.setPolicy p)
  | simLevel (b : Body) (level : SimLevel) (journal : List LogRecord) :
    Change .simLevel b { b with bus := { b.bus with simLevel := level }, journal }
  | verbosity (b : Body) (v : Verbosity) : Change .verbosity b (b.setVerbosity v)
  | memory (b : Body) (memory : Memory) : Change .memory b { b with memory }
  | files (b : Body) (files : FileSystem) : Change .files b { b with files }
  | senses (b : Body) (senses : Senses) : Change .senses b { b with senses }
  | dice (b : Body) (dice : Dice) : Change .dice b { b with dice }
  | readings (b : Body) (readings : Option Readings) : Change .readings b { b with readings }
  | beats (b : Body) (beats : Nat) : Change .beats b { b with beats }
  | publish (b : Body) (m : Message) : Change .pulses b (b.publish m)
  | note (b : Body) (level : LogLevel) (source : LogSource) (text : String) :
    Change .notes b (b.note level source text)
  | time {b b' : Body} : b'.core = b.core → Change .time b b'

/-- any number of changes of the parts -/
def Course (S : List Part) : Body → Body → Prop :=
  Relation.ReflTransGen fun b b' => ∃ p ∈ S, Change p b b'

variable {S : List Part} {p : Part} {b b' : Body}

/-- **What every change of the parts preserves, a course of them preserves.** -/
theorem Course.preserves {P : Body → Prop} (hP : ∀ p ∈ S, ∀ b b', Change p b b' → P b → P b')
    (h : Course S b b') (hb : P b) : P b' := by
  induction h with
  | refl => exact hb
  | tail _ hc ih =>
    obtain ⟨p, hp, hc⟩ := hc
    exact hP p hp _ _ hc ih

theorem Course.same {α : Type} {f : Body → α}
    (hf : ∀ p ∈ S, ∀ b b', Change p b b' → f b' = f b) (h : Course S b b') : f b' = f b :=
  h.preserves (P := fun c => f c = f b) (fun p hp c c' hc hb => (hf p hp c c' hc).trans hb) rfl

theorem Course.mono {T : List Part} (h : Course S b b') (hST : S ⊆ T) : Course T b b' := by
  refine Relation.ReflTransGen.mono ?_ _ _ h
  rintro c c' ⟨p, hp, hc⟩
  exact ⟨p, hST hp, hc⟩

theorem course_moves (hS : .health ∈ S) {t : Topology}
    (h : Relation.ReflTransGen Topology.Moved b.topology t) :
    Course S b { b with topology := t } := by
  induction h with
  | refl => exact .refl
  | tail _ hm ih => exact ih.tail ⟨.health, hS, .move hm⟩

/-! ## parts that stay the same -/

theorem Course.simLevel (h : Course S b b') (hS : .simLevel ∉ S) :
    b'.bus.simLevel = b.bus.simLevel := by
  refine h.same (f := fun b => b.bus.simLevel) ?_
  intro p hp c c' hc
  cases hc with
  | simLevel level journal => exact absurd hp hS
  | time h => exact congrArg (fun b => b.bus.simLevel) h
  | _ => rfl

theorem Course.files (h : Course S b b') (hS : .files ∉ S) : b'.files = b.files := by
  refine h.same ?_
  intro p hp c c' hc
  cases hc with
  | files files => exact absurd hp hS
  | time h => exact congrArg (fun b => b.files) h
  | _ => rfl

theorem Course.awareness (h : Course S b b') (hS : .awareness ∉ S) :
    b'.bus.awareness = b.bus.awareness := by
  refine h.same (f := fun b => b.bus.awareness) ?_
  intro p hp c c' hc
  cases hc with
  | awareness => exact absurd hp hS
  | time h => exact congrArg (fun b => b.bus.awareness) h
  | _ => rfl

theorem Course.topology (h : Course S b b') (hh : .health ∉ S) (ha : .alerts ∉ S) :
    b'.topology = b.topology := by
  refine h.same ?_
  intro p hp c c' hc
  cases hc with
  | move hm => exact absurd hp hh
  | load hl => exact absurd hp hh
  | evaluate => exact absurd hp ha
  | time h => exact topology_of_core h
  | _ => rfl

/-! ## what no change ends -/

theorem Change.awareness_inUnit (hc : Change p b b') (h : b.bus.awareness.InUnit) :
    b'.bus.awareness.InUnit := by
  cases hc with
  | awareness => exact Number.inUnit_toUnit _
  | time hb =>
    have ha : b'.bus.awareness = b.bus.awareness := congrArg (fun b => b.bus.awareness) hb
    exact ha ▸ h
  | _ => exact h

theorem Course.awareness_inUnit (hc : Course S b b') (h : b.bus.awareness.InUnit) :
    b'.bus.awareness.InUnit :=
  hc.preserves (P := fun b => b.bus.awareness.InUnit)
    (fun _ _ _ _ hc h => hc.awareness_inUnit h) h

/-- healths and awareness are between 0 and 1 -/
structure Bounded (b : Body) : Prop where
  healths : b.topology.Each Number.InUnit
  awareness : b.bus.awareness.InUnit

theorem Bounded.change (h : b.Bounded) (hc : Change p b b') : b'.Bounded := by
  have hP : ∀ x : Number, x.Is64 → x.toUnit.InUnit := fun x _ => Number.inUnit_toUnit x
  refine ⟨?_, hc.awareness_inUnit h.awareness⟩
  cases hc with
  | move hm => exact h.healths.moved hP hm
  | load hl => exact h.healths.loaded hP (Topology.loaded_of_loadBytes hl)
  | evaluate => exact h.healths.evaluate
  | time hb => exact topology_of_core hb ▸ h.healths
  | _ => exact h.healths

theorem Bounded.course (h : b.Bounded) (hc : Course S b b') : b'.Bounded :=
  hc.preserves (fun _ _ _ _ hc h => h.change hc) h

theorem Change.whole (hc : Change p b b') (h : b.topology.Whole) : b'.topology.Whole := by
  cases hc with
  | move hm => exact h.written hm.written
  | load hl => exact h.loaded (Topology.loaded_of_loadBytes hl)
  | evaluate => exact h.evaluate
  | time hb => exact topology_of_core hb ▸ h
  | _ => exact h

theorem Course.whole (hc : Course S b b') (h : b.topology.Whole) : b'.topology.Whole :=
  hc.preserves (P := fun b => b.topology.Whole) (fun _ _ _ _ hc h => hc.whole h) h

/-- all organs are there, with healths that can be stored -/
structure Savable (b : Body) : Prop where
  whole : b.topology.Whole
  stored : b.topology.Each Number.IsHealth

theorem Savable.change (h : b.Savable) (hc : Change p b b') : b'.Savable := by
  have hP : ∀ x : Number, x.Is64 → x.toUnit.IsHealth := fun _ hx => hx.isHealth_toUnit
  refine ⟨hc.whole h.whole, ?_⟩
  cases hc with
  | move hm => exact h.stored.moved hP hm
  | load hl => exact h.stored.loaded hP (Topology.loaded_of_loadBytes hl)
  | evaluate => exact h.stored.evaluate
  | time hb => exact topology_of_core hb ▸ h.stored
  | _ => exact h.stored

theorem Savable.course (h : b.Savable) (hc : Course S b b') : b'.Savable :=
  hc.preserves (fun _ _ _ _ hc h => h.change hc) h

theorem setSimLevel_eq (b : Body) (level : SimLevel) :
    ∃ journal,
      b.setSimLevel level = { b with bus := { b.bus with simLevel := level }, journal } := by
  unfold setSimLevel
  dsimp only
  split <;> exact ⟨_, rfl⟩

end Body

/-! ## acts -/

namespace Act

open Body

variable {α β : Type} {S T : List Part} {a : Act α}

/-- whatever becomes of the act, it is a course of changes of the parts -/
def Touches (S : List Part) (a : Act α) : Prop := ∀ b, Keeps (Course S b) a

theorem Touches.course (h : Touches S a) (b : Body) : Course S b (a.run b).2 := (h b).body .refl

theorem Touches.keeps (h : Touches S a) {P : Body → Prop}
    (hP : ∀ p ∈ S, ∀ b b', Change p b b' → P b → P b') : Keeps P a :=
  keeps_of_body fun b hb => (h.course b).preserves hP hb

theorem touches_of_course (h : ∀ b, Course S b (a.run b).2) : Touches S a :=
  fun _ => keeps_of_body fun c hc => hc.trans (h c)

theorem Touches.mono (h : Touches S a) (hST : S ⊆ T) : Touches T a :=
  touches_of_course fun b => (h.course b).mono hST

theorem touches_pure (x : α) : Touches S (pure x) := fun _ => keeps_pure x

theorem touches_throw (e : Fault) : Touches S (throw e : Act α) := fun _ => keeps_throw e

theorem touches_get : Touches S (get : Act Body) := fun _ => keeps_get

theorem touches_ofExcept (r : Except Fault α) : Touches S (ofExcept r) := fun _ => keeps_ofExcept r

theorem Touches.bind {f : α → Act β} (ha : Touches S a) (hf : ∀ x, Touches S (f x)) :
    Touches S (a >>= f) := fun b => (ha b).bind fun x => hf x b

theorem Touches.map {f : α → β} (ha : Touches S a) : Touches S (f <$> a) :=
  ha.bind fun _ => touches_pure _

theorem Touches.tryCatch {handler : Fault → Act α} (ha : Touches S a)
    (hh : ∀ e, Touches S (handler e)) : Touches S (tryCatch a handler) :=
  fun b => (ha b).tryCatch fun e => hh e b

theorem Touches.ite {c : Prop} [Decidable c] {a' : Act α} (ha : Touches S a)
    (ha' : Touches S a') : Touches S (if c then a else a') := fun b => (ha b).ite (ha' b)

theorem touches_update {p : Part} (hp : p ∈ S) {f : Body → Body} (hf : ∀ b, Change p b (f b)) :
    Touches S (update f) := fun _ => keeps_update fun c h => h.tail ⟨p, hp, hf c⟩

theorem touches_note (hS : .notes ∈ S) (level : LogLevel) (source : LogSource) (text : String) :
    Touches S (note level source text) := touches_update hS fun b => .note b level source text

theorem touches_publish (hS : .pulses ∈ S) (m : Message) : Touches S (publish m) :=
  touches_update hS fun b => .publish b m

theorem touches_setSimLevel (hS : .simLevel ∈ S) (level : SimLevel) :
    Touches S (update fun b => b.setSimLevel level) := by
  refine touches_update hS fun b => ?_
  obtain ⟨journal, h⟩ := b.setSimLevel_eq level
  rw [h]
  exact .simLevel b level journal

theorem touches_onTopology {f : Topology → Except Fault (Topology × α)}
    (hf : ∀ b t x, f b.topology = .ok (t, x) → Course S b { b with topology := t }) :
    Touches S (onTopology f) := by
  intro b
  apply leads_onTopology
  · intro c hc t x h
    exact hc.trans (hf c t x h)
  · intro c hc e _
    exact hc

theorem touches_moved (hS : .health ∈ S) {f : Topology → Except Fault (Topology × α)}
    (hf : ∀ t t' x, f t = .ok (t', x) → t.Moved t') : Touches S (onTopology f) :=
  touches_onTopology fun b t x h => .single ⟨.health, hS, .move (hf b.topology t x h)⟩

theorem touches_refresh (hS : .awareness ∈ S) : Touches S refreshAwareness := by
  unfold refreshAwareness
  refine touches_get.bind fun b => ?_
  refine (touches_ofExcept _).bind fun x => ?_
  refine Touches.bind (touches_update hS ?_) fun _ => touches_pure _
  exact fun b => .awareness b x

theorem touches_evaluate (hS : .alerts ∈ S) : Touches S evaluate :=
  touches_of_course fun b => .single ⟨.alerts, hS, .evaluate b⟩

/-! ## files -/

theorem touches_saveState (hf : .files ∈ S) (hn : .notes ∈ S) (path : FilePath) :
    Touches S (saveState path) := by
  unfold saveState
  refine touches_get.bind fun b => ?_
  dsimp only
  refine Touches.bind (touches_update hf ?_) fun _ => ?_
  · exact fun c => .files c _
  split
  · exact touches_note hn _ _ _
  · exact touches_throw _
  · exact touches_throw _

theorem touches_restoreBytes (hS : .health ∈ S) (bytes : List UInt8) :
    Touches S (restoreBytes bytes) := by
  refine touches_onTopology fun b t m h => ?_
  have hl : b.topology.loadBytes bytes = .ok (t, m) := by
    cases hr : b.topology.loadBytes bytes with
    | error e =>
      rw [hr] at h
      cases h
    | ok r =>
      rw [hr] at h
      cases h
      rfl
  exact .single ⟨.health, hS, .load hl⟩

theorem touches_loadState (hS : .health ∈ S) (hn : .notes ∈ S) (path : FilePath) :
    Touches S (loadState path) := by
  unfold loadState
  refine touches_get.bind fun b => ?_
  split
  · exact touches_throw _
  · exact (touches_note hn _ _ _).bind fun _ => touches_pure _
  · exact touches_throw _
  · refine (touches_restoreBytes hS _).bind fun values => ?_
    exact (touches_note hn _ _ _).bind fun _ => touches_pure _

theorem touches_restore (path : FilePath) :
    Touches [.health, .awareness, .notes] (restore path) := by
  have htake : Touches [.health, .awareness, .notes] (takeOver path) := by
    refine (touches_loadState (by decide) (by decide) path).bind fun values => ?_
    exact (touches_refresh (by decide)).bind fun _ => touches_pure _
  refine htake.tryCatch fun e => ?_
  refine Touches.ite ?_ (touches_throw e)
  exact (touches_note (by decide) _ _ _).bind fun _ => touches_pure _

end Act
end Organism
