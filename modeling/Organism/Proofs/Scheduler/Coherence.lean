import Organism.Proofs.Command.Coherence
import Organism.Proofs.Scheduler.Handling
import Organism.Proofs.Scheduler.Parts
import Organism.Proofs.Settings.Accepted

/-!
# Awareness over whole runs

The awareness on the bus is a copy of something that can be calculated from the healths, and a
snapshot holds another copy.  Neither is ever out of date between two operations on a scheduler.

* `Snapshot.Faithful`    the awareness in a snapshot is the one of the healths in it;
* `Scheduler.Coherent`   what every operation preserves: a coherent body, careful daemons, and a
                         faithful snapshot;
* `Coherent.step`        **one tick preserves it, whatever fails in the tick**;
* `build_coherent`       it holds of a new organism with accepted settings;
* `awareness_coherent`   and so of every organism, after any operations in any order.
-/

namespace Organism

attribute [local instance] Rounding.binary64

open Act

/-! ## snapshots -/

/-- the awareness in the snapshot is the one of the three healths in it -/
def Snapshot.Faithful (s : Snapshot) : Prop :=
  ∃ c m i, s.healths = [(.cortex, c), (.memory, m), (.ioBridge, i)] ∧
    s.awareness = awarenessOf c m i

theorem Snapshot.take_faithful {b : Body} (h : b.Aware) (tick : Int) :
    (take b.topology b.bus tick).Faithful := by
  obtain ⟨c, hc, -⟩ := h.whole.organ? .cortex
  obtain ⟨m, hm, -⟩ := h.whole.organ? .memory
  obtain ⟨i, hi, -⟩ := h.whole.organ? .ioBridge
  have horgans : b.topology.organs = [c, m, i] := by
    show List.filterMap b.topology.organ? [.cortex, .memory, .ioBridge] = _
    rw [List.filterMap_cons_some hc, List.filterMap_cons_some hm, List.filterMap_cons_some hi]
    rfl
  refine ⟨c.health, m.health, i.health, ?_, ?_⟩
  · show (b.topology.organs.map view).map (fun o => (o.kind, o.health)) = _
    rw [horgans, ← Topology.kind_of_organ? hc, ← Topology.kind_of_organ? hm,
      ← Topology.kind_of_organ? hi]
    rfl
  · have ha := h.aware
    rw [Topology.awareness_eq hc hm hi] at ha
    exact (Except.ok.inj ha).symm

namespace Scheduler

/-! ## operations -/

theorem runDue_coherent (tick : Nat) {ds : List Daemon} {b : Body} (hd : ∀ d ∈ ds, d.Careful)
    (hb : b.Coherent) :
    (∀ d ∈ (runDue tick ds b).1, d.Careful) ∧ (runDue tick ds b).2.1.Coherent := by
  induction ds generalizing b with
  | nil => exact ⟨hd, hb⟩
  | cons d ds ih =>
    have hds : ∀ d ∈ ds, d.Careful := fun e he => hd e (List.mem_cons_of_mem d he)
    have hd0 : d.Careful := hd d List.mem_cons_self
    unfold runDue
    split
    · obtain ⟨hd', hb'⟩ := hd0.run tick hb
      obtain ⟨hs, hb''⟩ := ih hds hb'
      exact ⟨List.forall_mem_cons.mpr ⟨hd', hs⟩, hb''⟩
    · obtain ⟨hs, hb'⟩ := ih hds hb
      exact ⟨List.forall_mem_cons.mpr ⟨hd0, hs⟩, hb'⟩

/-- what every operation on a scheduler preserves -/
structure Coherent (s : Scheduler) : Prop where
  body : s.body.Coherent
  daemons : ∀ d ∈ s.daemons, d.Careful
  snapshot : s.snapshot.Faithful

variable {s : Scheduler}

/-- **One tick preserves coherence, whatever fails in the tick.** -/
theorem Coherent.step (h : s.Coherent) : s.step.Coherent := by
  obtain ⟨hd, hb⟩ := runDue_coherent (s.clock + 1) h.daemons
    (Body.narrow_coherent.advance h.body (s.clock + 1 : Nat))
  have hq := Queue.keeps_drain (q := s.queue)
    (fun w _ => Command.keeps_handle Body.stages_coherent s.setup w.2)
    (fun b _ _ _ => Body.narrow_coherent b _ rfl rfl rfl) hb
  exact ⟨hq, hd, Snapshot.take_faithful hq.isAware _⟩

theorem Coherent.withBody (h : s.Coherent) {b : Body} (hb : b.Coherent) :
    Coherent { s with body := b } := ⟨hb, h.daemons, h.snapshot⟩

theorem Coherent.note (h : s.Coherent) (level : LogLevel) (source : LogSource) (text : String) :
    (s.note level source text).Coherent :=
  h.withBody (Body.narrow_coherent s.body _ rfl rfl rfl h.body)

theorem Coherent.ticks (h : s.Coherent) (limit done : Nat) : (ticks limit done s).1.Coherent := by
  induction limit generalizing done s with
  | zero => exact h
  | succ limit ih =>
    unfold Scheduler.ticks
    split
    · exact h
    · exact ih h.step (done + 1)

theorem Coherent.run (h : s.Coherent) (limit : Nat) : (s.run limit).1.Coherent := by
  have hbody : Body.Coherent { s.body with stopped := false } :=
    Body.narrow_coherent s.body _ rfl rfl rfl h.body
  have hbegin : s.begin.Coherent := (h.withBody hbody).note _ _ _
  exact (hbegin.ticks limit 0).note _ _ _

theorem Coherent.act {α : Type} {a : Act α} (h : s.Coherent) (ha : Keeps Body.Coherent a) :
    (s.act a).2.Coherent := h.withBody (ha.body h.body)

/-! ## runs -/

/-- what can be done to a scheduler, and what can happen around it -/
inductive Event where
  | step
  | run (limit : Nat)
  | submit (r : Request)
  | cancel (id : Nat)
  | restore (path : FilePath)
  | outside (files : FileSystem) (dice : Dice)

def apply (s : Scheduler) : Event → Scheduler
  | .step => s.step
  | .run limit => (s.run limit).1
  | .submit r => (s.submit r).1
  | .cancel id => (s.cancel id).1
  | .restore path => (s.act (Act.restore path)).2
  | .outside files dice => { s with body := { s.body with files, dice } }

def applyAll (s : Scheduler) (events : List Event) : Scheduler := events.foldl apply s

theorem Coherent.apply (h : s.Coherent) (e : Event) : (s.apply e).Coherent := by
  cases e with
  | step => exact h.step
  | run limit => exact h.run limit
  | submit r => exact ⟨h.body, h.daemons, h.snapshot⟩
  | cancel id => exact ⟨h.body, h.daemons, h.snapshot⟩
  | restore path => exact h.act (keeps_restore Body.stages_coherent path)
  | outside files dice => exact h.withBody (Body.narrow_coherent s.body _ rfl rfl rfl h.body)

theorem Coherent.applyAll (h : s.Coherent) (events : List Event) : (s.applyAll events).Coherent := by
  induction events generalizing s with
  | nil => exact h
  | cons e events ih => exact ih (h.apply e)

end Scheduler

/-! ## new organisms -/

theorem standardDaemons_careful {setup : Setup} (hl : setup.limits.Accepted)
    (hlow : setup.simulation.low.recovery.IsNumeric)
    (hhigh : setup.simulation.high.recovery.IsNumeric) {s : SchedulerSettings} {ds : List Daemon}
    (h : standardDaemons setup s = .ok ds) : ∀ d ∈ ds, d.Careful := by
  refine standardDaemons_each h (P := fun act => ∀ tick, Keeps Body.Coherent (act tick)) ?_ ?_ ?_ ?_
  · exact fun _ => Duty.leads_heartbeat Body.narrow_coherent
  · intro tick
    rw [Body.coherent_eq]
    exact Duty.keeps_status hl Senses.lasting_proper tick
  · exact fun _ => Duty.leads_policy Body.narrow_coherent setup
  · exact fun _ => Duty.keeps_simulation Body.stages_coherent hlow hhigh

theorem bodyOf_aware {s : Settings} {t : Topology} {senses : Senses} {files : FileSystem}
    {b : Body} (ht : t.Whole) (h : bodyOf s t senses files = .ok b) :
    b.Aware ∧ b.senses = senses := by
  obtain ⟨length, x, seed, -, hx, -, rfl⟩ := bodyOf_cases h
  refine ⟨⟨ht, ?_⟩, rfl⟩
  show t.awareness = .ok x.toUnit
  rw [Number.toUnit_eq_self (ht.awareness_inUnit hx)]
  exact hx

theorem bodyOf_coherent {s : Settings} {t : Topology} {senses : Senses} {files : FileSystem}
    {b : Body} (ht : t.Whole) (hs : senses.Proper) (h : bodyOf s t senses files = .ok b) :
    b.Coherent := by
  obtain ⟨haware, hsenses⟩ := bodyOf_aware ht h
  exact ⟨⟨haware.whole, hsenses ▸ hs⟩, haware.aware⟩

namespace Scheduler

variable {settings : Settings} {t : Topology} {senses : Senses} {files : FileSystem} {s : Scheduler}

/-- an organism with accepted settings is coherent before its first tick -/
theorem build_coherent (hc : Settings.check settings = .ok ()) (hn : settings.Numeric)
    (ht : t.Whole) (hs : senses.Proper)
    (h : build settings (setupOf settings) t senses files = .ok s) : s.Coherent := by
  obtain ⟨body, daemons, hbody, hdaemons, rfl⟩ := build_cases h
  have hb := bodyOf_coherent ht hs hbody
  exact ⟨hb, standardDaemons_careful (Settings.accepted hc hn) hn.low hn.high hdaemons,
    Snapshot.take_faithful hb.isAware 0⟩

/-- **The awareness is never out of date.**  After any operations in any order, the awareness on the
bus is the one of the healths, and the awareness in the snapshot is the one of the healths in it. -/
theorem awareness_coherent (hc : Settings.check settings = .ok ()) (hn : settings.Numeric)
    (ht : t.Whole) (hs : senses.Proper)
    (h : build settings (setupOf settings) t senses files = .ok s) (events : List Event) :
    (s.applyAll events).body.topology.awareness = .ok (s.applyAll events).body.bus.awareness ∧
      (s.applyAll events).snapshot.Faithful := by
  have hall := (build_coherent hc hn ht hs h).applyAll events
  exact ⟨hall.body.aware, hall.snapshot⟩

/-- an organism in which all is as usual, damaged and repaired -/
theorem awareness_coherent_standard :
    ∃ s, build .standard (setupOf .standard) (.sample 1) (.script (fun _ f => .ok f.nominal) 0) {} =
        .ok s ∧
      let events : List Event :=
        [.submit { operation := .damage, organ := some .cortex, amount := some 0.25 }, .step,
          .restore (.ofString "state"), .run 3]
      (s.applyAll events).body.topology.awareness = .ok (s.applyAll events).body.bus.awareness ∧
        (s.applyAll events).snapshot.Faithful := by
  have hbuilt : (build .standard (setupOf .standard) (.sample 1)
      (.script (fun _ f => .ok f.nominal) 0) {}).isOk = true := by decide +kernel
  obtain ⟨s, h⟩ := ok_of_isOk hbuilt
  have hs : Senses.Proper (.script (fun _ f => .ok f.nominal) 0) := by
    intro n f r hr
    cases hr
    exact ⟨nominal_family f, nominal_numeric f⟩
  exact ⟨s, h, awareness_coherent Settings.standard_check Settings.standard_numeric
    (Topology.sample_whole Number.inUnit_one) hs h _⟩

end Scheduler
end Organism
