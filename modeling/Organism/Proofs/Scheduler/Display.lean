import Organism.Proofs.Body.Frame
import Organism.Proofs.Scheduler.Ticks
import Mathlib.Data.List.DropRight

/-!
# What the snapshot shows

A snapshot is taken at the end of every tick, and at no other time.  Between two ticks healths and
awareness can still be taken from a file, which the snapshot does not show before the next tick ends.

* `Topology.stills`          the organs apart from their healths, which nothing changes;
* `Snapshot.take_eq_iff`     two snapshots are the same if healths and awareness are;
* `Scheduler.Current`        the snapshot shows the organism as it stands;
* `Event.passes`, `Event.settled`   the events in which time passes, and a run up to the last;
* `Since`                    what stays as it was when the last tick ended;
* `shows_last_tick`          **the snapshot shows the organism as it was when the last tick ended**,
                             which is how it stands unless a file was taken over since;
* `not_all_current`          a snapshot that is out of date.
-/

namespace Organism

attribute [local instance] Rounding.binary64

open Body

/-! ## organs apart from their healths -/

/-- the organ apart from its health, and from the tier that was observed -/
def Organ.still (o : Organ) : Organ := { o with health := 0, observed := .ok }

namespace Topology

def stills (t : Topology) (k : OrganKind) : Option Organ := (t.organ? k).map Organ.still

variable {t t' : Topology}

theorem stills_written (h : t.Written t') : t'.stills = t.stills := by
  obtain ⟨k, x, hk⟩ := h.organ?
  funext j
  unfold stills
  rw [hk j]
  split
  · rw [Option.map_map]
    rfl
  · rfl

theorem stills_loaded {s : State.Source} {m : List (OrganKind × Number)} (h : t.Loaded s t' m) :
    t'.stills = t.stills := by
  funext k
  unfold stills
  by_cases hk : k ∈ m.map (·.1)
  · obtain ⟨e, he, rfl⟩ := List.mem_map.mp hk
    obtain ⟨o, ho, ho'⟩ := h.written e he
    rw [ho, ho']
    rfl
  · rw [h.others k hk]

theorem stills_evaluate (t : Topology) : t.evaluate.1.stills = t.stills := by
  funext k
  unfold stills
  rw [organ?_evaluate, Option.map_map]
  rfl

end Topology

/-- **Nothing that happens to a body changes its organs but for their healths.** -/
theorem Body.Course.stills {S : List Part} {b b' : Body} (h : Course S b b') :
    b'.topology.stills = b.topology.stills := by
  refine h.same (f := fun b => b.topology.stills) ?_
  intro p _ c c' hc
  cases hc with
  | move hm => exact Topology.stills_written hm.written
  | load hl => exact Topology.stills_loaded (Topology.loaded_of_loadBytes hl)
  | evaluate => exact c.topology.stills_evaluate
  | time hb => rw [topology_of_core hb]
  | _ => rfl

/-! ## snapshots -/

namespace Topology

variable {t t' : Topology}

theorem view_of_still {o p : Organ} (hs : p.still = o.still) (hh : p.health = o.health) :
    Snapshot.view p = Snapshot.view o := by
  obtain ⟨id, kind, node, abilities, health, devices, observed⟩ := o
  obtain ⟨id', kind', node', abilities', health', devices', observed'⟩ := p
  cases hs
  cases hh
  rfl

theorem views_eq_iff (hs : t'.stills = t.stills) :
    t'.organs.map Snapshot.view = t.organs.map Snapshot.view ↔ t'.healths = t.healths := by
  constructor
  · intro h
    have hh := congrArg (List.map fun v => (v.kind, v.health)) h
    rw [List.map_map, List.map_map] at hh
    exact hh
  · intro h
    unfold organs
    rw [List.map_filterMap, List.map_filterMap]
    congr 1
    funext k
    have hk : (t'.organ? k).map Organ.still = (t.organ? k).map Organ.still := congrFun hs k
    cases ho : t.organ? k with
    | none =>
      rw [ho] at hk
      rw [Option.map_eq_none_iff.mp hk]
    | some o =>
      rw [ho] at hk
      obtain ⟨p, hp, hstill⟩ := Option.map_eq_some_iff.mp hk
      have hmem : (k, o.health) ∈ t'.healths := h ▸ mem_healths.mpr ⟨o, ho, rfl⟩
      obtain ⟨q, hq, hhealth⟩ := mem_healths.mp hmem
      obtain rfl : p = q := Option.some.inj (hp.symm.trans hq)
      rw [hp, Option.map_some, Option.map_some, view_of_still hstill hhealth]

end Topology

theorem Snapshot.take_eq_iff {t t' : Topology} {b b' : Bus} (tick : Int)
    (hs : t'.stills = t.stills) (hp : b'.policy = b.policy) (hl : b'.simLevel = b.simLevel)
    (hv : b'.verbosity = b.verbosity) :
    take t b tick = take t' b' tick ↔ t'.healths = t.healths ∧ b'.awareness = b.awareness := by
  rw [← Topology.views_eq_iff hs]
  constructor
  · intro h
    exact ⟨(congrArg Snapshot.organs h).symm, (congrArg Snapshot.awareness h).symm⟩
  · rintro ⟨ho, ha⟩
    unfold take
    rw [ho, ha, hp, hl, hv]

namespace Scheduler

/-- the snapshot shows the organism as it stands -/
def Current (s : Scheduler) : Prop := s.snapshot = .take s.body.topology s.body.bus s.clock

/-! ## events in which time passes -/

def Event.passes : Event → Bool
  | .step => true
  | .run limit => limit != 0
  | _ => false

/-- a run up to the last event in which time passes -/
def Event.settled (es : List Event) : List Event := es.rdropWhile fun e => !e.passes

def Event.unsettled (es : List Event) : List Event := es.rtakeWhile fun e => !e.passes

variable {s last now : Scheduler}

theorem current_step (s : Scheduler) : s.step.Current := rfl

theorem Current.ticks (h : s.Current) (limit done : Nat) : (ticks limit done s).1.Current := by
  induction limit generalizing s done with
  | zero => exact h
  | succ limit ih =>
    unfold Scheduler.ticks
    split
    · exact h
    · exact ih s.current_step (done + 1)

theorem current_passes (s : Scheduler) {e : Event} (he : e.passes = true) :
    (s.apply e).Current := by
  cases e with
  | step => exact s.current_step
  | run limit =>
    cases limit with
    | zero => cases he
    | succ limit =>
      have hticks : (Scheduler.ticks limit 1 s.begin.step).1.Current :=
        Current.ticks s.begin.current_step limit 1
      exact hticks
  | _ => cases he

theorem current_settled (h : s.Current) (es : List Event) :
    (s.applyAll (Event.settled es)).Current := by
  induction es using List.reverseRecOn with
  | nil => exact h
  | append_singleton es e ih =>
    unfold Event.settled
    rw [List.rdropWhile_concat]
    split
    · exact ih
    · next he =>
      have happly : s.applyAll (es ++ [e]) = (s.applyAll es).apply e := List.foldl_concat ..
      rw [happly]
      exact current_passes _ (by simpa using he)

/-! ## between ticks -/

/-- the second scheduler has the snapshot, the clock and all that a snapshot shows of the first, but
for healths and awareness -/
structure Since (last now : Scheduler) : Prop where
  snapshot : now.snapshot = last.snapshot
  clock : now.clock = last.clock
  stills : now.body.topology.stills = last.body.topology.stills
  policy : now.body.bus.policy = last.body.bus.policy
  simLevel : now.body.bus.simLevel = last.body.bus.simLevel
  verbosity : now.body.bus.verbosity = last.body.bus.verbosity

theorem since_refl (s : Scheduler) : Since s s := ⟨rfl, rfl, rfl, rfl, rfl, rfl⟩

theorem since_restore (s : Scheduler) (path : FilePath) : Since s (s.apply (.restore path)) := by
  have hc : Course [.health, .awareness, .notes] s.body (s.apply (.restore path)).body :=
    (Act.touches_restore path).course s.body
  have hbus : ∀ {α : Type} (f : Bus → α), (∀ b x, f { b with awareness := x } = f b) →
      f (s.apply (.restore path)).body.bus = f s.body.bus := by
    intro α f hf
    refine hc.same (f := fun b => f b.bus) ?_
    intro p hp c c' h
    cases h with
    | awareness => exact hf _ _
    | move | load | note => rfl
    | _ => exact absurd hp (by decide)
  exact ⟨rfl, rfl, hc.stills, hbus Bus.policy fun _ _ => rfl, hbus Bus.simLevel fun _ _ => rfl,
    hbus Bus.verbosity fun _ _ => rfl⟩

theorem Since.apply (h : Since last now) {e : Event} (he : e.passes = false) :
    Since last (now.apply e) := by
  cases e with
  | step => cases he
  | run limit =>
    obtain rfl : limit = 0 := by simpa [Event.passes] using he
    exact ⟨h.snapshot, h.clock, h.stills, h.policy, h.simLevel, h.verbosity⟩
  | submit r => exact ⟨h.snapshot, h.clock, h.stills, h.policy, h.simLevel, h.verbosity⟩
  | cancel id => exact ⟨h.snapshot, h.clock, h.stills, h.policy, h.simLevel, h.verbosity⟩
  | restore path =>
    obtain ⟨hsnapshot, hclock, hstills, hpolicy, hlevel, hverbosity⟩ := since_restore now path
    exact ⟨hsnapshot.trans h.snapshot, hclock.trans h.clock, hstills.trans h.stills,
      hpolicy.trans h.policy, hlevel.trans h.simLevel, hverbosity.trans h.verbosity⟩
  | outside files dice => exact ⟨h.snapshot, h.clock, h.stills, h.policy, h.simLevel, h.verbosity⟩

theorem Since.applyAll (h : Since last now) {es : List Event} (he : ∀ e ∈ es, e.passes = false) :
    Since last (now.applyAll es) := by
  induction es generalizing now with
  | nil => exact h
  | cons e es ih =>
    obtain ⟨he, hes⟩ := List.forall_mem_cons.mp he
    exact ih (h.apply he) hes

/-- a run is the part up to its last tick, and what comes after -/
theorem applyAll_settled (s : Scheduler) (es : List Event) :
    s.applyAll es = (s.applyAll (Event.settled es)).applyAll (Event.unsettled es) := by
  unfold applyAll
  rw [← List.foldl_append]
  exact congrArg _ List.rdropWhile_append_rtakeWhile.symm

theorem passes_unsettled {es : List Event} {e : Event} (h : e ∈ Event.unsettled es) :
    e.passes = false := by
  simpa using List.mem_rtakeWhile_imp h

theorem since_settled (s : Scheduler) (es : List Event) :
    Since (s.applyAll (Event.settled es)) (s.applyAll es) := by
  have h : Since _ ((s.applyAll (Event.settled es)).applyAll (Event.unsettled es)) :=
    (since_refl _).applyAll fun _ => passes_unsettled
  rwa [← applyAll_settled] at h

theorem body_between {es : List Event} (he : ∀ e ∈ es, e.passes = false)
    (hr : ∀ path, .restore path ∉ es) (s : Scheduler) :
    (s.applyAll es).body.topology = s.body.topology ∧ (s.applyAll es).body.bus = s.body.bus := by
  induction es generalizing s with
  | nil => exact ⟨rfl, rfl⟩
  | cons e es ih =>
    obtain ⟨he, hes⟩ := List.forall_mem_cons.mp he
    have hone : (s.apply e).body.topology = s.body.topology ∧
        (s.apply e).body.bus = s.body.bus := by
      cases e with
      | step => cases he
      | run limit =>
        obtain rfl : limit = 0 := by simpa [Event.passes] using he
        exact ⟨rfl, rfl⟩
      | submit r => exact ⟨rfl, rfl⟩
      | cancel id => exact ⟨rfl, rfl⟩
      | restore path => exact absurd List.mem_cons_self (hr path)
      | outside files dice => exact ⟨rfl, rfl⟩
    have hrest := ih hes (fun path h => hr path (List.mem_cons_of_mem _ h)) (s.apply e)
    exact ⟨hrest.1.trans hone.1, hrest.2.trans hone.2⟩

theorem Since.current_iff (h : Since last now) (hl : last.Current) :
    now.Current ↔ now.body.topology.healths = last.body.topology.healths ∧
      now.body.bus.awareness = last.body.bus.awareness := by
  unfold Current
  rw [h.snapshot, hl, h.clock]
  exact Snapshot.take_eq_iff _ h.stills h.policy h.simLevel h.verbosity

/-! ## whole runs -/

section
variable {settings : Settings} {setup : Setup} {t : Topology} {senses : Senses}
  {files : FileSystem}

theorem current_build (h : build settings setup t senses files = .ok s) : s.Current := by
  obtain ⟨body, daemons, -, -, rfl⟩ := build_cases h
  rfl

/-- **The snapshot shows the organism as it was when the last tick ended**, or as it was put
together if there was none.  Its tick, policy, level of the simulation and verbosity are never out of
date; all that it shows is up to date exactly if the healths and the awareness are as they were at
that time, and so they are unless a file was to be taken over since. -/
theorem shows_last_tick (h : build settings setup t senses files = .ok s) (es : List Event) :
    let last := s.applyAll (Event.settled es)
    let now := s.applyAll es
    now.snapshot = .take last.body.topology last.body.bus last.clock ∧
      now.snapshot.tick = now.clock ∧ now.snapshot.policy = now.body.bus.policy ∧
      now.snapshot.simLevel = now.body.bus.simLevel ∧
      now.snapshot.verbosity = now.body.bus.verbosity ∧
      (now.Current ↔ now.body.topology.healths = last.body.topology.healths ∧
        now.body.bus.awareness = last.body.bus.awareness) ∧
      ((∀ path, .restore path ∉ Event.unsettled es) → now.Current) := by
  intro last now
  have hlast : last.Current := current_settled (current_build h) es
  have hsince : Since last now := since_settled s es
  have hshown : now.snapshot = .take last.body.topology last.body.bus last.clock :=
    hsince.snapshot.trans hlast
  refine ⟨hshown, ?_, ?_, ?_, ?_, hsince.current_iff hlast, fun hr => ?_⟩
  · rw [hshown, hsince.clock]
    rfl
  · rw [hshown, hsince.policy]
    rfl
  · rw [hshown, hsince.simLevel]
    rfl
  · rw [hshown, hsince.verbosity]
    rfl
  · obtain ⟨ht, hb⟩ := body_between (fun _ => passes_unsettled) hr last
    have hnow : now = last.applyAll (Event.unsettled es) := applyAll_settled s es
    rw [hsince.current_iff hlast, hnow, ht, hb]
    exact ⟨rfl, rfl⟩

/-- a file taken over after the first tick, and a run of no ticks -/
theorem shows_last_tick_restored :
    let files : FileSystem :=
      ⟨[], [(["state"], .file (Utf8.encode "memory=0.5\n".toList))]⟩
    ∃ s, build .standard (setupOf .standard) (.sample 1) (.script (fun _ f => .ok f.nominal) 0)
        files = .ok s ∧
      let tick : List Event :=
        [.submit { operation := .damage, organ := some .cortex, amount := some 0.25 }, .step]
      let es : List Event := tick ++ [.restore (.ofString "state"), .run 0]
      Event.settled es = tick ∧
        let now := s.applyAll es
        now.snapshot = .take (s.applyAll tick).body.topology (s.applyAll tick).body.bus
            (s.applyAll tick).clock ∧
          now.snapshot.tick = now.clock := by
  intro files
  have hbuilt : (build .standard (setupOf .standard) (.sample 1)
      (.script (fun _ f => .ok f.nominal) 0) files).isOk = true := by decide +kernel
  obtain ⟨s, h⟩ := ok_of_isOk hbuilt
  obtain ⟨hshown, htick, -⟩ := shows_last_tick h
    [.submit { operation := .damage, organ := some .cortex, amount := some 0.25 }, .step,
      .restore (.ofString "state"), .run 0]
  exact ⟨s, h, rfl, hshown, htick⟩

end

/-- after a file was taken over, the snapshot shows healths that are no longer there, and a run of no
ticks does not change that -/
theorem not_all_current :
    ¬ ∀ settings t senses files s, Settings.check settings = .ok () → t.Whole →
      build settings (setupOf settings) t senses files = .ok s →
        ∀ es, (s.applyAll es).snapshot =
          .take (s.applyAll es).body.topology (s.applyAll es).body.bus (s.applyAll es).clock := by
  intro hall
  let files : FileSystem := ⟨[], [(["state"], .file (Utf8.encode "cortex=0.5\n".toList))]⟩
  let es : List Event := [.restore (.ofString "state"), .run 0]
  have hstale : (build .standard (setupOf .standard) (.sample 1)
      (.script (fun _ f => .ok f.nominal) 0) files).toOption.map (fun s =>
        (s.applyAll es).snapshot.healths == (s.applyAll es).body.topology.healths)
      = some false := by decide +kernel
  obtain ⟨s, hs, hne⟩ := Option.map_eq_some_iff.mp hstale
  have hcurrent := hall .standard (.sample 1) _ files s Settings.standard_check
    (Topology.sample_whole Number.inUnit_one) (ok_of_toOption hs) es
  have heq : (s.applyAll es).snapshot.healths = (s.applyAll es).body.topology.healths := by
    rw [hcurrent]
    unfold Snapshot.healths Snapshot.take
    rw [List.map_map]
    rfl
  rw [heq] at hne
  simp at hne

end Scheduler
end Organism
