import Organism.Proofs.Scheduler.Turns

/-!
# Schedulers that can carry out requests

* `Scheduler.Ready`     the daemons are the standard ones, the body has all its organs, and the
                        tickets agree with what was done;
* `ready_build`, `Ready.applyAll`   **a new scheduler is so, and stays so whatever happens to it**;
* `Ready.serves`        **a request that is submitted is carried out in the next tick**, then on a
                        body that still has all its organs, and its ticket bears the outcome.
-/

namespace Organism.Scheduler

attribute [local instance] Rounding.binary64

open Act

/-- the scheduler can carry out requests -/
structure Ready (s : Scheduler) : Prop where
  standard : s.Standard
  whole : s.body.topology.Whole
  tracked : ∃ log, s.queue.Tracks s.queue.waiting log

variable {s : Scheduler}

theorem ready_build {settings : Settings} {setup : Setup} {t : Topology} {senses : Senses}
    {files : FileSystem} (h : build settings setup t senses files = .ok s) (ht : t.Whole) :
    s.Ready where
  standard := build_standard h
  whole := by
    obtain ⟨-, htopology, -⟩ := build_parts h
    rw [htopology]
    exact ht
  tracked := by
    obtain ⟨body, daemons, -, -, rfl⟩ := build_cases h
    exact ⟨[], Queue.tracks_nil⟩

theorem whole_turns {setup : Setup} {b b' : Body} {xs : List Turn} (h : Path setup b xs b')
    (hb : b.topology.Whole) : b'.topology.Whole := by
  refine h.preserves (P := fun b => b.topology.Whole) (fun x _ hx hw => ?_) hb
  obtain ⟨S, hc, -⟩ := hx.course
  exact hc.whole hw

namespace Ready

theorem submit (h : s.Ready) (r : Request) : (s.submit r).1.Ready where
  standard := h.standard
  whole := h.whole
  tracked := by
    obtain ⟨log, ht⟩ := h.tracked
    exact ⟨log, ht.submit r⟩

theorem cancel (h : s.Ready) (id : Nat) : (s.cancel id).1.Ready where
  standard := h.standard
  whole := h.whole
  tracked := by
    obtain ⟨log, ht⟩ := h.tracked
    refine ⟨log, ?_⟩
    show (s.queue.cancel id).1.Tracks (s.queue.cancel id).1.waiting log
    rw [Queue.waiting_cancel]
    exact ht.cancel id

theorem step (h : s.Ready) : s.step.Ready where
  standard := h.standard.step
  whole := whole_turns (path_tickTurns h.standard) h.whole
  tracked := by
    obtain ⟨log, ht⟩ := h.tracked
    exact ⟨_, tracks_call ht .step⟩

theorem ticks (h : s.Ready) (limit done : Nat) : (ticks limit done s).1.Ready := by
  induction limit generalizing s done with
  | zero => exact h
  | succ limit ih =>
    unfold Scheduler.ticks
    split
    · exact h
    · exact ih h.step _

theorem withBody (h : s.Ready) {b : Body} (hb : b.topology.Whole) :
    Ready { s with body := b } := ⟨h.standard, hb, h.tracked⟩

theorem apply (h : s.Ready) (e : Event) : (s.apply e).Ready := by
  cases e with
  | step => exact h.step
  | run limit =>
    have hticks := (h.withBody (b := s.begin.body) h.whole).ticks limit 0
    exact hticks.withBody hticks.whole
  | submit r => exact h.submit r
  | cancel id => exact h.cancel id
  | restore path => exact h.withBody (((touches_restore path).course s.body).whole h.whole)
  | outside files dice => exact h.withBody h.whole

/-- **A scheduler can carry out requests for ever**, whatever happens to it. -/
theorem applyAll (h : s.Ready) (events : List Event) : (s.applyAll events).Ready := by
  induction events generalizing s with
  | nil => exact h
  | cons e events ih => exact ih (h.apply e)

end Ready

/-! ## requests -/

theorem Ready.whole_handled (h : s.Ready) {x : Handling} (hx : x ∈ s.handled) :
    x.before.topology.Whole := by
  obtain ⟨xs, ys, hxs⟩ := List.append_of_mem hx
  have hpath := path_tickTurns h.standard
  unfold tickTurns at hpath
  rw [hxs, List.map_append, List.map_cons, ← List.append_assoc, ← List.cons_append] at hpath
  exact whole_turns hpath.split_at.1 h.whole

/-- **A request that is submitted is carried out in the next tick.** -/
theorem Ready.serves (h : s.Ready) (r : Request) :
    ∃ x ∈ (s.submit r).1.handled, x.id = (s.submit r).2 ∧ x.request = r ∧
      x.before.topology.Whole ∧
      (Command.handle s.setup r).run x.before = (x.outcome, x.after) ∧
      (s.submit r).1.step.queue.outcome? (s.submit r).2 = some x.ticket := by
  have hu := h.submit r
  obtain ⟨log, ht⟩ := hu.tracked
  have hlive : ((s.submit r).2, r) ∈ (s.submit r).1.handled.map fun x =>
      (x.id, x.request) := by
    unfold handled
    rw [Queue.map_handlings]
    show _ ∈ (s.queue.submit r).1.live
    rw [Queue.live_submit]
    exact List.mem_append_right _ (List.mem_singleton_self _)
  obtain ⟨x, hx, hpair⟩ := List.mem_map.mp hlive
  obtain ⟨hid, rfl⟩ := Prod.mk.inj hpair
  refine ⟨x, hx, hid, rfl, hu.whole_handled hx, Queue.run_of_mem_handlings hx, ?_⟩
  rw [← hid]
  have hafter := tracks_call ht .step
  exact hafter.done x (List.mem_append_right _ (List.mem_append_left _ hx))

end Organism.Scheduler
