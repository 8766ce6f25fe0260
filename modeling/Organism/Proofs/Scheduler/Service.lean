import Organism.Proofs.Scheduler.Ticks

/-!
# Requests and their outcomes

Those who have requests call a scheduler in three ways: they submit a request, they withdraw one
that they submitted, and they let a tick pass.

* `Call`, `callAll`      a call, and a run of them;
* `Call.batches`         the requests that each tick has to carry out, as the calls alone tell them;
* `handled`              the handlings that take place in a tick;
* `map_handled`          **each tick carries out its batch, in order**;
* `tracks_callAll`       the tickets agree with all handlings so far;
* `body_callAll`         **a request that was withdrawn might as well never have been submitted**;
* `requests_served`      all of it, for a scheduler with an empty queue and any calls.
-/

namespace Organism.Scheduler

attribute [local instance] Rounding.binary64

/-! ## calls -/

inductive Call where
  | submit (r : Request)
  | cancel (id : Nat)
  | step

namespace Call

def event : Call → Event
  | submit r => .submit r
  | cancel id => .cancel id
  | step => .step

def isSubmit : Call → Bool
  | submit _ => true
  | _ => false

/-- for every tick, what was submitted before it and neither withdrawn nor left to an earlier tick;
the requests are numbered in the order of submission -/
def batches : (submitted : Nat) → (left : List (Nat × Request)) → List Call →
    List (List (Nat × Request))
  | _, _, [] => []
  | n, left, submit r :: cs => batches (n + 1) (left ++ [(n, r)]) cs
  | n, left, cancel id :: cs => batches n (left.filter fun w => w.1 != id) cs
  | n, left, step :: cs => left :: batches n [] cs

/-- the calls of someone who submits some requests before each tick and withdraws none -/
def firm (batches : List (List Request)) : List Call :=
  batches.flatMap fun rs => rs.map submit ++ [step]

end Call

def callAll (s : Scheduler) (calls : List Call) : Scheduler := s.applyAll (calls.map Call.event)

def called (s : Scheduler) (calls : List Call) : List Scheduler := s.begunAll (calls.map Call.event)

def handled (s : Scheduler) : List Handling :=
  Queue.handlings (Command.handle s.setup) s.queue.live s.beforeCommands

variable {s : Scheduler} {log : List Handling}

theorem callAll_append (s : Scheduler) (cs ds : List Call) :
    s.callAll (cs ++ ds) = (s.callAll cs).callAll ds := by
  unfold callAll applyAll
  rw [List.map_append, List.foldl_append]

/-! ## one tick -/

theorem queue_step_eq (s : Scheduler) :
    s.step.queue = s.handled.foldl Queue.record { s.queue with waiting := [] } := by
  rw [queue_step, Queue.drain_eq]
  rfl

theorem body_step_eq (s : Scheduler) :
    s.step.body = Queue.bodyAfter s.beforeCommands s.handled := by
  rw [body_step, Queue.drain_eq]
  rfl

theorem waiting_step (s : Scheduler) : s.step.queue.waiting = [] := by
  rw [queue_step_eq, Queue.waiting_foldl_record]

theorem served_step (s : Scheduler) :
    Queue.Served (Command.handle s.setup) s.beforeCommands s.handled s.step.body := by
  rw [body_step_eq]
  exact Queue.served_handlings _ _ _

theorem live_step (s : Scheduler) : s.step.queue.live = [] := by
  unfold Queue.live
  rw [waiting_step]
  rfl

theorem length_tickets_step (s : Scheduler) :
    s.step.queue.tickets.length = s.queue.tickets.length := by
  rw [queue_step_eq, Queue.length_foldl_record]

/-! ## tickets -/

theorem tracks_call (ht : s.queue.Tracks s.queue.waiting log) (c : Call) :
    (s.apply c.event).queue.Tracks (s.apply c.event).queue.waiting
      (log ++ (s.begun c.event).flatMap handled) := by
  cases c with
  | submit r =>
    show (s.queue.submit r).1.Tracks _ (log ++ [])
    rw [List.append_nil]
    exact ht.submit r
  | cancel id =>
    show (s.queue.cancel id).1.Tracks (s.queue.cancel id).1.waiting (log ++ [])
    rw [List.append_nil, Queue.waiting_cancel]
    exact ht.cancel id
  | step =>
    show s.step.queue.Tracks s.step.queue.waiting (log ++ (s.handled ++ []))
    rw [List.append_nil, queue_step]
    exact ht.drain s.beforeCommands

/-- **The tickets agree with all handlings, after any calls.** -/
theorem tracks_callAll (ht : s.queue.Tracks s.queue.waiting log) (calls : List Call) :
    (s.callAll calls).queue.Tracks (s.callAll calls).queue.waiting
      (log ++ (s.called calls).flatMap handled) := by
  induction calls generalizing s log with
  | nil =>
    show s.queue.Tracks s.queue.waiting (log ++ [])
    rw [List.append_nil]
    exact ht
  | cons c calls ih =>
    show Queue.Tracks _ _ (log ++ (s.begun c.event ++ (s.apply c.event).called calls).flatMap _)
    rw [List.flatMap_append, ← List.append_assoc]
    exact ih (tracks_call ht c)

/-- **Each tick carries out its batch, in order.** -/
theorem map_handled (ht : s.queue.Tracks s.queue.waiting log) (calls : List Call) :
    (s.called calls).map (fun u => u.handled.map fun h => (h.id, h.request))
      = Call.batches s.queue.tickets.length s.queue.live calls := by
  induction calls generalizing s log with
  | nil => rfl
  | cons c calls ih =>
    have h := ih (tracks_call ht c)
    cases c with
    | submit r =>
      show ((s.submit r).1.called calls).map _ = Call.batches (_ + 1) (_ ++ [_]) calls
      rw [← s.queue.live_submit r, ← s.queue.length_tickets_submit r]
      exact h
    | cancel id =>
      show ((s.cancel id).1.called calls).map _ = Call.batches _ (List.filter _ _) calls
      rw [← ht.live_cancel id, ← s.queue.length_tickets_cancel id]
      exact h
    | step =>
      show s.handled.map (fun h => (h.id, h.request)) :: (s.step.called calls).map _
        = s.queue.live :: Call.batches _ [] calls
      rw [← live_step s, ← length_tickets_step s]
      exact congrArg₂ List.cons (Queue.map_handlings _ _ _) h

theorem length_tickets_callAll (s : Scheduler) (calls : List Call) :
    (s.callAll calls).queue.tickets.length
      = s.queue.tickets.length + calls.countP Call.isSubmit := by
  induction calls generalizing s with
  | nil => rfl
  | cons c calls ih =>
    have hc : (s.apply c.event).queue.tickets.length
        = s.queue.tickets.length + c.isSubmit.toNat := by
      cases c with
      | submit r => exact s.queue.length_tickets_submit r
      | cancel id => exact s.queue.length_tickets_cancel id
      | step => exact length_tickets_step s
    refine (ih (s.apply c.event)).trans ?_
    rw [hc, List.countP_cons]
    cases c.isSubmit
    · rfl
    · exact Nat.add_assoc _ _ _ |>.trans (congrArg _ (Nat.add_comm _ _))

/-! ## requests that were withdrawn -/

theorem isCancelled_callAll {id : Nat} (h : s.queue.isCancelled id = true) (calls : List Call) :
    (s.callAll calls).queue.isCancelled id = true := by
  induction calls generalizing s with
  | nil => exact h
  | cons c calls ih =>
    cases c with
    | submit r =>
      refine ih (s := (s.submit r).1) ?_
      rw [← h]
      exact s.queue.isCancelled_submit r id
    | cancel i =>
      refine ih (s := (s.cancel i).1) ?_
      show (s.queue.cancel i).1.isCancelled id = true
      rw [Queue.isCancelled_cancel, h, Bool.true_or]
    | step =>
      refine ih (s := s.step) ?_
      rw [queue_step, Queue.isCancelled_drain, h]

theorem cancelled_callAll {id : Nat} (h : (s.cancel id).2 = true) (calls : List Call) :
    (s.callAll (.cancel id :: calls)).queue.outcome? id = some .cancelled := by
  refine (Queue.isCancelled_iff _ id).mp (isCancelled_callAll (s := (s.cancel id).1) ?_ calls)
  show (s.queue.cancel id).1.isCancelled id = true
  rw [Queue.isCancelled_cancel, beq_self_eq_true, Bool.true_and]
  exact (congrArg _ h).trans (Bool.or_true _)

/-- schedulers that differ in their queues alone do the same in a tick, if the same requests are
live, under whatever numbers -/
theorem step_congr {q : Queue} (h : q.live.map Prod.snd = s.queue.live.map Prod.snd) :
    let s' := { s with queue := q }
    s'.step = { s.step with queue := s'.step.queue } := by
  intro s'
  have hbody : s'.step.body = s.step.body := by
    rw [body_step_eq, body_step_eq]
    exact Queue.bodyAfter_congr _ h _
  have hparts : ∀ u : Scheduler, u.step = { u with
      clock := u.clock + 1
      daemons := (runDue (u.clock + 1) u.daemons u.opened).1
      queue := u.step.queue
      body := u.step.body
      commandRuns := u.commandRuns.mark (u.clock + 1)
      errors := u.errors + (runDue (u.clock + 1) u.daemons u.opened).2.2
      snapshot := .take u.step.body.topology u.step.body.bus (u.clock + 1 : Nat) } := fun _ => rfl
  refine (hparts s').trans ?_
  rw [hbody]
  rfl

theorem callAll_submit (s : Scheduler) (rs : List Request) :
    ∃ q : Queue, s.callAll (rs.map .submit) = { s with queue := q } ∧
      q.live.map Prod.snd = s.queue.live.map Prod.snd ++ rs := by
  induction rs generalizing s with
  | nil => exact ⟨s.queue, rfl, (List.append_nil _).symm⟩
  | cons r rs ih =>
    obtain ⟨q, hq, hlive⟩ := ih (s.submit r).1
    refine ⟨q, hq, ?_⟩
    rw [hlive, show (s.submit r).1.queue.live = s.queue.live ++ [(s.queue.tickets.length, r)] from
      s.queue.live_submit r, List.map_append, List.append_assoc]
    rfl

/-- **A request that was withdrawn might as well never have been submitted.** -/
theorem body_callAll (ht : s.queue.Tracks s.queue.waiting log) {q : Queue} (hq : q.live = [])
    (calls : List Call) :
    let batches := Call.batches s.queue.tickets.length s.queue.live calls
    (s.callAll calls).body
      = (callAll { s with queue := q } (Call.firm (batches.map (·.map Prod.snd)))).body := by
  induction calls generalizing s log q with
  | nil => rfl
  | cons c calls ih =>
    have h := ih (tracks_call ht c) hq
    cases c with
    | submit r =>
      intro batches
      refine h.trans ?_
      show (callAll _ (Call.firm ((Call.batches (s.queue.submit r).1.tickets.length
        (s.queue.submit r).1.live calls).map _))).body = _
      rw [Queue.length_tickets_submit, Queue.live_submit]
      rfl
    | cancel id =>
      intro batches
      refine h.trans ?_
      show (callAll _ (Call.firm ((Call.batches (s.queue.cancel id).1.tickets.length
        (s.queue.cancel id).1.live calls).map _))).body = _
      rw [Queue.length_tickets_cancel, ht.live_cancel]
      rfl
    | step =>
      intro batches
      obtain ⟨q', hsubmit, hlive⟩ :=
        callAll_submit { s with queue := q } (s.queue.live.map Prod.snd)
      have hsame : q'.live.map Prod.snd = s.queue.live.map Prod.snd := by
        rw [hlive, hq]
        rfl
      have hstep := step_congr hsame
      have h' := ih (q := (step { s with queue := q' }).queue) (tracks_call ht .step) (live_step _)
      refine h'.trans ?_
      show (callAll { s.step with queue := _ } (Call.firm ((Call.batches
        s.step.queue.tickets.length s.step.queue.live calls).map _))).body = _
      rw [← hstep, live_step, length_tickets_step]
      show _ = (callAll { s with queue := q } ((s.queue.live.map Prod.snd).map Call.submit
        ++ [Call.step] ++ Call.firm _)).body
      rw [callAll_append, callAll_append, hsubmit]
      rfl

/-! ## all calls -/

theorem countP_pulses_handled (us : List Scheduler) :
    ((us.flatMap handled).flatMap Handling.pulses).countP (·.kind == .command)
      = (us.flatMap handled).countP (·.outcome.isOk) := by
  induction us with
  | nil => rfl
  | cons u us ih =>
    rw [List.flatMap_cons, List.flatMap_append, List.countP_append, List.countP_append, ih]
    congr 1
    exact Queue.countP_pulses (Command.blind_handle u.setup) _ _

/-- **Every request that is not withdrawn is carried out once, in its turn, with an outcome of its
own.**  For a scheduler with an empty queue and any calls:

* after a tick nothing waits, and the handlings of the tick took place one after the other, whatever
  came of each;
* they are those of the requests that were submitted before the tick and neither withdrawn nor left
  to an earlier tick, in the order of submission, and no request is handled twice;
* submissions are numbered from 0, and each ticket bears the outcome of its own handling, if there
  is one, and no other result;
* a request that was withdrawn in time stays so for ever, and all is as if it had never been there;
* the results, the tickets with a result, and the pulses that commands publish, are equally many. -/
theorem requests_served (s : Scheduler) (calls : List Call) :
    let new : Scheduler := { s with queue := {} }
    let final := new.callAll calls
    let ticks := new.called calls
    let log := ticks.flatMap handled
    let batches := Call.batches 0 [] calls
    (∀ u ∈ ticks, u.step.queue.waiting = [] ∧
        Queue.Served (Command.handle u.setup) u.beforeCommands u.handled u.step.body) ∧
      ticks.map (fun u => u.handled.map fun h => (h.id, h.request)) = batches ∧
      (log.map (·.id)).Pairwise (· < ·) ∧
      final.queue.tickets.length = calls.countP Call.isSubmit ∧
      (∀ h ∈ log, final.queue.outcome? h.id = some h.ticket) ∧
      (∀ id ticket, final.queue.outcome? id = some ticket → ticket.isResolved = true →
        ∃ h ∈ log, h.id = id) ∧
      (∀ id later, (final.cancel id).2 = true →
        (final.callAll (.cancel id :: later)).queue.outcome? id = some .cancelled) ∧
      final.body = (new.callAll (Call.firm (batches.map (·.map Prod.snd)))).body ∧
      final.queue.executed = log.countP (·.outcome.isOk) ∧
      final.queue.executed = final.queue.tickets.countP Ticket.isDone ∧
      final.queue.executed = (log.flatMap Handling.pulses).countP (·.kind == .command) := by
  intro new final ticks log batches
  have hnew : new.queue.Tracks new.queue.waiting [] := Queue.tracks_nil
  have hfinal : final.queue.Tracks final.queue.waiting log := tracks_callAll hnew calls
  refine ⟨fun u _ => ⟨waiting_step u, served_step u⟩, map_handled hnew calls, ?_, ?_, hfinal.done,
    hfinal.only, fun id later h => cancelled_callAll h later, body_callAll hnew rfl calls,
    hfinal.executed, hfinal.results.symm, ?_⟩
  · exact (List.pairwise_append.mp hfinal.order).1
  · exact (length_tickets_callAll new calls).trans (Nat.zero_add _)
  · rw [hfinal.executed]
    exact (countP_pulses_handled ticks).symm

/-- a failure that is reported, a crash, a request that is withdrawn, and a result -/
example :
    ((build .standard (setupOf .standard) (.sample 1) (.script (fun _ f => .ok f.nominal) 0)
        {}).toOption.map fun s =>
      let final := s.callAll [.submit { operation := .setLogs, level := some "loud" },
        .submit { operation := .damage }, .submit { operation := .help },
        .submit { operation := .memory }, .cancel 2, .step, .cancel 3]
      (final.queue.tickets.map Ticket.isDone, final.queue.tickets.map Ticket.isResolved,
        final.queue.executed))
      = some ([true, false, false, true], [true, true, false, true], 2) := by
  decide +kernel

end Organism.Scheduler
