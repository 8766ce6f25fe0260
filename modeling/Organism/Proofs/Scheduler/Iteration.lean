import Organism.Proofs.Body.Discreet
import Organism.Proofs.Scheduler.Service
import Organism.Proofs.Scheduler.Turns

/-!
# A run is one tick after the other

A run notes its beginning and its end and forgets whether an end was asked for before.  Apart from
that it is nothing but ticks, each of them complete: at most as many as were wanted, and none after
the one in which a daemon asks for an end.  All that is needed of the daemons is that they are
discreet, as the standard ones are and all commands.

* `Daemon.Discreet`, `Scheduler.Discreet`   daemons that do not look at notes, and do not take back
                             what was asked for; `build_discreet`: those of a new organism;
* `Scheduler.Same`           schedulers that agree in all but notes, with `Same.step`;
* `Scheduler.Ends`           the count of ticks up to the first after which an end is asked for;
* `run_ends`                 **a run is that many ticks, begun with no end asked for**;
* `Scheduler.Asks`           a daemon asks for an end in the next tick, in its turn;
* `stopped_step`             **an end is asked for after a tick exactly if a daemon asked in it**;
* `Scheduler.Completes`      all that belongs to a tick is done in it;
* `run_iterated`             **runs as ticks: with or without an end, in parts, and once more**.
-/

namespace Organism

attribute [local instance] Rounding.binary64

open Act Body

/-! ## discreet commands and daemons -/

theorem Command.untimed (op : Operation) : Part.time ∉ Part.pulses :: .notes :: op.parts := by
  cases op <;> decide

theorem Command.discreet_handle (setup : Setup) (r : Request) : Discreet (handle setup r) :=
  discreet_of_blind (blind_handle setup r) (touches_handle setup r) (untimed r.operation)

theorem Command.stopped_handle (setup : Setup) (r : Request) (b : Body) :
    ((handle setup r).run b).2.stopped = b.stopped :=
  (((touches_handle setup r).course b).untimed (untimed r.operation)).1

namespace Daemon

/-- the daemon does not look at notes, and does not take back that an end was asked for -/
def Discreet (d : Daemon) : Prop := ∀ tick, Act.Discreet (d.act tick)

theorem discreet_of_duty {setup : Setup} {d : Daemon} (hd : d.duty ∈ duties setup) :
    d.Discreet := by
  refine duty_cases hd (P := fun _ act => ∀ tick, Act.Discreet (act tick)) ?_ ?_ ?_ ?_
  · exact fun _ => discreet_of_blind Duty.says_heartbeat Duty.touches_heartbeat (by decide)
  · exact fun tick => discreet_of_blind (Duty.says_status setup tick)
      (Duty.touches_status setup tick) (by decide)
  · exact fun _ => discreet_of_blind (Duty.says_policy setup) (Duty.touches_policy setup)
      (by decide)
  · exact fun _ => discreet_of_blind (Duty.says_simulation setup) (Duty.touches_simulation setup)
      (by decide)

variable {d : Daemon} {b c : Body}

theorem Discreet.run (hd : d.Discreet) (tick : Nat) (h : b.Same c) :
    (d.run tick b).1 = (d.run tick c).1 ∧ (d.run tick b).2.1.Same (d.run tick c).2.1 ∧
      (d.run tick b).2.2 = (d.run tick c).2.2 := by
  obtain ⟨ho, hsame⟩ := (hd tick).same b c h
  unfold Daemon.run
  rcases hb : (d.act tick).run b with ⟨r, b'⟩
  rcases hc : (d.act tick).run c with ⟨r', c'⟩
  rw [hb, hc] at ho hsame
  obtain rfl : r = r' := ho
  cases r with
  | ok u => exact ⟨rfl, hsame, rfl⟩
  | error e =>
    have hreport : (d.report tick e b').Same (d.report tick e c') :=
      hsame.congr (f := fun b => (d.report tick e b).unnoted) fun _ => rfl
    exact ⟨rfl, hreport, rfl⟩

theorem Discreet.firm (hd : d.Discreet) (tick : Nat) (h : b.stopped = true) :
    (d.run tick b).2.1.stopped = true :=
  run_preserves (P := fun b => b.stopped = true) (fun _ _ hc => hc) ((hd tick).firm b h)

theorem count_run (d : Daemon) (tick : Nat) (b : Body) :
    (d.run tick b).1.count.lastRun = tick ∧ (d.run tick b).1.count.runs = d.count.runs + 1 := by
  rw [d.run_daemon]
  exact ⟨rfl, rfl⟩

end Daemon

/-! ## commands in a row -/

namespace Queue

section
variable {handle : Request → Act CommandResult} (hh : ∀ r, Discreet (handle r)) {b c : Body}
include hh

theorem same_serveAll (ws : List (Nat × Request)) (q : Queue) (h : b.Same c) :
    (serveAll handle ws q b).1 = (serveAll handle ws q c).1 ∧
      (serveAll handle ws q b).2.Same (serveAll handle ws q c).2 := by
  induction ws generalizing q b c with
  | nil => exact ⟨rfl, h⟩
  | cons w ws ih =>
    obtain ⟨id, r⟩ := w
    obtain ⟨ho, hsame⟩ := (hh r).same b c h
    obtain ⟨hqueue, hbody⟩ :=
      serve_related (R := Body.Same) (fun _ _ _ _ _ h => h) q id ho.symm hsame
    unfold serveAll
    split
    · exact ih q h
    · dsimp only
      rw [hqueue]
      exact ih _ hbody

theorem same_drain (q : Queue) (h : b.Same c) :
    (q.drain handle b).1 = (q.drain handle c).1 ∧
      (q.drain handle b).2.Same (q.drain handle c).2 := same_serveAll hh _ _ h

end

theorem isResolved_foldl_record (q : Queue) {hs : List Handling} {id : Nat}
    (hid : id ∈ hs.map (·.id)) {ticket : Ticket}
    (h : (hs.foldl record q).outcome? id = some ticket) : ticket.isResolved = true := by
  induction hs using List.reverseRecOn with
  | nil => cases hid
  | append_singleton hs x ih =>
    rw [List.foldl_append] at h
    change ((hs.foldl record q).record x).outcome? id = some ticket at h
    by_cases hx : id = x.id
    · subst hx
      have hlt : x.id < (hs.foldl record q).tickets.length := by
        have hsome := List.getElem?_eq_some_iff.mp h
        obtain ⟨hlt, -⟩ := hsome
        rwa [record, List.length_set] at hlt
      rw [outcome?_record_self _ x hlt] at h
      rw [← Option.some.inj h]
      exact x.isResolved_ticket
    · rw [outcome?_record _ x hx] at h
      refine ih ?_ h
      rw [List.map_append, List.mem_append] at hid
      exact hid.resolve_right fun hmem => hx (List.mem_singleton.mp hmem)

end Queue

namespace Scheduler

/-- all daemons are discreet -/
def Discreet (s : Scheduler) : Prop := ∀ d ∈ s.daemons, d.Discreet

variable {s s' : Scheduler} {n k : Nat}

theorem Standard.discreet (h : s.Standard) : s.Discreet := by
  intro d hd
  have hduty : d.duty ∈ duties s.setup := by
    rw [← h]
    exact List.mem_map_of_mem hd
  exact Daemon.discreet_of_duty hduty

/-- **The daemons of a new organism are discreet.** -/
theorem build_discreet {settings : Settings} {setup : Setup} {t : Topology} {senses : Senses}
    {files : FileSystem} (h : build settings setup t senses files = .ok s) : s.Discreet :=
  (build_standard h).discreet

theorem Discreet.step (h : s.Discreet) : s.step.Discreet := by
  refine forall_runDue (P := Daemon.Discreet) (fun d b hd tick => ?_) h s.opened
  rw [d.act_run]
  exact hd tick

/-! ## schedulers that agree in all but notes -/

/-- the schedulers agree in all but the notes of their bodies -/
structure Same (s s' : Scheduler) : Prop where
  rest : s' = { s with body := s'.body }
  body : s.body.Same s'.body

theorem Same.symm (h : s.Same s') : s'.Same s := by
  refine ⟨?_, h.body.symm⟩
  rw [h.rest]

theorem Same.trans {s'' : Scheduler} (h : s.Same s') (h' : s'.Same s'') : s.Same s'' := by
  refine ⟨?_, h.body.trans h'.body⟩
  rw [h'.rest, h.rest]

theorem Same.stopped (h : s.Same s') : s.body.stopped = s'.body.stopped :=
  h.body.congr (f := fun b => b.stopped) fun _ => rfl

theorem Same.discreet (h : s.Same s') (hs : s.Discreet) : s'.Discreet := by
  rw [h.rest]
  exact hs

theorem same_runDue (tick : Nat) {ds : List Daemon} (hd : ∀ d ∈ ds, d.Discreet) {b c : Body}
    (h : b.Same c) :
    (runDue tick ds b).1 = (runDue tick ds c).1 ∧
      (runDue tick ds b).2.1.Same (runDue tick ds c).2.1 ∧
      (runDue tick ds b).2.2 = (runDue tick ds c).2.2 := by
  induction ds generalizing b c with
  | nil => exact ⟨rfl, h, rfl⟩
  | cons d ds ih =>
    obtain ⟨hd, hds⟩ := List.forall_mem_cons.mp hd
    by_cases hdue : d.isDue tick
    · obtain ⟨hdaemon, hbody, hfailed⟩ := hd.run tick h
      obtain ⟨hdaemons, hbodies, hfailures⟩ := ih hds hbody
      rw [runDue_cons_of_due hdue, runDue_cons_of_due hdue]
      dsimp only
      rw [hdaemon, hdaemons, hfailed, hfailures]
      exact ⟨rfl, hbodies, rfl⟩
    · obtain ⟨hdaemons, hbodies, hfailures⟩ := ih hds h
      rw [runDue_cons_of_idle hdue, runDue_cons_of_idle hdue]
      dsimp only
      rw [hdaemons, hfailures]
      exact ⟨rfl, hbodies, rfl⟩

/-- **A tick of discreet daemons is the same for schedulers that agree in all but notes.** -/
theorem Same.step (hs : s.Discreet) (h : s.Same s') : s.step.Same s'.step := by
  obtain ⟨rest, hb⟩ := h
  generalize s'.body = c at rest hb
  subst rest
  obtain ⟨hdaemons, hdue, hfailed⟩ := same_runDue (s.clock + 1) hs (hb.advance (s.clock + 1 : Nat))
  obtain ⟨hqueue, hbody⟩ :=
    Queue.same_drain (Command.discreet_handle s.setup) s.queue hdue
  refine ⟨?_, hbody⟩
  have htopology := hbody.congr (f := fun b => b.topology) fun _ => rfl
  have hbus := hbody.congr (f := fun b => b.bus) fun _ => rfl
  unfold Scheduler.step
  dsimp only
  rw [hdaemons, hqueue, hfailed, htopology, hbus]

theorem Same.steps (hs : s.Discreet) (h : s.Same s') (n : Nat) :
    (steps n s).Same (steps n s') := by
  induction n generalizing s s' with
  | zero => exact h
  | succ n ih => exact ih hs.step (h.step hs)

theorem steps_add (m n : Nat) (s : Scheduler) : steps (m + n) s = steps n (steps m s) := by
  induction m generalizing s with
  | zero => rw [Nat.zero_add]; rfl
  | succ m ih =>
    rw [Nat.succ_add]
    exact ih s.step

theorem Discreet.steps (h : s.Discreet) (n : Nat) : (steps n s).Discreet := by
  induction n generalizing s with
  | zero => exact h
  | succ n ih => exact ih h.step

/-! ## ends of runs -/

def cleared (s : Scheduler) : Scheduler := { s with body := { s.body with stopped := false } }

theorem cleared_eq (h : s.body.stopped = false) : s.cleared = s := by
  unfold cleared
  rw [← h]

theorem Same.cleared (h : s.Same s') : s.cleared.Same s'.cleared := by
  refine ⟨?_, h.body.congr (f := fun b => unnoted { b with stopped := false }) fun _ => rfl⟩
  unfold Scheduler.cleared
  rw [h.rest]

theorem same_begin (s : Scheduler) : s.begin.Same s.cleared := ⟨rfl, rfl⟩

theorem same_close (s : Scheduler) (done : Nat) : (s.close done).Same s := ⟨rfl, rfl⟩

/-- of at most `n` ticks the first `k` take place: the `k`-th is the first after which an end is
asked for, or the last -/
structure Ends (s : Scheduler) (n k : Nat) : Prop where
  le : k ≤ n
  before : ∀ i < k, (steps i s).body.stopped = false
  after : k < n → (steps k s).body.stopped = true

namespace Ends

theorem unique {k' : Nat} (h : s.Ends n k) (h' : s.Ends n k') : k = k' := by
  rcases Nat.lt_trichotomy k k' with hlt | heq | hlt
  · have hstopped := h.after (hlt.trans_le h'.le)
    rw [h'.before k hlt] at hstopped
    cases hstopped
  · exact heq
  · have hstopped := h'.after (hlt.trans_le h.le)
    rw [h.before k' hlt] at hstopped
    cases hstopped

theorem same (hs : s.Discreet) (hsame : s.Same s') (h : s.Ends n k) : s'.Ends n k where
  le := h.le
  before i hi := (hsame.steps hs i).stopped ▸ h.before i hi
  after hk := (hsame.steps hs k).stopped ▸ h.after hk

end Ends

theorem ends_ticks (limit done : Nat) (s : Scheduler) :
    ∃ k, ticks limit done s = (steps k s, done + k) ∧ s.Ends limit k := by
  induction limit generalizing done s with
  | zero => exact ⟨0, rfl, le_refl 0, nofun, nofun⟩
  | succ limit ih =>
    cases hs : s.body.stopped with
    | true =>
      refine ⟨0, ?_, Nat.zero_le _, nofun, fun _ => hs⟩
      rw [ticks, if_pos hs]
      rfl
    | false =>
      obtain ⟨k, hk, hends⟩ := ih (done + 1) s.step
      refine ⟨k + 1, ?_, Nat.succ_le_succ hends.le, ?_, fun h => ?_⟩
      · rw [ticks, if_neg (by rw [hs]; exact Bool.false_ne_true), hk, Nat.add_right_comm,
          Nat.add_assoc]
        rfl
      · intro i hi
        cases i with
        | zero => exact hs
        | succ i => exact hends.before i (Nat.lt_of_succ_lt_succ hi)
      · exact hends.after (Nat.lt_of_succ_lt_succ h)

/-- **A run is so many ticks**, begun with no end asked for, up to the first that ends so. -/
theorem run_ends (hs : s.Discreet) (n : Nat) :
    s.cleared.Ends n (s.run n).2 ∧ (s.run n).1.Same (steps (s.run n).2 s.cleared) := by
  obtain ⟨k, hk, hends⟩ := ends_ticks n 0 s.begin
  rw [Nat.zero_add] at hk
  have hrun : s.run n = ((steps k s.begin).close k, k) := by
    unfold Scheduler.run
    rw [hk]
  have hbegin : s.begin.Discreet := hs
  rw [hrun]
  exact ⟨hends.same hbegin (same_begin s),
    (same_close _ k).trans ((same_begin s).steps hbegin k)⟩

theorem Same.run (hs : s.Discreet) (h : s.Same s') (n : Nat) :
    (s.run n).2 = (s'.run n).2 ∧ (s.run n).1.Same (s'.run n).1 := by
  have hcleared : s.cleared.Discreet := hs
  obtain ⟨hends, hsteps⟩ := run_ends hs n
  obtain ⟨hends', hsteps'⟩ := run_ends (h.discreet hs) n
  have hcount : (s.run n).2 = (s'.run n).2 := (hends.same hcleared h.cleared).unique hends'
  refine ⟨hcount, hsteps.trans (Same.trans ?_ hsteps'.symm)⟩
  rw [← hcount]
  exact h.cleared.steps hcleared _

/-! ## daemons that ask for an end -/

/-- in the next tick a daemon that is due asks for an end in its turn, and is the first to do so -/
def Asks (s : Scheduler) : Prop :=
  ∃ ds d es, s.due = ds ++ d :: es ∧
    (inTurn (s.clock + 1) ds s.opened).stopped = false ∧
    (d.run (s.clock + 1) (inTurn (s.clock + 1) ds s.opened)).2.1.stopped = true

theorem stopped_inTurn {tick : Nat} {ds : List Daemon} (hd : ∀ d ∈ ds, d.Discreet) {b : Body}
    (hb : b.stopped = false) :
    (inTurn tick ds b).stopped = true ↔ ∃ es d fs, ds = es ++ d :: fs ∧
      (inTurn tick es b).stopped = false ∧
      (d.run tick (inTurn tick es b)).2.1.stopped = true := by
  induction ds generalizing b with
  | nil =>
    refine ⟨fun h => ?_, fun ⟨es, d, fs, h, _⟩ => ?_⟩
    · rw [show (inTurn tick [] b).stopped = false from hb] at h
      cases h
    · exact absurd h (by simp)
  | cons d ds ih =>
    obtain ⟨hfirst, hrest⟩ := List.forall_mem_cons.mp hd
    show (inTurn tick ds (d.run tick b).2.1).stopped = true ↔ _
    cases hrun : (d.run tick b).2.1.stopped with
    | true =>
      refine iff_of_true ?_ ⟨[], d, ds, rfl, hb, hrun⟩
      exact inTurn_preserves (P := fun b => b.stopped = true)
        (fun e he b hb => (hrest e he).firm tick hb) hrun
    | false =>
      rw [ih hrest hrun]
      constructor
      · rintro ⟨es, e, fs, rfl, hbefore, hasked⟩
        exact ⟨d :: es, e, fs, rfl, hbefore, hasked⟩
      · rintro ⟨es, e, fs, he, hbefore, hasked⟩
        cases es with
        | nil =>
          obtain ⟨rfl, rfl⟩ := List.cons.inj he
          rw [show (d.run tick (inTurn tick [] b)).2.1.stopped = false from hrun] at hasked
          cases hasked
        | cons e' es =>
          obtain ⟨rfl, rfl⟩ := List.cons.inj he
          exact ⟨es, e, fs, rfl, hbefore, hasked⟩

/-- **After a tick an end is asked for exactly if a daemon asked in it.** -/
theorem stopped_step (hs : s.Discreet) (h : s.body.stopped = false) :
    s.step.body.stopped = true ↔ s.Asks := by
  have hopened : s.opened.stopped = false := by
    have hbare := Body.bare_foldl_notify { s.body with bus := s.body.bus.advance (s.clock + 1 : Nat) }
      (s.body.bus.advance (s.clock + 1 : Nat)).surfaced
    exact (congrArg (fun b => b.stopped) hbare).trans h
  have hcommands : s.step.body.stopped = s.beforeCommands.stopped := by
    rw [body_step]
    refine Queue.keeps_drain (P := fun b => b.stopped = s.beforeCommands.stopped) ?_
      (fun _ _ _ _ hb => hb) rfl
    exact fun w _ => keeps_of_body fun b hb => (Command.stopped_handle s.setup w.2 b).trans hb
  have hdue : ∀ d ∈ s.due, d.Discreet := fun d hd => hs d (List.mem_filter.mp hd).1
  rw [hcommands]
  exact stopped_inTurn hdue hopened

theorem stopped_steps (hs : s.Discreet) (h : s.body.stopped = false)
    (hsilent : ∀ i < n, ¬ (steps i s).Asks) : (steps n s).body.stopped = false := by
  induction n with
  | zero => exact h
  | succ n ih =>
    have hbefore := ih fun i hi => hsilent i (Nat.lt_succ_of_lt hi)
    rw [steps_add n 1 s]
    rw [← Bool.not_eq_true]
    exact mt (stopped_step (hs.steps n) hbefore).mp (hsilent n (Nat.lt_succ_self n))

theorem Ends.of_silent (hs : s.Discreet) (h : s.body.stopped = false) (he : s.Ends n k)
    (hsilent : ∀ i < n, ¬ (steps i s).Asks) : k = n := by
  rcases he.le.lt_or_eq with hlt | heq
  · have hstopped := he.after hlt
    rw [stopped_steps hs h fun i hi => hsilent i (hi.trans hlt)] at hstopped
    cases hstopped
  · exact heq

theorem Ends.of_asks (hs : s.Discreet) (h : s.body.stopped = false) (he : s.Ends n k) {i : Nat}
    (hi : i < n) (hsilent : ∀ j < i, ¬ (steps j s).Asks) (hasks : (steps i s).Asks) :
    k = i + 1 := by
  have hbefore : ∀ j ≤ i, (steps j s).body.stopped = false := fun j hj =>
    stopped_steps hs h fun l hl => hsilent l (hl.trans_le hj)
  have hafter : (steps (i + 1) s).body.stopped = true := by
    rw [steps_add i 1 s]
    exact (stopped_step (hs.steps i) (hbefore i (le_refl i))).mpr hasks
  have hends : s.Ends n (i + 1) :=
    ⟨hi, fun j hj => hbefore j (Nat.le_of_lt_succ hj), fun _ => hafter⟩
  exact he.unique hends

/-! ## complete ticks -/

/-- all that belongs to the next tick is done in it: every daemon that is due has run, every command
that waits and was not withdrawn has an outcome, and the snapshot is one of the body after both -/
structure Completes (s : Scheduler) : Prop where
  clock : s.step.clock = s.clock + 1
  daemons : ∀ (i : Nat) (d : Daemon), s.daemons[i]? = some d → d.isDue (s.clock + 1) = true →
    ∃ d', s.step.daemons[i]? = some d' ∧ d'.count.lastRun = s.clock + 1 ∧
      d'.count.runs = d.count.runs + 1
  waiting : s.step.queue.waiting = []
  commands : ∀ w ∈ s.queue.live, ∀ ticket, s.step.queue.outcome? w.1 = some ticket →
    ticket.isResolved = true
  snapshot : s.step.snapshot = .take s.step.body.topology s.step.body.bus s.step.clock

theorem getElem?_runDue {tick i : Nat} {ds : List Daemon} {d : Daemon} (hd : ds[i]? = some d)
    (hdue : d.isDue tick = true) (b : Body) :
    ∃ c, (runDue tick ds b).1[i]? = some (d.run tick c).1 := by
  induction ds generalizing i b with
  | nil => cases hd
  | cons e ds ih =>
    by_cases he : e.isDue tick
    · rw [runDue_cons_of_due he]
      cases i with
      | zero =>
        cases hd
        exact ⟨b, rfl⟩
      | succ i => exact ih hd _
    · rw [runDue_cons_of_idle he]
      cases i with
      | zero =>
        cases hd
        exact absurd hdue he
      | succ i => exact ih hd _

/-- **Every tick is complete.** -/
theorem completes (s : Scheduler) : s.Completes where
  clock := rfl
  daemons i d hd hdue := by
    obtain ⟨c, hc⟩ := getElem?_runDue hd hdue s.opened
    obtain ⟨hlast, hruns⟩ := d.count_run (s.clock + 1) c
    exact ⟨_, hc, hlast, hruns⟩
  waiting := s.waiting_step
  commands w hw ticket h := by
    rw [queue_step_eq] at h
    refine Queue.isResolved_foldl_record _ ?_ h
    have hhandled : s.handled.map (fun h => (h.id, h.request)) = s.queue.live :=
      Queue.map_handlings _ _ _
    rw [← hhandled] at hw
    obtain ⟨x, hx, rfl⟩ := List.mem_map.mp hw
    exact List.mem_map_of_mem hx
  snapshot := rfl

/-! ## runs -/

/-- **Runs are ticks, one after the other.**  A run leaves what so many ticks leave, apart from
notes: all that were wanted if no daemon asks for an end, and else those up to the first in which
one asks, which is complete like all others.  Without an end, two runs are one.  A later run goes on
from there as if no end had been asked for. -/
theorem run_iterated (hs : s.Discreet) (n : Nat) :
    let t := s.cleared
    let k := (s.run n).2
    (s.run n).1.Same (steps k t) ∧
    ((∀ i < n, ¬ (steps i t).Asks) → k = n) ∧
    (∀ i < n, (∀ j < i, ¬ (steps j t).Asks) → (steps i t).Asks → k = i + 1) ∧
    (∀ i < k, (steps i t).Completes) ∧
    (∀ a b, a + b = n → (∀ i < n, ¬ (steps i t).Asks) →
      ((s.run a).1.run b).1.Same (s.run n).1 ∧ (s.run a).2 + ((s.run a).1.run b).2 = k) ∧
    ∀ m, let u := (steps k t).cleared
      ((s.run n).1.run m).2 = (u.run m).2 ∧
        ((s.run n).1.run m).1.Same (steps (u.run m).2 u) := by
  intro t k
  have ht : t.Discreet := hs
  have hclear : t.body.stopped = false := rfl
  obtain ⟨hends, hsame⟩ := run_ends hs n
  have hrest : (s.run n).1.Discreet := hsame.symm.discreet (ht.steps k)
  refine ⟨hsame, hends.of_silent ht hclear, fun i hi => hends.of_asks ht hclear hi,
    fun i _ => completes _, ?_, ?_⟩
  · rintro a b rfl hsilent
    obtain ⟨hendsA, hsameA⟩ := run_ends hs a
    have ha : (s.run a).2 = a :=
      hendsA.of_silent ht hclear fun i hi => hsilent i (hi.trans_le (Nat.le_add_right a b))
    rw [ha] at hsameA
    have hk : k = a + b := hends.of_silent ht hclear hsilent
    have hmiddle : (steps a t).body.stopped = false :=
      stopped_steps ht hclear fun i hi => hsilent i (hi.trans_le (Nat.le_add_right a b))
    have hrestA : (steps a t).Discreet := ht.steps a
    obtain ⟨hcount, hruns⟩ := hsameA.run (hsameA.symm.discreet hrestA) b
    obtain ⟨hendsB, hsameB⟩ := run_ends hrestA b
    rw [cleared_eq hmiddle] at hendsB hsameB
    have hb : ((steps a t).run b).2 = b := by
      refine hendsB.of_silent hrestA hmiddle fun i hi => ?_
      rw [← steps_add]
      exact hsilent (a + i) (Nat.add_lt_add_left hi a)
    rw [hb, ← steps_add, ← hk] at hsameB
    refine ⟨hruns.trans (hsameB.trans hsame.symm), ?_⟩
    rw [ha, hcount, hb, hk]
  · intro m u
    obtain ⟨hcount, hruns⟩ := hsame.run hrest m
    obtain ⟨-, hsameU⟩ := run_ends (ht.steps k) m
    exact ⟨hcount, hruns.trans hsameU⟩

def stopper : Daemon where
  name := "stopper"
  interval := .whole 1
  act tick := if tick = 2 then Act.stop else pure ()

def stoppable : Scheduler where
  setup := { limits := .standard, simulation := .standard, statePath := .ofString "state.txt" }
  body :=
    { topology := { nodeList := [], organList := [] }
      senses := .script (fun _ f => .ok f.nominal) 0, dice := .scripted [] }
  daemons :=
    [stopper, { name := "heartbeat", interval := .whole 1, act := fun _ => Duty.heartbeat }]
  snapshot := .take { nodeList := [], organList := [] } {} 0
  tickInterval := .whole 0

/-- five ticks that end with the second, in which the heart still beats, and three later ones -/
theorem run_iterated_stoppable :
    (stoppable.run 5).2 = 2 ∧ (stoppable.run 5).1.Same (steps 2 stoppable) ∧
      (steps 2 stoppable).body.beats = 2 ∧ ((stoppable.run 5).1.run 3).2 = 3 ∧
      ((stoppable.run 5).1.run 3).1.Same (steps 3 (steps 2 stoppable).cleared) := by
  have hs : stoppable.Discreet := by
    intro d hd
    simp only [stoppable, List.mem_cons, List.not_mem_nil, or_false] at hd
    rcases hd with rfl | rfl
    · exact fun tick => discreet_stop.ite (discreet_pure ())
    · exact fun tick => discreet_of_blind Duty.says_heartbeat Duty.touches_heartbeat (by decide)
  have hclear : stoppable.cleared = stoppable := cleared_eq rfl
  have hsilent : ∀ j < 1, ¬ (steps j stoppable).Asks := by
    intro j hj
    obtain rfl : j = 0 := Nat.lt_one_iff.mp hj
    have hstep : ¬ stoppable.step.body.stopped = true := by decide +kernel
    exact mt (stopped_step hs rfl).mpr hstep
  have hasks : (steps 1 stoppable).Asks := by
    have hbefore : (steps 1 stoppable).body.stopped = false := by decide +kernel
    have hafter : (steps 1 stoppable).step.body.stopped = true := by decide +kernel
    exact (stopped_step (hs.steps 1) hbefore).mp hafter
  obtain ⟨hsame, -, hends, -, -, hlater⟩ := run_iterated hs 5
  rw [hclear] at hsame hends hlater
  have hcount : (stoppable.run 5).2 = 2 := hends 1 (by decide) hsilent hasks
  obtain ⟨hagain, hsameAgain⟩ := hlater 3
  rw [hcount] at hsame hagain hsameAgain
  have hthree : ((steps 2 stoppable).cleared.run 3).2 = 3 := by decide +kernel
  have hbeats : (steps 2 stoppable).body.beats = 2 := by decide +kernel
  rw [hthree] at hagain hsameAgain
  exact ⟨hcount, hsame, hbeats, hagain, hsameAgain⟩

end Scheduler
end Organism
