import Organism.Proofs.Command.Frame
import Organism.Proofs.Daemon.Frame
import Organism.Proofs.Scheduler.Service

/-!
# A run, turn by turn

In the course of a run the body is worked on by one actor at a time: daemons and commands, someone
who restores it or changes its surroundings, and the scheduler itself, which lets the time pass.

* `Actor`, `Turn`      who has a turn, and the body before and after it;
* `turns`              all turns of a run, in their order;
* `Turn.Genuine`       the turn is what its actor does;
* `Path`               genuine turns, each of which begins where the one before it ended;
* `path_turns`         **the turns of a run lead from its first body to its last**;
* `Genuine.course`     a turn changes what its actor may change: **only commands and others write
                       files, only a daemon and a command set the level of the simulation**;
* `daemon_runs`, `command_ends`   what a daemon and a request do is what happens in their turns;
* `turns_induction`    what holds of turns as they are added, tick by tick.
-/

namespace Organism

attribute [local instance] Rounding.binary64

open Act Body

/-! ## turns -/

/-- who works on the body -/
inductive Actor where
  | daemon (name : String) (tick : Nat)
  | command (r : Request) (outcome : Except Fault CommandResult)
  | restore (path : FilePath)
  | outside
  | clock

structure Turn where
  actor : Actor
  before : Body
  after : Body

namespace Turn

def request? (x : Turn) : Option Request :=
  match x.actor with
  | .command r _ => some r
  | _ => none

def daemon? (x : Turn) : Option (String × Nat) :=
  match x.actor with
  | .daemon name tick => some (name, tick)
  | _ => none

def succeeded (x : Turn) : Bool :=
  match x.actor with
  | .command _ (.ok result) => result.ok
  | _ => false

def bodyAfter (b : Body) (xs : List Turn) : Body := xs.foldl (fun _ x => x.after) b

theorem actor_of_daemon? {x : Turn} {name : String} {tick : Nat}
    (h : x.daemon? = some (name, tick)) : x.actor = .daemon name tick := by
  unfold daemon? at h
  split at h
  · next ha =>
    cases h
    exact ha
  · cases h

end Turn

def Handling.turn (h : Handling) : Turn := ⟨.command h.request h.outcome, h.before, h.next⟩

namespace Handling

variable {h : Handling} {result : CommandResult}

theorem files_next (h : Handling) : h.next.files = h.after.files := by
  unfold next
  split <;> rfl

theorem bus_next (h : Handling) : h.next.bus = h.after.bus := by
  unfold next
  split <;> rfl

theorem next_of_ok (ho : h.outcome = .ok result) : h.next = h.after := by
  unfold next
  rw [ho]

theorem succeeded_ok (ho : h.outcome = .ok result) : h.turn.succeeded = result.ok := by
  unfold turn
  rw [ho]
  rfl

theorem succeeded_error {e : Fault} (ho : h.outcome = .error e) : h.turn.succeeded = false := by
  unfold turn
  rw [ho]
  rfl

end Handling

namespace Scheduler

def daemonTurns (tick : Nat) : List Daemon → Body → List Turn
  | [], _ => []
  | d :: ds, b =>
    let b' := (d.run tick b).2.1
    ⟨.daemon d.name tick, b, b'⟩ :: daemonTurns tick ds b'

/-- the turns of the next tick: the time passes, then daemons, then commands -/
def tickTurns (s : Scheduler) : List Turn :=
  ⟨.clock, s.body, s.opened⟩ ::
    (daemonTurns (s.clock + 1) s.due s.opened ++ s.handled.map Handling.turn)

def turnsIn (s : Scheduler) (e : Event) : List Turn :=
  let after := (s.apply e).body
  match e with
  | .step => s.tickTurns
  | .run limit =>
    ⟨.clock, s.body, s.begin.body⟩ ::
      ((begunIn limit s.begin).flatMap tickTurns ++
        [⟨.clock, (ticks limit 0 s.begin).1.body, after⟩])
  | .submit _ => []
  | .cancel _ => []
  | .restore path => [⟨.restore path, s.body, after⟩]
  | .outside _ _ => [⟨.outside, s.body, after⟩]

def turns (s : Scheduler) : List Event → List Turn
  | [] => []
  | e :: es => s.turnsIn e ++ (s.apply e).turns es

end Scheduler

/-! ## standard daemons -/

theorem Daemon.duty_run (d : Daemon) (tick : Nat) (b : Body) : (d.run tick b).1.duty = d.duty := by
  rw [d.run_daemon]
  rfl

/-- the daemons of the scheduler are the standard ones -/
def Scheduler.Standard (s : Scheduler) : Prop := s.daemons.map Daemon.duty = duties s.setup

/-! ## genuine turns -/

/-- the turn is what its actor does -/
inductive Turn.Genuine (setup : Setup) : Turn → Prop
  | daemon {d : Daemon} (hd : d.duty ∈ duties setup) (tick : Nat) (b : Body) :
    Genuine setup ⟨.daemon d.name tick, b, (d.run tick b).2.1⟩
  | command {h : Handling}
    (hrun : (Command.handle setup h.request).run h.before = (h.outcome, h.after)) :
    Genuine setup h.turn
  | restore (path : FilePath) (b : Body) :
    Genuine setup ⟨.restore path, b, ((Act.restore path).run b).2⟩
  | outside (b : Body) (files : FileSystem) (dice : Dice) :
    Genuine setup ⟨.outside, b, { b with files, dice }⟩
  | clock {b b' : Body} (h : b'.core = b.core) : Genuine setup ⟨.clock, b, b'⟩

/-- genuine turns, each of which begins where the one before it ended -/
inductive Path (setup : Setup) : Body → List Turn → Body → Prop
  | nil (b : Body) : Path setup b [] b
  | cons {x : Turn} {xs : List Turn} {b : Body} :
    x.Genuine setup → Path setup x.after xs b → Path setup x.before (x :: xs) b

namespace Path

variable {setup : Setup} {b b' c : Body} {x : Turn} {xs ys : List Turn}

theorem single (h : x.Genuine setup) : Path setup x.before [x] x.after := .cons h (.nil _)

theorem append (h : Path setup b xs c) (h' : Path setup c ys b') : Path setup b (xs ++ ys) b' := by
  induction h with
  | nil => exact h'
  | cons hx _ ih => exact .cons hx (ih h')

theorem split (h : Path setup b (xs ++ ys) b') : ∃ c, Path setup b xs c ∧ Path setup c ys b' := by
  induction xs generalizing b with
  | nil => exact ⟨b, .nil b, h⟩
  | cons x xs ih =>
    cases h with
    | cons hx h =>
      obtain ⟨c, hxs, hys⟩ := ih h
      exact ⟨c, .cons hx hxs, hys⟩

theorem split_at (h : Path setup b (xs ++ x :: ys) b') :
    Path setup b xs x.before ∧ x.Genuine setup ∧ Path setup x.after ys b' := by
  obtain ⟨c, hxs, h⟩ := h.split
  cases h with
  | cons hx hys => exact ⟨hxs, hx, hys⟩

theorem end_eq (h : Path setup b xs b') : b' = Turn.bodyAfter b xs := by
  induction h with
  | nil => rfl
  | cons _ _ ih => exact ih

/-- **What every turn on the way preserves holds at its end.** -/
theorem preserves {P : Body → Prop} (h : Path setup b xs b')
    (hP : ∀ x ∈ xs, x.Genuine setup → P x.before → P x.after) (hb : P b) : P b' := by
  induction h with
  | nil => exact hb
  | cons hx _ ih =>
    obtain ⟨hPx, hPs⟩ := List.forall_mem_cons.mp hP
    exact ih hPs (hPx hx hb)

end Path

/-! ## what turns leave alone -/

def Actor.Writes : Actor → Prop
  | .command r _ => r.operation = .save
  | .outside => True
  | _ => False

def Actor.Sets : Actor → Prop
  | .daemon name _ => name = "ai_cortex"
  | .command r _ => r.operation = .setSim
  | _ => False

theorem touches_duty {setup : Setup} {d : Daemon} (hd : d.duty ∈ duties setup) (tick : Nat) :
    ∃ S, Touches S (d.act tick) ∧ .files ∉ S ∧ (.simLevel ∈ S → d.name = "ai_cortex") := by
  refine duty_cases hd (P := fun name act =>
    ∃ S, Touches S (act tick) ∧ .files ∉ S ∧ (.simLevel ∈ S → name = "ai_cortex")) ?_ ?_ ?_ ?_
  · exact ⟨_, Duty.touches_heartbeat, by decide, fun h => absurd h (by decide)⟩
  · exact ⟨_, Duty.touches_status setup tick, by decide, fun h => absurd h (by decide)⟩
  · exact ⟨_, Duty.touches_policy setup, by decide, fun _ => rfl⟩
  · exact ⟨_, Duty.touches_simulation setup, by decide, fun h => absurd h (by decide)⟩

theorem Handling.course_next {S : List Part} {h : Handling} (hS : .notes ∈ S)
    (hc : Course S h.before h.after) : Course S h.before h.next := by
  unfold next
  split
  · exact hc
  · exact hc.tail ⟨.notes, hS, .note _ _ _ _⟩

/-- **A turn changes what its actor may change.** -/
theorem Turn.Genuine.course {setup : Setup} {x : Turn} (h : x.Genuine setup) :
    ∃ S, Course S x.before x.after ∧ (.files ∈ S → x.actor.Writes) ∧
      (.simLevel ∈ S → x.actor.Sets) := by
  cases h with
  | @daemon d hd tick b =>
    obtain ⟨S, hS, hfiles, hlevel⟩ := touches_duty hd tick
    refine ⟨_, Daemon.course_run hS b, fun h => ?_, fun h => hlevel (by simpa using h)⟩
    exact absurd (by simpa using h) hfiles
  | @command h hrun =>
    have hc := (Command.touches_handle setup h.request).course h.before
    rw [hrun] at hc
    refine ⟨_, Handling.course_next (by simp) hc, fun h => ?_, fun h => ?_⟩
    · exact Operation.parts_files (by simpa using h)
    · exact Operation.parts_simLevel (by simpa using h)
  | restore path b =>
    refine ⟨_, (touches_restore path).course b, fun h => ?_, fun h => ?_⟩
    · exact absurd h (by decide)
    · exact absurd h (by decide)
  | outside b files dice =>
    have hfiles : Course [.files, .dice] b { b with files } :=
      .single ⟨.files, by decide, .files b files⟩
    refine ⟨_, hfiles.tail ⟨.dice, by decide, .dice _ dice⟩, fun _ => trivial, fun h => ?_⟩
    exact absurd h (by decide)
  | @clock b b' h =>
    refine ⟨[.time], .single ⟨.time, by decide, .time h⟩, fun h => ?_, fun h => ?_⟩
    · exact absurd h (by decide)
    · exact absurd h (by decide)

/-! ## what is known of a turn -/

theorem act_of_duty {setup : Setup} {d : Daemon} (hd : d.duty ∈ duties setup) :
    (duties setup).lookup d.name = some d.act :=
  duty_cases hd (P := fun name act => (duties setup).lookup name = some act) rfl rfl rfl rfl

namespace Turn.Genuine

variable {setup : Setup} {x : Turn} (hx : x.Genuine setup)
include hx

theorem daemon_runs {name : String} {tick : Nat} (ha : x.actor = .daemon name tick) :
    ∃ d : Daemon, (duties setup).lookup name = some d.act ∧
      x.after = (d.run tick x.before).2.1 := by
  cases hx with
  | @daemon d hd _ b =>
    obtain ⟨rfl, rfl⟩ := Actor.daemon.inj ha
    exact ⟨d, act_of_duty hd, rfl⟩
  | _ => cases ha

theorem command_ends {r : Request} {P : Body → Prop} {Q : CommandResult → Body → Prop}
    {E : Fault → Body → Prop} (hreq : x.request? = some r)
    (h : Leads P (Command.handle setup r) Q E) (hb : P x.before) :
    (∃ result, x.succeeded = result.ok ∧ Q result x.after) ∨
      ∃ e b', x.succeeded = false ∧ E e b' ∧ x.after.files = b'.files ∧ x.after.bus = b'.bus := by
  cases hx with
  | @command h' hrun =>
    obtain rfl : h'.request = r := Option.some.inj hreq
    have hend := h.after h'.before hb
    rw [hrun] at hend
    cases ho : h'.outcome with
    | error e =>
      rw [ho] at hend
      exact .inr ⟨e, h'.after, Handling.succeeded_error ho, hend, h'.files_next, h'.bus_next⟩
    | ok result =>
      rw [ho] at hend
      refine .inl ⟨result, Handling.succeeded_ok ho, ?_⟩
      show Q result h'.next
      rw [Handling.next_of_ok ho]
      exact hend
  | _ => cases hreq

end Turn.Genuine

/-! ## the turns of runs -/

namespace Scheduler

variable {s : Scheduler}

theorem path_daemonTurns {setup : Setup} (tick : Nat) {ds : List Daemon}
    (hd : ∀ d ∈ ds, d.duty ∈ duties setup) (b : Body) :
    Path setup b (daemonTurns tick ds b) (inTurn tick ds b) := by
  induction ds generalizing b with
  | nil => exact .nil b
  | cons d ds ih =>
    obtain ⟨hd, hds⟩ := List.forall_mem_cons.mp hd
    exact .cons (.daemon hd tick b) (ih hds _)

theorem path_served {setup : Setup} {b b' : Body} {hs : List Handling}
    (h : Queue.Served (Command.handle setup) b hs b') : Path setup b (hs.map Handling.turn) b' := by
  induction h with
  | nil b => exact .nil b
  | cons hrun _ ih => exact .cons (.command hrun) ih

theorem core_opened (s : Scheduler) : s.opened.core = s.body.core := by
  have hbare : s.opened.bare = { s.body with bus := s.body.bus.advance (s.clock + 1 : Nat) }.bare :=
    Body.bare_foldl_notify _ _
  have hcore : s.opened.bare.core = _ := congrArg Body.core hbare
  exact hcore

theorem Standard.due (h : s.Standard) : (s.due.map Daemon.duty).Sublist (duties s.setup) := by
  rw [← h]
  exact List.filter_sublist.map Daemon.duty

theorem path_tickTurns (h : s.Standard) : Path s.setup s.body s.tickTurns s.step.body := by
  have hdue : ∀ d ∈ s.due, d.duty ∈ duties s.setup := fun d hd =>
    h.due.subset (List.mem_map_of_mem hd)
  refine .cons (.clock s.core_opened) ?_
  exact (path_daemonTurns _ hdue s.opened).append (path_served s.served_step)

theorem duty_runDue (tick : Nat) (ds : List Daemon) (b : Body) :
    (runDue tick ds b).1.map Daemon.duty = ds.map Daemon.duty :=
  map_runDue (fun d b => d.duty_run tick b) ds b

theorem Standard.step (h : s.Standard) : s.step.Standard := (duty_runDue _ _ _).trans h

section
variable {settings : Settings} {setup : Setup} {t : Topology} {senses : Senses}
  {files : FileSystem} (h : build settings setup t senses files = .ok s)
include h

theorem build_standard : s.Standard := by
  obtain ⟨body, daemons, -, hdaemons, rfl⟩ := build_cases h
  exact standardDaemons_duties hdaemons

theorem build_parts :
    s.setup = setup ∧ s.body.topology = t ∧ s.body.files = files ∧
      s.body.bus.awareness.InUnit := by
  obtain ⟨body, daemons, hbody, -, rfl⟩ := build_cases h
  obtain ⟨length, x, seed, -, -, -, rfl⟩ := bodyOf_cases hbody
  exact ⟨rfl, rfl, rfl, Number.inUnit_toUnit x⟩

end

section
variable {P : Scheduler → List Turn → Prop}

theorem begunIn_induction (htick : ∀ s xs, P s xs → P s.step (xs ++ s.tickTurns))
    (limit done : Nat) {s : Scheduler} {xs : List Turn} (h : P s xs) :
    P (ticks limit done s).1 (xs ++ (begunIn limit s).flatMap tickTurns) := by
  induction limit generalizing done s xs with
  | zero =>
    show P s (xs ++ [])
    rw [List.append_nil]
    exact h
  | succ limit ih =>
    unfold ticks begunIn
    split
    · show P s (xs ++ [])
      rw [List.append_nil]
      exact h
    · rw [List.flatMap_cons, ← List.append_assoc]
      exact ih (done + 1) (htick s xs h)

/-- **What holds of the turns so far as they are added, tick by tick or one between two ticks, holds
of all turns of a run.** -/
theorem turns_induction (htick : ∀ s xs, P s xs → P s.step (xs ++ s.tickTurns))
    (hqueue : ∀ s queue xs, P s xs → P { s with queue } xs)
    (hturn : ∀ s x xs, P s xs → x.Genuine s.setup → x.before = s.body →
      (∀ name tick, x.actor ≠ .daemon name tick) → P { s with body := x.after } (xs ++ [x]))
    {s : Scheduler} {xs : List Turn} (h : P s xs) (es : List Event) :
    P (s.applyAll es) (xs ++ s.turns es) := by
  induction es generalizing s xs with
  | nil =>
    show P s (xs ++ [])
    rw [List.append_nil]
    exact h
  | cons e es ih =>
    have he : P (s.apply e) (xs ++ s.turnsIn e) := by
      cases e with
      | step => exact htick s xs h
      | run limit =>
        have hbegin := hturn s ⟨.clock, s.body, s.begin.body⟩ xs h (.clock rfl) rfl nofun
        have hticks := begunIn_induction htick limit 0 (s := s.begin) hbegin
        have hclose := hturn _ ⟨.clock, (ticks limit 0 s.begin).1.body, (s.run limit).1.body⟩ _
          hticks (.clock rfl) rfl nofun
        show P (s.run limit).1 (xs ++ ([_] ++ (_ ++ _)))
        rw [← List.append_assoc, ← List.append_assoc]
        exact hclose
      | submit r =>
        show P _ (xs ++ [])
        rw [List.append_nil]
        exact hqueue s _ xs h
      | cancel id =>
        show P _ (xs ++ [])
        rw [List.append_nil]
        exact hqueue s _ xs h
      | restore path =>
        exact hturn s ⟨.restore path, s.body, _⟩ xs h (.restore path s.body) rfl nofun
      | outside files dice =>
        exact hturn s ⟨.outside, s.body, _⟩ xs h (.outside s.body files dice) rfl nofun
    show P ((s.apply e).applyAll es) (xs ++ (s.turnsIn e ++ (s.apply e).turns es))
    rw [← List.append_assoc]
    exact ih he

end

/-- **The turns of a run lead from its first body to its last.** -/
theorem path_turns (h : s.Standard) (es : List Event) :
    Path s.setup s.body (s.turns es) (s.applyAll es).body := by
  have hstart : s.Standard ∧ s.setup = s.setup ∧ Path s.setup s.body [] s.body :=
    ⟨h, rfl, .nil s.body⟩
  have hall := turns_induction
    (P := fun u xs => u.Standard ∧ u.setup = s.setup ∧ Path s.setup s.body xs u.body)
    ?_ ?_ ?_ hstart es
  · exact hall.2.2
  · rintro u xs ⟨hu, hsetup, hp⟩
    refine ⟨hu.step, hsetup, hp.append ?_⟩
    rw [← hsetup]
    exact path_tickTurns hu
  · exact fun u queue xs h => h
  · rintro u x xs ⟨hu, hsetup, hp⟩ hx hbefore -
    refine ⟨hu, hsetup, hp.append ?_⟩
    rw [← hbefore]
    exact .single (hsetup ▸ hx)

end Scheduler
end Organism
