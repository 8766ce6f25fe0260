import Organism.Proofs.Daemon.Frame
import Organism.Proofs.Scheduler.Coherence
import Organism.Proofs.Scheduler.Draining
import Organism.Proofs.Signal.Delivery

/-!
# The ticks of a run

Whatever is done to a scheduler, its daemons, its clock and its counts change in ticks only, and
pulses come and go in ticks only.

* `begunAll`              the schedulers on which the ticks of a run begin;
* `opening`, `delivered`  the pulses that a tick delivers, and those of all ticks;
* `due`, `inTurn`, `beforeCommands`   who runs in a tick, and the body that is left to the commands;
* `Lull`, `Still`         what happens between two ticks, and what it leaves alone;
* `applyAll_preserves`, `applyAll_induction`   **what ticks preserve, and what happens between them,
                          or depends on nothing that it changes, holds after any run**;
* `runDue_blind`          daemons do the same on bodies that are alike.
-/

namespace Organism

attribute [local instance] Rounding.binary64

open Body

/-! ## bodies that are alike -/

theorem Body.bare_notify (b : Body) (shown : Observer × Pulse) :
    (b.notify shown).bare = b.bare := by
  unfold notify
  split
  · rfl
  · rfl
  · split <;> rfl

theorem Body.bare_foldl_notify (b : Body) (shown : List (Observer × Pulse)) :
    (shown.foldl notify b).bare = b.bare := by
  induction shown generalizing b with
  | nil => rfl
  | cons s shown ih => rw [List.foldl_cons, ih, bare_notify]

theorem Body.Alike.advance {b c : Body} (h : Alike b c) (tick : Int) :
    Alike (b.advance tick) (c.advance tick) := by
  have hbare : ∀ b : Body, (b.advance tick).bare = { b with bus := b.bus.advance tick }.bare :=
    fun b => bare_foldl_notify _ _
  unfold Alike
  rw [hbare, hbare]
  exact h.congr (f := fun b => { b with bus := b.bus.advance tick }.bare) fun _ => rfl

theorem Daemon.act_run (d : Daemon) (tick : Nat) (b : Body) : (d.run tick b).1.act = d.act := by
  rw [d.run_daemon]

namespace Scheduler

/-! ## ticks that begin -/

def begunIn : (limit : Nat) → Scheduler → List Scheduler
  | 0, _ => []
  | limit + 1, s => if s.body.stopped then [] else s :: begunIn limit s.step

def begun (s : Scheduler) : Event → List Scheduler
  | .step => [s]
  | .run limit => begunIn limit s.begin
  | _ => []

def begunAll (s : Scheduler) : List Event → List Scheduler
  | [] => []
  | e :: es => s.begun e ++ (s.apply e).begunAll es

def opened (s : Scheduler) : Body := s.body.advance (s.clock + 1 : Nat)

def opening (s : Scheduler) : List Pulse := s.opened.bus.inbox

def delivered (s : Scheduler) (es : List Event) : List Pulse := (s.begunAll es).flatMap opening

def due (s : Scheduler) : List Daemon := s.daemons.filter (·.isDue (s.clock + 1))

def inTurn (tick : Nat) (ds : List Daemon) (b : Body) : Body :=
  ds.foldl (fun b d => (d.run tick b).2.1) b

/-- the body that the next tick leaves to the commands -/
def beforeCommands (s : Scheduler) : Body := inTurn (s.clock + 1) s.due s.opened

variable {s s' : Scheduler}

theorem bus_opened (s : Scheduler) : s.opened.bus = s.body.bus.advance (s.clock + 1 : Nat) :=
  Body.bus_advance _ _

theorem opening_eq (s : Scheduler) : s.opening = s.body.bus.pending := by
  unfold opening
  rw [bus_opened]
  rfl

/-! ## daemons in their order -/

theorem runDue_cons_of_due {tick : Nat} {d : Daemon} (h : d.isDue tick) (ds : List Daemon)
    (b : Body) :
    runDue tick (d :: ds) b =
      let p := d.run tick b
      let q := runDue tick ds p.2.1
      (p.1 :: q.1, q.2.1, p.2.2.toNat + q.2.2) := by
  rw [runDue, if_pos h]
  dsimp only
  cases (d.run tick b).2.2
  · exact Prod.ext rfl (Prod.ext rfl (Nat.zero_add _).symm)
  · exact Prod.ext rfl (Prod.ext rfl (Nat.add_comm _ _))

theorem runDue_cons_of_idle {tick : Nat} {d : Daemon} (h : ¬d.isDue tick) (ds : List Daemon)
    (b : Body) :
    runDue tick (d :: ds) b =
      let q := runDue tick ds b
      (d :: q.1, q.2.1, q.2.2) := by
  rw [runDue, if_neg h]

theorem runDue_append (tick : Nat) (ds es : List Daemon) (b : Body) :
    runDue tick (ds ++ es) b =
      let p := runDue tick ds b
      let q := runDue tick es p.2.1
      (p.1 ++ q.1, q.2.1, p.2.2 + q.2.2) := by
  induction ds generalizing b with
  | nil => exact Prod.ext rfl (Prod.ext rfl (Nat.zero_add _).symm)
  | cons d ds ih =>
    rw [List.cons_append]
    by_cases h : d.isDue tick
    · rw [runDue_cons_of_due h, runDue_cons_of_due h]
      dsimp only
      rw [ih]
      exact Prod.ext rfl (Prod.ext rfl (Nat.add_assoc _ _ _).symm)
    · rw [runDue_cons_of_idle h, runDue_cons_of_idle h]
      dsimp only
      rw [ih]
      rfl

theorem runDue_body (tick : Nat) (ds : List Daemon) (b : Body) :
    (runDue tick ds b).2.1 = inTurn tick (ds.filter fun d => d.isDue tick) b := by
  induction ds generalizing b with
  | nil => rfl
  | cons d ds ih =>
    by_cases h : d.isDue tick
    · rw [runDue_cons_of_due h, List.filter_cons, if_pos h]
      exact ih _
    · rw [runDue_cons_of_idle h, List.filter_cons, if_neg h]
      exact ih _

theorem inTurn_preserves {P : Body → Prop} {tick : Nat} {ds : List Daemon}
    (hP : ∀ d ∈ ds, ∀ b, P b → P (d.run tick b).2.1) {b : Body} (hb : P b) :
    P (inTurn tick ds b) := by
  induction ds generalizing b with
  | nil => exact hb
  | cons d ds ih =>
    obtain ⟨hd, hds⟩ := List.forall_mem_cons.mp hP
    exact ih hds (hd b hb)

theorem runDue_cases {tick : Nat} {ds : List Daemon} {b : Body} {d' : Daemon}
    (h : d' ∈ (runDue tick ds b).1) :
    ∃ d ∈ ds, (d.isDue tick = true ∧ ∃ c, d' = (d.run tick c).1) ∨
      (¬ d.isDue tick = true ∧ d' = d) := by
  induction ds generalizing b with
  | nil => cases h
  | cons d ds ih =>
    have later : ∀ {c}, d' ∈ (runDue tick ds c).1 → ∃ e ∈ d :: ds,
        (e.isDue tick = true ∧ ∃ c, d' = (e.run tick c).1) ∨ (¬ e.isDue tick = true ∧ d' = e) :=
      fun h => (ih h).imp fun _ he => ⟨List.mem_cons_of_mem d he.1, he.2⟩
    by_cases hdue : d.isDue tick
    · rw [runDue_cons_of_due hdue] at h
      rcases List.mem_cons.mp h with rfl | h
      · exact ⟨d, List.mem_cons_self, .inl ⟨hdue, b, rfl⟩⟩
      · exact later h
    · rw [runDue_cons_of_idle hdue] at h
      rcases List.mem_cons.mp h with rfl | h
      · exact ⟨_, List.mem_cons_self, .inr ⟨hdue, rfl⟩⟩
      · exact later h

theorem forall_runDue {P : Daemon → Prop} {tick : Nat}
    (hP : ∀ d b, P d → P (d.run tick b).1) {ds : List Daemon} (h : ∀ d ∈ ds, P d) (b : Body) :
    ∀ d ∈ (runDue tick ds b).1, P d := by
  induction ds generalizing b with
  | nil => exact h
  | cons d ds ih =>
    obtain ⟨hd, hds⟩ := List.forall_mem_cons.mp h
    by_cases hdue : d.isDue tick
    · rw [runDue_cons_of_due hdue]
      exact List.forall_mem_cons.mpr ⟨hP d b hd, ih hds _⟩
    · rw [runDue_cons_of_idle hdue]
      exact List.forall_mem_cons.mpr ⟨hd, ih hds _⟩

theorem map_runDue {α : Type} {f : Daemon → α} {tick : Nat}
    (hf : ∀ d b, f (d.run tick b).1 = f d) (ds : List Daemon) (b : Body) :
    (runDue tick ds b).1.map f = ds.map f := by
  induction ds generalizing b with
  | nil => rfl
  | cons d ds ih =>
    by_cases hdue : d.isDue tick
    · rw [runDue_cons_of_due hdue, List.map_cons, List.map_cons, hf, ih]
    · rw [runDue_cons_of_idle hdue, List.map_cons, List.map_cons, ih]

/-- **Blind daemons do the same on bodies that are alike**, and one report is published for each
that fails. -/
theorem runDue_blind (tick : Nat) {ds : List Daemon} (hd : ∀ d ∈ ds, d.Blind) {b c : Body}
    (h : Alike b c) :
    ∃ ms, ms.countP Message.isReport = (runDue tick ds b).2.2 ∧
      (runDue tick ds c).1 = (runDue tick ds b).1 ∧
      Joined ms b c (runDue tick ds b).2.1 (runDue tick ds c).2.1 := by
  induction ds generalizing b c with
  | nil => exact ⟨[], rfl, rfl, joined_nil h⟩
  | cons d ds ih =>
    obtain ⟨hd, hds⟩ := List.forall_mem_cons.mp hd
    by_cases hdue : d.isDue tick
    · obtain ⟨ms, hms, hrun, -, hj⟩ := hd.run tick h
      obtain ⟨ns, hns, hruns, hj'⟩ := ih hds hj.alike
      rw [runDue_cons_of_due hdue, runDue_cons_of_due hdue]
      refine ⟨ms ++ ns, ?_, ?_, hj.trans hj'⟩
      · rw [List.countP_append, hms, hns]
      · dsimp only
        rw [hrun, hruns]
    · obtain ⟨ns, hns, hruns, hj⟩ := ih hds h
      rw [runDue_cons_of_idle hdue, runDue_cons_of_idle hdue]
      refine ⟨ns, hns, ?_, hj⟩
      dsimp only
      rw [hruns]

/-! ## one tick -/

theorem beforeCommands_eq (s : Scheduler) :
    s.beforeCommands = (runDue (s.clock + 1) s.daemons s.opened).2.1 := (runDue_body _ _ _).symm

theorem drain_step (s : Scheduler) :
    (s.step.queue, s.step.body) = s.queue.drain (Command.handle s.setup) s.beforeCommands := by
  rw [beforeCommands_eq]
  rfl

theorem body_step (s : Scheduler) :
    s.step.body = (s.queue.drain (Command.handle s.setup) s.beforeCommands).2 :=
  congrArg Prod.snd s.drain_step

theorem queue_step (s : Scheduler) :
    s.step.queue = (s.queue.drain (Command.handle s.setup) s.beforeCommands).1 :=
  congrArg Prod.fst s.drain_step

/-- no daemon looks at pulses -/
def Blind (s : Scheduler) : Prop := ∀ d ∈ s.daemons, d.Blind

theorem Blind.step (h : s.Blind) : s.step.Blind := by
  refine forall_runDue (fun d b hd tick => ?_) h s.opened
  rw [d.act_run]
  exact hd tick

theorem Blind.pending_step (h : s.Blind) :
    ∃ ms, s.step.body.bus.pending = Bus.stampAll s.body.bus.published (s.clock + 1 : Nat) ms ∧
      ms.countP Message.isReport + s.errors = s.step.errors := by
  obtain ⟨ms, hms, -, hj⟩ := runDue_blind (s.clock + 1) h (rfl : Alike s.opened s.opened)
  obtain ⟨ns, hns, -, hj'⟩ :=
    Queue.drain_blind (Command.blind_handle s.setup) s.queue hj.alike
  refine ⟨ms ++ ns, ?_, ?_⟩
  · have hp := Bus.pending_of_mail (hj.left.trans hj'.left)
    rw [bus_opened] at hp
    exact hp
  · rw [List.countP_append, hms, hns]
    exact Nat.add_comm _ _

/-! ## whatever else is done -/

/-- nothing but the queue and the body is changed, and no pulses come or go -/
structure Still (s s' : Scheduler) : Prop where
  rest : s' = { s with body := s'.body, queue := s'.queue }
  mail : s'.body.bus.mail = s.body.bus.mail

theorem Still.pending (h : Still s s') : s'.body.bus.pending = s.body.bus.pending := by
  show s'.body.bus.mail.pending = s.body.bus.mail.pending
  rw [h.mail]

theorem still_begin (s : Scheduler) : Still s s.begin := ⟨rfl, rfl⟩

theorem still_close (s : Scheduler) (done : Nat) : Still s (s.close done) := ⟨rfl, rfl⟩

theorem still_submit (s : Scheduler) (r : Request) : Still s (s.submit r).1 := ⟨rfl, rfl⟩

theorem still_cancel (s : Scheduler) (id : Nat) : Still s (s.cancel id).1 := ⟨rfl, rfl⟩

theorem still_outside (s : Scheduler) (files : FileSystem) (dice : Dice) :
    Still s (s.apply (.outside files dice)) := ⟨rfl, rfl⟩

theorem restore_alike (path : FilePath) {b c : Body} (h : Alike b c) :
    Joined [] b c ((Act.restore path).run b).2 ((Act.restore path).run c).2 := by
  obtain ⟨ms, hms, -, hj⟩ := (Act.says_restore (K := fun _ => False) path).joined b c h
  obtain rfl : ms = [] := List.eq_nil_iff_forall_not_mem.mpr hms
  exact hj

theorem still_restore (s : Scheduler) (path : FilePath) :
    Still s (s.act (Act.restore path)).2 := ⟨rfl, (restore_alike path rfl).left⟩

/-- what happens between two ticks -/
inductive Lull : Scheduler → Scheduler → Prop
  | begin (s : Scheduler) : Lull s s.begin
  | close (s : Scheduler) (done : Nat) : Lull s (s.close done)
  | submit (s : Scheduler) (r : Request) : Lull s (s.submit r).1
  | cancel (s : Scheduler) (id : Nat) : Lull s (s.cancel id).1
  | restore (s : Scheduler) (path : FilePath) : Lull s (s.act (Act.restore path)).2
  | outside (s : Scheduler) (files : FileSystem) (dice : Dice) :
    Lull s (s.apply (.outside files dice))

theorem Lull.still (h : Lull s s') : Still s s' := by
  cases h with
  | begin => exact still_begin s
  | close done => exact still_close s done
  | submit r => exact still_submit s r
  | cancel id => exact still_cancel s id
  | restore path => exact still_restore s path
  | outside files dice => exact still_outside s files dice

/-! ## runs -/

section
variable {P : Scheduler → List Scheduler → Prop}

theorem ticks_induction (hstep : ∀ s tr, P s tr → P s.step (tr ++ [s])) (limit done : Nat)
    {s : Scheduler} {tr : List Scheduler} (h : P s tr) :
    P (ticks limit done s).1 (tr ++ begunIn limit s) := by
  induction limit generalizing done s tr with
  | zero =>
    show P s (tr ++ [])
    rw [List.append_nil]
    exact h
  | succ limit ih =>
    unfold ticks begunIn
    split
    · rw [List.append_nil]
      exact h
    · rw [← List.singleton_append, ← List.append_assoc]
      exact ih (done + 1) (hstep s tr h)

/-- **What every tick preserves, and whatever happens between ticks, holds after any run.** -/
theorem applyAll_preserves (hstep : ∀ s tr, P s tr → P s.step (tr ++ [s]))
    (hlull : ∀ s s' tr, Lull s s' → P s tr → P s' tr) {s : Scheduler} {tr : List Scheduler}
    (h : P s tr) (es : List Event) : P (s.applyAll es) (tr ++ s.begunAll es) := by
  induction es generalizing s tr with
  | nil =>
    show P s (tr ++ [])
    rw [List.append_nil]
    exact h
  | cons e es ih =>
    have he : P (s.apply e) (tr ++ s.begun e) := by
      have hquiet : ∀ {s'}, Lull s s' → P s' (tr ++ []) := by
        intro s' hs
        rw [List.append_nil]
        exact hlull s s' tr hs h
      cases e with
      | step => exact hstep s tr h
      | run limit =>
        have hb := hlull s s.begin tr (.begin s) h
        exact hlull _ _ _ (.close _ _) (ticks_induction hstep limit 0 hb)
      | submit r => exact hquiet (.submit s r)
      | cancel id => exact hquiet (.cancel s id)
      | restore path => exact hquiet (.restore s path)
      | outside files dice => exact hquiet (.outside s files dice)
    show P ((s.apply e).applyAll es) (tr ++ (s.begun e ++ (s.apply e).begunAll es))
    rw [← List.append_assoc]
    exact ih he

/-- **What every tick preserves, and what depends on nothing that changes between ticks, holds after
any run.** -/
theorem applyAll_induction (hstep : ∀ s tr, P s tr → P s.step (tr ++ [s]))
    (hstill : ∀ s s' tr, Still s s' → P s tr → P s' tr) {s : Scheduler} {tr : List Scheduler}
    (h : P s tr) (es : List Event) : P (s.applyAll es) (tr ++ s.begunAll es) :=
  applyAll_preserves hstep (fun s s' tr hs => hstill s s' tr hs.still) h es

theorem times_of_clocks {tr : List Scheduler} {n : Nat} (h : tr.map (·.clock) = List.range n) :
    tr.map (·.clock + 1) = List.range' 1 n := by
  calc tr.map (·.clock + 1)
      = (tr.map (·.clock)).map (· + 1) := List.map_map.symm
    _ = (List.range n).map (· + 1) := congrArg _ h
    _ = List.range' 1 n := by
        rw [List.range'_eq_map_range]
        exact List.map_congr_left fun m _ => Nat.add_comm m 1

end

end Scheduler

/-! ## new organisms -/

section
variable {setup : Setup}

theorem standardDaemons_blind {settings : SchedulerSettings} {ds : List Daemon}
    (h : standardDaemons setup settings = .ok ds) : ∀ d ∈ ds, d.Blind :=
  standardDaemons_each h (P := fun act => ∀ tick, Act.Says Message.IsPlain (act tick))
    (fun _ => Duty.says_heartbeat) (Duty.says_status setup) (fun _ => Duty.says_policy setup)
    fun _ => Duty.says_simulation setup

variable {settings : Settings} {t : Topology} {senses : Senses} {files : FileSystem}

theorem pending_bodyOf {b : Body} (h : bodyOf settings t senses files = .ok b) :
    b.bus.pending = [] := by
  obtain ⟨length, x, seed, -, -, -, rfl⟩ := bodyOf_cases h
  rfl

namespace Scheduler

variable {s : Scheduler}

theorem build_blind (h : build settings setup t senses files = .ok s) : s.Blind := by
  obtain ⟨body, daemons, -, hdaemons, rfl⟩ := build_cases h
  exact standardDaemons_blind hdaemons

theorem pending_build (h : build settings setup t senses files = .ok s) :
    s.body.bus.pending = [] := by
  obtain ⟨body, daemons, hbody, -, rfl⟩ := build_cases h
  exact pending_bodyOf hbody

end Scheduler
end
end Organism
