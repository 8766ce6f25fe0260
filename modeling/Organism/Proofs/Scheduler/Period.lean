import Organism.Proofs.Scheduler.Ticks

/-!
# Periods and failures

A daemon is due when its interval has passed since its last run.  As it has run even if it failed,
its runs never get out of step.

* `Value.IsPeriod`        an interval of a positive whole number of ticks;
* `Daemon.Punctual`       after some ticks, the daemon has run in every `k`-th of them;
* `isDue_iff`             such a daemon is due in the next tick if and only if `k` divides it;
* `Punctual.run`, `Punctual.idle`   **a tick keeps it so, whether the daemon fails or not**;
* `Scheduler.OnSchedule`  punctual daemons, and a count of failures that agrees with the counts of
                          the daemons and with the reports on the bus;
* `OnSchedule.step`       **one tick preserves it**;
* `daemons_on_period`     the same of every new organism after any operations.
-/

namespace Organism

attribute [local instance] Rounding.binary64

def Value.IsPeriod (v : Value) (k : Nat) : Prop :=
  0 < k ∧ ∃ q, v.quantity? = some q ∧ q.exact = .finite k

/-! ## one daemon -/

namespace Daemon

/-- the daemon has the name and the period, and in `n` ticks it has run in every one that the period
divides -/
structure Punctual (n : Nat) (d : Daemon) (p : String × Nat) : Prop where
  name : d.name = p.1
  positive : 0 < p.2
  interval : d.interval.exact = .finite p.2
  runs : d.count.runs = n / p.2
  lastRun : d.count.lastRun = p.2 * (n / p.2)

variable {d : Daemon} {p : String × Nat} {n : Nat}

theorem punctual_create {name : String} {interval : Value} {act : Nat → Act Unit} {k : Nat}
    (hk : interval.IsPeriod k) (h : create name interval act = .ok d) : d.Punctual 0 (name, k) := by
  obtain ⟨hpos, q, hq, hexact⟩ := hk
  obtain ⟨q', hq', -, rfl⟩ := create_cases h
  obtain rfl : q = q' := Option.some.inj (hq.symm.trans hq')
  exact ⟨rfl, hpos, hexact, (Nat.zero_div k).symm, (congrArg (k * ·) (Nat.zero_div k)).symm⟩

theorem Punctual.isDue_iff (h : d.Punctual n p) : d.isDue (n + 1) = true ↔ p.2 ∣ n + 1 := by
  have hdue : d.isDue (n + 1) = true ↔ (p.2 : Int) ≤ (n + 1 : Nat) - (p.2 * (n / p.2) : Nat) := by
    unfold isDue
    rw [decide_eq_true_iff, h.interval, h.lastRun, Number.le_finite]
    exact_mod_cast Iff.rfl
  have hdiv := Nat.div_add_mod n p.2
  have hlt := Nat.mod_lt n h.positive
  rw [hdue, Nat.dvd_iff_mod_eq_zero, ← Nat.mod_add_mod]
  rcases Nat.lt_or_eq_of_le (Nat.succ_le_of_lt hlt) with hless | heq
  · rw [Nat.mod_eq_of_lt hless]
    omega
  · rw [show n % p.2 + 1 = p.2 from heq, Nat.mod_self]
    omega

theorem errors_run (d : Daemon) (tick : Nat) (b : Body) :
    (d.run tick b).1.count.errors = d.count.errors + (d.run tick b).2.2.toNat :=
  congrArg (fun d => d.count.errors) (d.run_daemon tick b)

theorem Punctual.run (h : d.Punctual n p) (hdue : p.2 ∣ n + 1) (b : Body) :
    (d.run (n + 1) b).1.Punctual (n + 1) p := by
  have hruns : d.count.runs + 1 = (n + 1) / p.2 := by rw [Nat.succ_div_of_dvd hdue, h.runs]
  have hlast : n + 1 = p.2 * ((n + 1) / p.2) := (Nat.mul_div_cancel' hdue).symm
  rw [d.run_daemon]
  exact ⟨h.name, h.positive, h.interval, hruns, hlast⟩

theorem Punctual.idle (h : d.Punctual n p) (hdue : ¬p.2 ∣ n + 1) : d.Punctual (n + 1) p := by
  have hdiv : (n + 1) / p.2 = n / p.2 := Nat.succ_div_of_not_dvd hdue
  exact ⟨h.name, h.positive, h.interval, hdiv ▸ h.runs, hdiv ▸ h.lastRun⟩

end Daemon

namespace Scheduler

open Daemon

/-! ## all daemons -/

variable {ds : List Daemon} {ps : List (String × Nat)} {n : Nat}

theorem punctual_runDue (h : List.Forall₂ (Punctual n) ds ps) (b : Body) :
    List.Forall₂ (Punctual (n + 1)) (runDue (n + 1) ds b).1 ps := by
  induction h generalizing b with
  | nil => exact .nil
  | @cons d p ds ps hd _ ih =>
    by_cases hdue : d.isDue (n + 1)
    · rw [runDue_cons_of_due hdue]
      exact .cons (hd.run (hd.isDue_iff.mp hdue) b) (ih _)
    · rw [runDue_cons_of_idle hdue]
      exact .cons (hd.idle fun hdvd => hdue (hd.isDue_iff.mpr hdvd)) (ih b)

theorem names_of_due (h : List.Forall₂ (Punctual n) ds ps) :
    (ds.filter (·.isDue (n + 1))).map (·.name)
      = (ps.filter fun p => p.2 ∣ n + 1).map Prod.fst := by
  induction h with
  | nil => rfl
  | @cons d p ds ps hd _ ih =>
    rw [List.filter_cons, List.filter_cons]
    by_cases hdue : d.isDue (n + 1)
    · rw [if_pos hdue, if_pos (decide_eq_true (hd.isDue_iff.mp hdue)), List.map_cons,
        List.map_cons, ih, hd.name]
    · have hp : ¬decide (p.2 ∣ n + 1) = true := by
        rw [decide_eq_true_iff, ← hd.isDue_iff]
        exact hdue
      rw [if_neg hdue, if_neg hp, ih]

theorem counts_of_punctual (h : List.Forall₂ (Punctual n) ds ps) :
    ds.map (fun d => (d.name, d.count.runs, d.count.lastRun))
      = ps.map fun p => (p.1, n / p.2, p.2 * (n / p.2)) := by
  induction h with
  | nil => rfl
  | cons hd _ ih => rw [List.map_cons, List.map_cons, ih, hd.name, hd.runs, hd.lastRun]

theorem errors_runDue (tick : Nat) (ds : List Daemon) (b : Body) :
    ((runDue tick ds b).1.map (·.count.errors)).sum
      = (ds.map (·.count.errors)).sum + (runDue tick ds b).2.2 := by
  induction ds generalizing b with
  | nil => rfl
  | cons d ds ih =>
    by_cases hdue : d.isDue tick
    · rw [runDue_cons_of_due hdue]
      dsimp only
      rw [List.map_cons, List.map_cons, List.sum_cons, List.sum_cons, ih, errors_run]
      omega
    · rw [runDue_cons_of_idle hdue]
      dsimp only
      rw [List.map_cons, List.map_cons, List.sum_cons, List.sum_cons, ih, Nat.add_assoc]

/-! ## runs -/

/-- what is true of a scheduler with daemons of the given names and periods, after ticks that began
on the given schedulers -/
structure OnSchedule (ps : List (String × Nat)) (s : Scheduler) (ticks : List Scheduler) :
    Prop where
  punctual : List.Forall₂ (Punctual s.clock) s.daemons ps
  blind : s.Blind
  clocks : ticks.map (·.clock) = List.range s.clock
  /-- in every tick the daemons ran of which the period divides it -/
  due : ∀ u ∈ ticks, u.due.map (·.name) = (ps.filter fun p => p.2 ∣ u.clock + 1).map Prod.fst
  commands : s.commandRuns.runs = s.clock ∧ s.commandRuns.lastRun = s.clock
  errors : s.errors = (s.daemons.map (·.count.errors)).sum + s.commandRuns.errors
  reports : s.errors = (ticks.flatMap opening ++ s.body.bus.pending).countP (·.isReport)

variable {s s' : Scheduler} {ticks : List Scheduler}

/-- **One tick keeps the daemons on schedule, whichever of them fail.** -/
theorem OnSchedule.step (h : OnSchedule ps s ticks) : OnSchedule ps s.step (ticks ++ [s]) where
  punctual := punctual_runDue h.punctual s.opened
  blind := h.blind.step
  clocks := by
    rw [List.map_append, h.clocks]
    exact List.range_succ.symm
  due := by
    intro u hu
    rcases List.mem_append.mp hu with hu | hu
    · exact h.due u hu
    · obtain rfl := List.mem_singleton.mp hu
      exact names_of_due h.punctual
  commands := ⟨congrArg (· + 1) h.commands.1, rfl⟩
  errors := by
    show s.errors + (runDue (s.clock + 1) s.daemons s.opened).2.2
      = ((runDue (s.clock + 1) s.daemons s.opened).1.map _).sum + s.commandRuns.errors
    rw [errors_runDue, h.errors]
    omega
  reports := by
    obtain ⟨ms, hpending, hcount⟩ := h.blind.pending_step
    rw [← hcount, hpending, List.flatMap_append, List.flatMap_singleton, opening_eq,
      List.countP_append, ← h.reports, Bus.countP_stampAll, Nat.add_comm]

theorem OnSchedule.still (hs : Still s s') (h : OnSchedule ps s ticks) :
    OnSchedule ps s' ticks := by
  have hpending := hs.pending
  have hrest := hs.rest
  generalize s'.body = body at hrest hpending
  generalize s'.queue = queue at hrest
  subst hrest
  exact ⟨h.punctual, h.blind, h.clocks, h.due, h.commands, h.errors, hpending ▸ h.reports⟩

end Scheduler

/-! ## new organisms -/

section
variable {settings : Settings} {setup : Setup} {t : Topology} {senses : Senses}
  {files : FileSystem} {s : Scheduler}

theorem standardDaemons_punctual {settings : SchedulerSettings} {ds : List Daemon}
    {heartbeat status ai simulation : Nat}
    (hheartbeat : settings.heartbeatInterval.IsPeriod heartbeat)
    (hstatus : settings.statusInterval.IsPeriod status) (hai : settings.aiInterval.IsPeriod ai)
    (hsimulation : settings.simulationInterval.IsPeriod simulation)
    (h : standardDaemons setup settings = .ok ds) :
    List.Forall₂ (Daemon.Punctual 0) ds [("heartbeat", heartbeat), ("status", status),
      ("ai_cortex", ai), ("simulation", simulation)] := by
  obtain ⟨d₁, d₂, d₃, d₄, rfl, h₁, h₂, h₃, h₄⟩ := standardDaemons_cases h
  exact .cons (Daemon.punctual_create hheartbeat h₁) (.cons (Daemon.punctual_create hstatus h₂)
    (.cons (Daemon.punctual_create hai h₃) (.cons (Daemon.punctual_create hsimulation h₄) .nil)))

theorem standardDaemons_errors {settings : SchedulerSettings} {ds : List Daemon}
    (h : standardDaemons setup settings = .ok ds) : (ds.map (·.count.errors)).sum = 0 := by
  obtain ⟨d₁, d₂, d₃, d₄, rfl, h₁, h₂, h₃, h₄⟩ := standardDaemons_cases h
  simp only [List.map_cons, List.map_nil, Daemon.count_create h₁, Daemon.count_create h₂,
    Daemon.count_create h₃, Daemon.count_create h₄]
  rfl

namespace Scheduler

theorem build_onSchedule {heartbeat status ai simulation : Nat}
    (hheartbeat : settings.scheduler.heartbeatInterval.IsPeriod heartbeat)
    (hstatus : settings.scheduler.statusInterval.IsPeriod status)
    (hai : settings.scheduler.aiInterval.IsPeriod ai)
    (hsimulation : settings.scheduler.simulationInterval.IsPeriod simulation)
    (h : build settings setup t senses files = .ok s) :
    OnSchedule [("heartbeat", heartbeat), ("status", status), ("ai_cortex", ai),
      ("simulation", simulation)] s [] := by
  have hblind := build_blind h
  have hpending := pending_build h
  obtain ⟨body, daemons, -, hdaemons, rfl⟩ := build_cases h
  refine ⟨standardDaemons_punctual hheartbeat hstatus hai hsimulation hdaemons, hblind, rfl, ?_,
    ⟨rfl, rfl⟩, ?_, ?_⟩
  · intro u hu
    cases hu
  · exact (standardDaemons_errors hdaemons).symm
  · rw [hpending]
    rfl

/-- **Every daemon runs exactly on its period, whatever fails.**  After any operations on a new
organism, with a tick at each of the times 1, 2, 3 and so on:

* in each tick those daemons ran of which the period divides the time, in the order of the list, and
  then the commands;
* a daemon with the period `k` has run `n / k` times in `n` ticks, the last time in the last tick
  that `k` divides, and the commands have had their turn in every tick;
* the failures that were counted are as many as the daemons counted and as many as were reported. -/
theorem daemons_on_period {heartbeat status ai simulation : Nat}
    (hheartbeat : settings.scheduler.heartbeatInterval.IsPeriod heartbeat)
    (hstatus : settings.scheduler.statusInterval.IsPeriod status)
    (hai : settings.scheduler.aiInterval.IsPeriod ai)
    (hsimulation : settings.scheduler.simulationInterval.IsPeriod simulation)
    (h : build settings setup t senses files = .ok s) (events : List Event) :
    let periods := [("heartbeat", heartbeat), ("status", status), ("ai_cortex", ai),
      ("simulation", simulation)]
    let final := s.applyAll events
    let n := final.clock
    (s.begunAll events).map (·.clock + 1) = List.range' 1 n ∧
      (∀ u ∈ s.begunAll events,
        u.due.map (·.name) = (periods.filter fun p => p.2 ∣ u.clock + 1).map Prod.fst ∧
        u.step.body = (u.queue.drain (Command.handle u.setup)
          (inTurn (u.clock + 1) u.due u.opened)).2) ∧
      final.daemons.map (fun d => (d.name, d.count.runs, d.count.lastRun))
        = periods.map (fun p => (p.1, n / p.2, p.2 * (n / p.2))) ∧
      final.commandRuns.runs = n ∧ final.commandRuns.lastRun = n ∧
      final.errors = (final.daemons.map (·.count.errors)).sum + final.commandRuns.errors ∧
      final.errors = (s.delivered events ++ final.body.bus.pending).countP (·.isReport) := by
  intro periods final n
  have hall : OnSchedule periods final ([] ++ s.begunAll events) :=
    applyAll_induction (P := OnSchedule periods) (fun _ _ => OnSchedule.step)
      (fun _ _ _ => OnSchedule.still) (build_onSchedule hheartbeat hstatus hai hsimulation h) events
  exact ⟨times_of_clocks hall.clocks, fun u hu => ⟨hall.due u hu, body_step u⟩,
    counts_of_punctual hall.punctual, hall.commands.1, hall.commands.2, hall.errors, hall.reports⟩

/-- an organism with senses that always break down, in eight ticks -/
theorem daemons_on_period_breakdown :
    let settings : Settings := { Settings.standard with
      scheduler := { Settings.standard.scheduler with
        heartbeatInterval := .whole 2, statusInterval := .real 3, aiInterval := .flag true
        simulationInterval := .whole 20 } }
    let events : List Event := [.step, .run 4, .submit { operation := .heal }, .run 3]
    settings.scheduler.heartbeatInterval.IsPeriod 2 ∧ settings.scheduler.statusInterval.IsPeriod 3 ∧
      settings.scheduler.aiInterval.IsPeriod 1 ∧ settings.scheduler.simulationInterval.IsPeriod 20 ∧
      ∃ s, build settings (setupOf settings) (.sample 1)
          (.script (fun _ _ => .error (.breakdown "no sensor")) 0) {} = .ok s ∧
        let final := s.applyAll events
        (s.begunAll events).map (·.clock + 1) = [1, 2, 3, 4, 5, 6, 7, 8] ∧
          final.daemons.map (fun d => (d.name, d.count.runs, d.count.lastRun))
            = [("heartbeat", 4, 8), ("status", 2, 6), ("ai_cortex", 8, 8), ("simulation", 0, 0)] ∧
          (final.daemons.map (·.count.errors)).sum + final.commandRuns.errors = 2 ∧
          (s.delivered events ++ final.body.bus.pending).countP (·.isReport) = 2 := by
  intro settings events
  have h₁ : settings.scheduler.heartbeatInterval.IsPeriod 2 := ⟨by decide, .whole 2, rfl, rfl⟩
  have h₂ : settings.scheduler.statusInterval.IsPeriod 3 := ⟨by decide, .real 3, rfl, rfl⟩
  have h₃ : settings.scheduler.aiInterval.IsPeriod 1 := ⟨by decide, .flag true, rfl, rfl⟩
  have h₄ : settings.scheduler.simulationInterval.IsPeriod 20 := ⟨by decide, .whole 20, rfl, rfl⟩
  have hrun : (build settings (setupOf settings) (.sample 1)
      (.script (fun _ _ => .error (.breakdown "no sensor")) 0) {}).toOption.map
        (fun s => ((s.applyAll events).clock, (s.applyAll events).errors)) = some (8, 2) := by
    decide +kernel
  have hbuilt : (build settings (setupOf settings) (.sample 1)
      (.script (fun _ _ => .error (.breakdown "no sensor")) 0) {}).isOk = true := by decide +kernel
  obtain ⟨s, h⟩ := ok_of_isOk hbuilt
  rw [h] at hrun
  obtain ⟨hclock, herrors⟩ := Prod.mk.inj (Option.some.inj hrun)
  obtain ⟨hticks, -, hcounts, -, -, hsum, hreports⟩ := daemons_on_period h₁ h₂ h₃ h₄ h events
  rw [hclock] at hticks hcounts
  rw [herrors] at hsum hreports
  exact ⟨h₁, h₂, h₃, h₄, s, h, hticks, hcounts, hsum.symm, hreports.symm⟩

end Scheduler
end
end Organism
