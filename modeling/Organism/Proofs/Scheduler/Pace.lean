import Organism.Proofs.Body.Pace
import Organism.Proofs.Daemon.Pace
import Organism.Proofs.Scheduler.Period
import Mathlib.Algebra.Order.Floor.Semifield
import Mathlib.Data.Rat.Floor

/-!
# Healths move slowly over whole runs

In exact arithmetic, with the simulation off and without commands that write healths, only the runs
of the status daemon move healths, and each of them by the greatest step at most.  So the runs of
that daemon are all that has to be counted.

* `Quantity.passes`     how often an interval passes in a number of ticks;
* `Daemon.Spaced`       a daemon runs no more often than its interval passes;
* `Scheduler.Calm`      what a tick must not find: a simulation, or requests that write healths;
* `Paced.tick`          **one tick is a step at most, which a run of the daemon pays for**;
* `Scheduler.Ticked`    ticks, with anything else in between that leaves healths and daemons alone;
* `healths_drift`       **healths are within a step for each time that the interval has passed**.
-/

namespace Organism

/-! ## intervals -/

/-- how often the interval passes in `n` ticks; one that is no value never does -/
def Quantity.passes (q : Quantity) (n : Nat) : Nat :=
  match q.exact with
  | .finite k => ⌊(n : Rat) / k⌋₊
  | _ => 0

namespace Quantity

variable {q : Quantity} {m n : Nat}

theorem passes_eq {k : Rat} (h : q.exact = .finite k) (n : Nat) : q.passes n = ⌊(n : Rat) / k⌋₊ := by
  unfold passes
  rw [h]

theorem passes_natCast {k : Nat} (h : q.exact = .finite k) (n : Nat) : q.passes n = n / k := by
  rw [passes_eq h, Nat.floor_div_eq_div]

/-- an interval that a daemon may have is a value of at least 1, or never passes -/
theorem passes_cases (hq : ¬ q.exact < 1) :
    (∃ k, q.exact = .finite k ∧ 1 ≤ k) ∨
      (∀ n, q.passes n = 0) ∧ ∀ x : Rat, ¬ q.exact ≤ .finite x := by
  unfold passes
  cases hx : q.exact with
  | nan => exact .inr ⟨fun _ => rfl, fun x h => by cases h⟩
  | infinite s =>
    cases s with
    | false => exact .inr ⟨fun _ => rfl, fun x h => by cases h⟩
    | true =>
      rw [hx] at hq
      exact absurd rfl hq
  | minusZero =>
    rw [hx] at hq
    exact absurd (by decide) hq
  | finite k =>
    rw [hx] at hq
    exact .inl ⟨k, rfl, not_lt.mp fun h => hq ((Number.lt_finite k 1).mpr h)⟩

theorem passes_mono (hq : ¬ q.exact < 1) (h : m ≤ n) : q.passes m ≤ q.passes n := by
  rcases passes_cases hq with ⟨k, hk, h1⟩ | ⟨hzero, -⟩
  · rw [passes_eq hk, passes_eq hk]
    exact Nat.floor_mono (div_le_div_of_nonneg_right (by exact_mod_cast h) (by linarith))
  · rw [hzero, hzero]

theorem passes_succ (hq : ¬ q.exact < 1)
    (h : q.exact ≤ .finite (((n : Int) - m : Int) : Rat)) : q.passes m + 1 ≤ q.passes n := by
  rcases passes_cases hq with ⟨k, hk, h1⟩ | ⟨-, hnever⟩
  · have hpos : (0 : Rat) < k := by linarith
    rw [hk, Number.le_finite] at h
    have hle : (m : Rat) + k ≤ n := by
      push_cast at h
      linarith
    rw [passes_eq hk, passes_eq hk]
    calc ⌊(m : Rat) / k⌋₊ + 1
        = ⌊(m : Rat) / k + 1⌋₊ := (Nat.floor_add_one (by positivity)).symm
      _ = ⌊((m : Rat) + k) / k⌋₊ := by rw [add_div, div_self hpos.ne']
      _ ≤ ⌊(n : Rat) / k⌋₊ := Nat.floor_mono (div_le_div_of_nonneg_right hle hpos.le)
  · exact absurd h (hnever _)

end Quantity

/-! ## daemons -/

namespace Daemon

/-- the daemon has the interval, and has run no more often than that has passed -/
structure Spaced (q : Quantity) (n : Nat) (d : Daemon) : Prop where
  interval : d.interval = q
  runs : d.count.runs ≤ q.passes d.count.lastRun
  lastRun : d.count.lastRun ≤ n

variable {q : Quantity} {n : Nat} {d : Daemon}

theorem Spaced.idle (h : d.Spaced q n) : d.Spaced q (n + 1) :=
  ⟨h.interval, h.runs, Nat.le_succ_of_le h.lastRun⟩

theorem Spaced.run (hq : ¬ q.exact < 1) (h : d.Spaced q n) (hdue : d.isDue (n + 1)) (b : Body) :
    (d.run (n + 1) b).1.Spaced q (n + 1) ∧ (d.run (n + 1) b).1.count.runs = d.count.runs + 1 := by
  have hpassed : q.passes d.count.lastRun + 1 ≤ q.passes (n + 1) := by
    have hle := of_decide_eq_true hdue
    rw [h.interval] at hle
    exact Quantity.passes_succ hq hle
  have hruns : d.count.runs + 1 ≤ q.passes (n + 1) := (Nat.succ_le_succ h.runs).trans hpassed
  rw [d.run_daemon]
  exact ⟨⟨h.interval, hruns, le_refl _⟩, rfl⟩

theorem create_ok {name : String} {interval : Value} {act : Nat → Act Unit}
    (hi : interval.quantity? = some q) (h : create name interval act = .ok d) :
    ¬ q.exact < 1 ∧ d.Spaced q 0 := by
  obtain ⟨q', hq, hlong, rfl⟩ := create_cases h
  obtain rfl : q = q' := Option.some.inj (hi.symm.trans hq)
  exact ⟨hlong, rfl, Nat.zero_le _, le_refl 0⟩

end Daemon

attribute [local instance] Rounding.exact

open Body

namespace Scheduler

/-! ## one tick -/

/-- what the next tick finds is no simulation, and no requests that write healths -/
structure Calm (s : Scheduler) : Prop where
  off : s.body.bus.simLevel = .off
  requests : ∀ w ∈ s.queue.live, w.2.operation ∉ [Operation.damage, .heal, .load]

instance (s : Scheduler) : Decidable s.Calm :=
  decidable_of_iff (s.body.bus.simLevel = .off ∧
    ∀ w ∈ s.queue.live, w.2.operation ∉ [Operation.damage, .heal, .load])
    ⟨fun h => ⟨h.1, h.2⟩, fun h => ⟨h.off, h.requests⟩⟩

theorem drifts_run {d : Daemon} {ε : Rat} (h : d.Drifts ε) (tick : Nat) (b : Body) :
    (d.run tick b).1.Drifts ε := by
  unfold Daemon.Drifts
  rw [d.act_run]
  exact h

theorem runDue_still (tick : Nat) {ds : List Daemon} (hd : ∀ d ∈ ds, d.Drifts 0) {t : Topology}
    {ε : OrganKind → Rat} {b : Body} (hb : b.Meets (Strayed t ε)) :
    (∀ d ∈ (runDue tick ds b).1, d.Drifts 0) ∧ (runDue tick ds b).2.1.Meets (Strayed t ε) := by
  refine ⟨forall_runDue (P := Daemon.Drifts 0) (fun d b hd => drifts_run hd tick b) hd b, ?_⟩
  induction ds generalizing b with
  | nil => exact hb
  | cons d ds ih =>
    obtain ⟨hd, hds⟩ := List.forall_mem_cons.mp hd
    by_cases hdue : d.isDue tick
    · rw [runDue_cons_of_due hdue]
      have hrun := hd.run tick hb
      rw [show (fun _ : OrganKind => (0 : Rat)) = 0 from rfl, add_zero] at hrun
      exact ih hds hrun
    · rw [runDue_cons_of_idle hdue]
      exact ih hds hb

/-- the daemon moves healths, by a step at most in a run of it, and only when its interval has
passed; and no other daemon of the list moves any -/
structure Led (step : Rat) (q : Quantity) (n : Nat) (d : Daemon) (ds : List Daemon) : Prop where
  others : ∃ before after, ds = before ++ d :: after ∧ (∀ e ∈ before, e.Drifts 0) ∧
    ∀ e ∈ after, e.Drifts 0
  drifts : d.Drifts step
  spaced : d.Spaced q n

variable {t : Topology} {step : Rat} {q : Quantity} {s s' : Scheduler}

theorem Led.runDue {n : Nat} {d : Daemon} {ds : List Daemon} (h : Led step q n d ds)
    (hq : ¬ q.exact < 1) {b : Body} (hb : b.Meets (Strayed t 0)) :
    ∃ d', Led step q (n + 1) d' (runDue (n + 1) ds b).1 ∧ d'.count.runs ≤ d.count.runs + 1 ∧
      (Scheduler.runDue (n + 1) ds b).2.1.Meets
        (Strayed t fun _ => step * (d'.count.runs - d.count.runs)) := by
  obtain ⟨before, after, rfl, hbefore, hafter⟩ := h.others
  obtain ⟨hbefore, hb⟩ := runDue_still (n + 1) hbefore hb
  rw [runDue_append]
  dsimp only
  generalize Scheduler.runDue (n + 1) before b = first at hbefore hb
  by_cases hdue : d.isDue (n + 1)
  · rw [runDue_cons_of_due hdue]
    obtain ⟨hspaced, hruns⟩ := h.spaced.run hq hdue first.2.1
    obtain ⟨hafter, hrest⟩ := runDue_still (n + 1) hafter (h.drifts.run (n + 1) hb)
    refine ⟨_, ⟨⟨_, _, rfl, hbefore, hafter⟩, drifts_run h.drifts _ _, hspaced⟩, hruns.le, ?_⟩
    refine hrest.mono fun k => ?_
    show 0 + step ≤ step * _
    rw [hruns]
    push_cast
    linarith
  · rw [runDue_cons_of_idle hdue]
    obtain ⟨hafter, hrest⟩ := runDue_still (n + 1) hafter hb
    refine ⟨d, ⟨⟨_, _, rfl, hbefore, hafter⟩, h.drifts, h.spaced.idle⟩, Nat.le_succ _, ?_⟩
    rw [sub_self, mul_zero]
    exact hrest

theorem topology_drain {P : Topology → Prop} {queue : Queue} {setup : Setup}
    (hr : ∀ w ∈ queue.live, w.2.operation ∉ [Operation.damage, .heal, .load]) {b : Body}
    (hb : P b.topology) : P (queue.drain (Command.handle setup) b).2.topology :=
  Queue.keeps_drain (P := Meets fun t _ => P t)
    (fun w hw => Command.meets_handle (hr w hw) setup) (fun _ _ _ _ h => h) hb

/-- the healths are as many steps away from those of a topology as the one daemon that moves them
has run -/
structure Paced (t : Topology) (step : Rat) (q : Quantity) (s : Scheduler) : Prop where
  near : ∃ d, Led step q s.clock d s.daemons ∧
    t.Near (fun _ => step * d.count.runs) s.body.topology
  inUnit : s.body.topology.Each Number.InUnit

/-- **One calm tick moves every health by a step at most, which a run of the daemon pays for.** -/
theorem Paced.tick (h : s.Paced t step q) (hstep : 0 ≤ step) (hq : ¬ q.exact < 1)
    (hc : s.Calm) :
    s.step.Paced t step q ∧ s.body.topology.Near (fun _ => step) s.step.body.topology := by
  obtain ⟨d, hled, hnear⟩ := h.near
  have hbody : s.body.Meets (Strayed s.body.topology 0) :=
    ⟨s.body.topology.near_refl, h.inUnit, hc.off⟩
  have hopened : s.opened.Meets (Strayed s.body.topology 0) := hbody.advance _
  obtain ⟨d', hled', hone, hdaemons⟩ := hled.runDue hq hopened
  have hmoved : s.body.topology.Near (fun _ => step * (d'.count.runs - d.count.runs))
        s.step.body.topology ∧ s.step.body.topology.Each Number.InUnit :=
    topology_drain (P := fun t => s.body.topology.Near _ t ∧ t.Each Number.InUnit) hc.requests
      ⟨hdaemons.near, hdaemons.inUnit⟩
  refine ⟨⟨⟨d', hled', (hnear.trans hmoved.1).mono fun k => ?_⟩, hmoved.2⟩,
    hmoved.1.mono fun k => ?_⟩
  · show step * d.count.runs + step * (d'.count.runs - d.count.runs) ≤ step * d'.count.runs
    linarith
  · have hdiff : (d'.count.runs : Rat) - d.count.runs ≤ 1 := by
      have hle : (d'.count.runs : Rat) ≤ d.count.runs + 1 := by exact_mod_cast hone
      linarith
    calc step * (d'.count.runs - d.count.runs)
        ≤ step * 1 := mul_le_mul_of_nonneg_left hdiff hstep
      _ = step := mul_one step

/-! ## runs -/

/-- something happens between two ticks that leaves healths, daemons and clock alone -/
structure Between (s s' : Scheduler) : Prop where
  topology : s'.body.topology = s.body.topology
  daemons : s'.daemons = s.daemons
  clock : s'.clock = s.clock

/-- ticks that begin on the given schedulers, with whatever happens in between -/
inductive Ticked (s : Scheduler) : List Scheduler → Scheduler → Prop
  | nil : Ticked s [] s
  | between {us : List Scheduler} {u u' : Scheduler} :
    Ticked s us u → Between u u' → Ticked s us u'
  | tick {us : List Scheduler} {u : Scheduler} : Ticked s us u → Ticked s (us ++ [u]) u.step

theorem Still.between (h : Still s s') (ht : s'.body.topology = s.body.topology) : Between s s' := by
  refine ⟨ht, ?_, ?_⟩
  · rw [h.rest]
  · rw [h.rest]

theorem Paced.between (h : s.Paced t step q) (hs : Between s s') : s'.Paced t step q := by
  refine ⟨?_, ?_⟩
  · rw [hs.topology, hs.daemons, hs.clock]
    exact h.near
  · rw [hs.topology]
    exact h.inUnit

theorem Ticked.clock {us : List Scheduler} (h : Ticked s us s') :
    s'.clock = s.clock + us.length := by
  induction h with
  | nil => rfl
  | between _ hs ih => exact hs.clock.trans ih
  | tick _ ih =>
    rw [List.length_append, List.length_singleton, ← Nat.add_assoc, ← ih]
    rfl

/-- **What one tick preserves, all ticks do.** -/
theorem Paced.ticked {us : List Scheduler} (h : s.Paced t step q) (hstep : 0 ≤ step)
    (hq : ¬ q.exact < 1) (hrun : Ticked s us s') (hcalm : ∀ u ∈ us, u.Calm) :
    s'.Paced t step q ∧ ∀ u ∈ us, u.body.topology.Near (fun _ => step) u.step.body.topology := by
  induction hrun with
  | nil => exact ⟨h, fun u hu => by cases hu⟩
  | between _ hs ih =>
    obtain ⟨hpaced, hsteps⟩ := ih hcalm
    exact ⟨hpaced.between hs, hsteps⟩
  | @tick us u _ ih =>
    obtain ⟨hpaced, hsteps⟩ := ih fun v hv => hcalm v (List.mem_append_left _ hv)
    obtain ⟨hpaced', hnear⟩ :=
      hpaced.tick hstep hq (hcalm u (List.mem_append_right _ (List.mem_singleton_self u)))
    refine ⟨hpaced', fun v hv => ?_⟩
    rcases List.mem_append.mp hv with hv | hv
    · exact hsteps v hv
    · obtain rfl := List.mem_singleton.mp hv
      exact hnear

theorem Paced.near_passes (h : s.Paced t step q) (hstep : 0 ≤ step) (hq : ¬ q.exact < 1) :
    t.Near (fun _ => step * q.passes s.clock) s.body.topology := by
  obtain ⟨d, hled, hnear⟩ := h.near
  have hruns : d.count.runs ≤ q.passes s.clock :=
    hled.spaced.runs.trans (Quantity.passes_mono hq hled.spaced.lastRun)
  have hcast : (d.count.runs : Rat) ≤ q.passes s.clock := by exact_mod_cast hruns
  exact hnear.mono fun k => mul_le_mul_of_nonneg_left hcast hstep

end Scheduler

/-! ## new organisms -/

section
variable {settings : Settings} {setup : Setup} {t : Topology} {senses : Senses}
  {files : FileSystem} {step : Rat} {q : Quantity}

theorem standardDaemons_led {settings : SchedulerSettings} {ds : List Daemon}
    (hl : setup.limits.Paces step) (hq : settings.statusInterval.quantity? = some q)
    (h : standardDaemons setup settings = .ok ds) :
    ¬ q.exact < 1 ∧ ∃ d, Scheduler.Led step q 0 d ds ∧ d.count.runs = 0 := by
  obtain ⟨heartbeat, status, policy, simulation, rfl, h₁, h₂, h₃, h₄⟩ := standardDaemons_cases h
  obtain ⟨hlong, hspaced⟩ := Daemon.create_ok hq h₂
  have hheartbeat : heartbeat.Drifts 0 := by
    intro tick t
    rw [Daemon.act_create h₁]
    exact Duty.meets_heartbeat
  have hstatus : status.Drifts step := by
    intro tick t
    rw [Daemon.act_create h₂]
    exact Duty.leads_status hl tick
  have hpolicy : policy.Drifts 0 := by
    intro tick t
    rw [Daemon.act_create h₃]
    exact Duty.stays_policy setup
  have hsimulation : simulation.Drifts 0 := by
    intro tick t
    rw [Daemon.act_create h₄]
    exact Duty.stays_simulation setup
  refine ⟨hlong, status, ⟨⟨[heartbeat], [policy, simulation], rfl, ?_, ?_⟩, hstatus, hspaced⟩, ?_⟩
  · exact List.forall_mem_singleton.mpr hheartbeat
  · exact List.forall_mem_cons.mpr ⟨hpolicy, List.forall_mem_singleton.mpr hsimulation⟩
  · rw [Daemon.count_create h₂]

namespace Scheduler

variable {s s' : Scheduler}

theorem build_paced (hl : setup.limits.Paces step)
    (hq : settings.scheduler.statusInterval.quantity? = some q) (ht : t.Each Number.InUnit)
    (h : build settings setup t senses files = .ok s) :
    ¬ q.exact < 1 ∧ s.clock = 0 ∧ s.Paced t step q := by
  obtain ⟨body, ds, hbody, hds, rfl⟩ := build_cases h
  have htopology : body.topology = t := by
    obtain ⟨length, x, seed, -, -, -, rfl⟩ := bodyOf_cases hbody
    rfl
  obtain ⟨hlong, d, hled, hruns⟩ := standardDaemons_led hl hq hds
  refine ⟨hlong, rfl, ⟨d, hled, ?_⟩, htopology ▸ ht⟩
  show t.Near _ body.topology
  rw [htopology, hruns, Nat.cast_zero, mul_zero]
  exact t.near_refl

/-- **Healths drift slowly.**  Let the greatest step of the limits be a value, and the recovery lie
between 0 and that value, as in all limits that are accepted (`Settings.checkHealth_paces`); let the
greatest penalties be anything.  After any number of ticks in which the simulation is off and no
command writes healths, whatever the senses say or fail to say, every health is within a step for
each time that the interval of the status daemon has passed; and within a step of where it was in
every single tick. -/
theorem healths_drift (hl : setup.limits.Paces step)
    (hq : settings.scheduler.statusInterval.quantity? = some q) (ht : t.Each Number.InUnit)
    (h : build settings setup t senses files = .ok s) {us : List Scheduler}
    (hrun : Ticked s us s') (hcalm : ∀ u ∈ us, u.Calm) :
    t.Near (fun _ => step * q.passes us.length) s'.body.topology ∧
      s'.body.topology.Each Number.InUnit ∧
      (∀ k : Nat, q.exact = .finite k → q.passes us.length = us.length / k) ∧
      ∀ u ∈ us, u.body.topology.Near (fun _ => step) u.step.body.topology := by
  obtain ⟨hlong, hclock, hpaced⟩ := build_paced hl hq ht h
  obtain ⟨hpaced', hsteps⟩ := hpaced.ticked hl.nonneg hlong hrun hcalm
  have hticks : s'.clock = us.length := by rw [hrun.clock, hclock, Nat.zero_add]
  have hnear := hpaced'.near_passes hl.nonneg hlong
  rw [hticks] at hnear
  exact ⟨hnear, hpaced'.inUnit, fun k hk => Quantity.passes_natCast hk _, hsteps⟩

/-- a hot processor, a memory that cannot be read, and a network that first tells nonsense and then
breaks down, in five ticks -/
theorem healths_drift_adverse :
    let settings : Settings := { Settings.standard with
      scheduler := { Settings.standard.scheduler with statusInterval := .real 2 }
      health := {
        maxStep := .real (.finite (1 / 20))
        recoveryStep := .flag false
        maxPenalties :=
          .map [(.text "cpu_temp_c", .whole (10 ^ 30)), (.text "net_latency_ms", .whole (-4))] } }
    let senses : Senses := .script (fun reads f =>
      match f with
      | .cpu => .ok (.cpu { CpuReading.nominal with temperature := .whole 100 })
      | .memory => .error (.unavailable "memory" "no counters")
      | .io =>
        if reads < 3 then .ok (.io { IoReading.nominal with latency := .real .nan })
        else .error (.breakdown "no sensor")) 0
    let t := Topology.sample (.finite (3 / 4))
    settings.health.Paces (1 / 20) ∧ t.Each Number.InUnit ∧
      ∃ s, build settings (setupOf settings) t senses {} = .ok s ∧
        let u := (s.step.submit { operation := .status }).1
        let us := [s, u, u.step, u.step.step, u.step.step.step]
        Ticked s us u.step.step.step.step ∧ (∀ v ∈ us, v.Calm) ∧
          t.Near (fun _ => 1 / 20 * (5 / 2 : Nat)) u.step.step.step.step.body.topology := by
  intro settings senses t
  have hl : settings.health.Paces (1 / 20) :=
    ⟨.flag false, .real (.finite (1 / 20)), rfl, rfl, rfl, rfl, le_refl 0, by decide +kernel, rfl⟩
  have ht : t.Each Number.InUnit := by
    intro k o ho
    rw [Topology.sample_health o (Topology.mem_of_organ? ho)]
    exact ⟨3 / 4, rfl, by norm_num, by norm_num⟩
  have hcalm : (build settings (setupOf settings) t senses {}).toOption.map (fun s =>
      let u := (s.step.submit { operation := .status }).1
      decide (∀ v ∈ [s, u, u.step, u.step.step, u.step.step.step], v.Calm)) = some true := by
    decide +kernel
  have hbuilt : (build settings (setupOf settings) t senses {}).isOk = true := by decide +kernel
  obtain ⟨s, h⟩ := ok_of_isOk hbuilt
  rw [h] at hcalm
  have hcalm := of_decide_eq_true (Option.some.inj hcalm)
  have hrun := ((((Ticked.nil (s := s)).tick.between ((still_submit s.step
    { operation := .status }).between rfl)).tick.tick).tick).tick
  obtain ⟨hnear, -, hpasses, -⟩ := healths_drift hl rfl ht h hrun hcalm
  rw [hpasses 2 rfl] at hnear
  exact ⟨hl, ht, s, h, hrun, hcalm, hnear⟩

end Scheduler
end
end Organism
