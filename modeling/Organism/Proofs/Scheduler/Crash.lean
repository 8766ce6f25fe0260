import Organism.Proofs.Daemon.Crash
import Organism.Proofs.Scheduler.Turns
import Organism.Proofs.Settings.Ranges

/-!
# Daemons that crash within a tick

The scheduler goes on when a daemon fails, with the body as the daemon left it.  The awareness can
then only be out of date if the daemon had written a health before.

* `leads_duty`           **the end of every run of a standard daemon**;
* `Crashes`              a failure among daemons that run in their order;
* `Crashes.end_cases`    what such a failure leaves behind;
* `aware_inTurn`         failures that leave the healths alone do no harm;
* `crashes_coherent`     **a tick ends with an awareness that is up to date if every daemon that
                         failed in it left the healths alone**, and which daemons do;
* `not_all_crashes_coherent`   a daemon that did not.
-/

namespace Organism

attribute [local instance] Rounding.binary64

open Act Body

/-! ## runs of standard daemons -/

/-- **The end of every run of a standard daemon.** -/
theorem leads_duty {setup : Setup} (hl : setup.limits.Stepped) (hs : setup.simulation.Is64)
    {d : Daemon} (hd : d.duty ∈ duties setup) {b : Body} (hb : b.topology.Whole) (tick : Nat) :
    Leads (fun c => c = b) (d.act tick) (fun _ c => b.Unwritten c ∨ c.Aware) fun _ c =>
      (d.name = "status" ∨ d.name = "simulation") ∧
        (b.Unwritten c ∨ (b.Behind c ∧ b.Tears setup d.name)) := by
  have hstart : ∀ c, c = b → b.Unwritten c := by
    rintro c rfl
    exact ⟨rfl, rfl⟩
  refine duty_cases hd (P := fun name act =>
    Leads (fun c => c = b) (act tick) (fun _ c => b.Unwritten c ∨ c.Aware) fun _ c =>
      (name = "status" ∨ name = "simulation") ∧
        (b.Unwritten c ∨ (b.Behind c ∧ b.Tears setup name))) ?_ ?_ ?_ ?_
  · exact (Duty.leads_heartbeat (narrow_unwritten b)).weaken hstart (fun _ _ h => .inl h)
      fun _ _ h => h
  · refine (Duty.leads_status_or_breaks hl hb tick).weaken (fun _ h => h) (fun _ _ h => .inr h) ?_
    exact fun _ _ h => ⟨.inl rfl, h.imp_right (And.imp_right fun hr => .inl ⟨rfl, hr⟩)⟩
  · exact (Duty.leads_policy (narrow_unwritten b) setup).weaken hstart (fun _ _ h => .inl h)
      fun _ _ h => h
  · refine (Duty.leads_simulation (stages_crash hb) b.bus.simLevel ?_).weaken ?_
      (fun _ _ h => h) ?_
    · exact fun i hi x hx => Value.is64_toNumber (fun y hy => hs.intensity hi hy) hx
    · rintro c rfl
      exact ⟨⟨rfl, rfl⟩, rfl⟩
    · exact fun _ _ h => ⟨.inr rfl, h.imp_right (And.imp_right fun hi => .inr ⟨rfl, hi⟩)⟩

namespace Daemon

theorem run_of_narrow {P : Body → Prop} (hP : Narrow P) {d : Daemon} {tick : Nat} {b : Body}
    (h : P ((d.act tick).run b).2) : P (d.run tick b).2.1 :=
  run_preserves (fun _ c => hP c _ rfl rfl rfl) h

end Daemon

namespace Scheduler

/-! ## failures among daemons -/

/-- of daemons that run in their order, one fails on a body `b` and leaves `b'` behind -/
inductive Crashes (tick : Nat) : List Daemon → Body → Daemon → Body → Body → Prop
  | here {d : Daemon} {b b' : Body} {e : Fault} (ds : List Daemon) :
    (d.act tick).run b = (.error e, b') → Crashes tick (d :: ds) b d b b'
  | later {d' : Daemon} {ds : List Daemon} {b₀ b b' : Body} {d : Daemon} :
    Crashes tick ds (d'.run tick b₀).2.1 d b b' → Crashes tick (d' :: ds) b₀ d b b'

/-- a daemon fails in the next tick -/
def Crash (s : Scheduler) (d : Daemon) (b b' : Body) : Prop :=
  Crashes (s.clock + 1) s.due s.opened d b b'

section
variable {setup : Setup} (hl : setup.limits.Stepped) (hs : setup.simulation.Is64) {tick : Nat}
include hl hs

theorem whole_run {d : Daemon} (hd : d.duty ∈ duties setup) {b : Body} (hb : b.topology.Whole) :
    (d.run tick b).2.1.topology.Whole := by
  refine Daemon.run_of_narrow narrow_whole ?_
  have hend := (leads_duty hl hs hd hb tick).after b rfl
  generalize (d.act tick).run b = r at hend
  rcases r with ⟨e | x, c⟩
  · rcases hend.2 with h | h
    · exact (h.behind hb).1
    · exact h.1.1
  · rcases hend with h | h
    · exact (h.behind hb).1
    · exact h.whole

/-- **What a failure leaves behind**: the old awareness, and the old organs if the daemon does not
tear. -/
theorem Crashes.end_cases {ds : List Daemon} (hd : ∀ d ∈ ds, d.duty ∈ duties setup) {b₀ b b' : Body}
    (hb : b₀.topology.Whole) {d : Daemon} (h : Crashes tick ds b₀ d b b') :
    b'.bus.awareness = b.bus.awareness ∧ (d.name = "status" ∨ d.name = "simulation") ∧
      (b'.topology = b.topology ∨ b.Tears setup d.name) := by
  induction h with
  | here ds hrun =>
    have hend := (leads_duty hl hs (hd _ List.mem_cons_self) hb tick).after _ rfl
    rw [hrun] at hend
    obtain ⟨hname, h | ⟨h, ht⟩⟩ := hend
    · exact ⟨h.2, hname, .inl h.1⟩
    · exact ⟨h.2, hname, .inr ht⟩
  | later _ ih =>
    obtain ⟨hd, hds⟩ := List.forall_mem_cons.mp hd
    exact ih hds (whole_run hl hs hd hb)

theorem aware_run {d : Daemon} (hd : d.duty ∈ duties setup) {b : Body} (hb : b.Aware)
    (hcalm : ∀ e b', (d.act tick).run b = (.error e, b') →
      ∀ k, (b'.topology.organ? k).map (·.health) = (b.topology.organ? k).map (·.health)) :
    (d.run tick b).2.1.Aware := by
  refine Daemon.run_of_narrow narrow_aware ?_
  have hend := (leads_duty hl hs hd hb.whole tick).after b rfl
  have hsame : ∀ c, b.Behind c →
      (∀ k, (c.topology.organ? k).map (·.health) = (b.topology.organ? k).map (·.health)) →
      c.Aware := by
    intro c hc hh
    refine ⟨hc.1, ?_⟩
    rw [Topology.awareness_congr hb.whole hh, hc.2]
    exact hb.aware
  have hstays : ∀ c, b.Unwritten c → c.Aware := fun c hc => hsame c (hc.behind hb.whole) fun k => by
    rw [hc.1]
  rcases hrun : (d.act tick).run b with ⟨e | x, c⟩
  · rw [hrun] at hend
    rcases hend.2 with h | ⟨h, -⟩
    · exact hstays c h
    · exact hsame c h (hcalm e c hrun)
  · rw [hrun] at hend
    exact hend.elim (hstays c) id

theorem aware_inTurn {ds : List Daemon} (hd : ∀ d ∈ ds, d.duty ∈ duties setup) {b₀ : Body}
    (hb : b₀.Aware) (hcalm : ∀ d b b', Crashes tick ds b₀ d b b' →
      ∀ k, (b'.topology.organ? k).map (·.health) = (b.topology.organ? k).map (·.health)) :
    (inTurn tick ds b₀).Aware := by
  induction ds generalizing b₀ with
  | nil => exact hb
  | cons d ds ih =>
    obtain ⟨hd, hds⟩ := List.forall_mem_cons.mp hd
    have hrun := aware_run hl hs hd hb fun e b' h => hcalm d b₀ b' (.here ds h)
    exact ih hds hrun fun d' b b' h => hcalm d' b b' (.later h)

end

/-! ## ticks -/

/-- **A tick ends with an awareness that is up to date, in the body and in its snapshot, if every
daemon that failed in it left the healths alone.**  No daemon that fails changes the awareness, and
healths are written before a failure by two daemons only: by the status daemon, if the reading of an
organ after the first turns out to be broken, and by the simulation, if the amount of its recovery
is a numeral in a text or in bytes, which has no fixed places. -/
theorem crashes_coherent {settings : Settings} (hc : Settings.check settings = .ok ())
    (h64 : settings.simulation.Is64) {s : Scheduler} (hs : s.setup = setupOf settings)
    (hd : ∀ d ∈ s.daemons, d.duty ∈ duties s.setup) (hw : s.body.topology.Whole)
    (ha : s.body.topology.awareness = .ok s.body.bus.awareness) :
    (∀ d b b', s.Crash d b b' → b'.bus.awareness = b.bus.awareness ∧
      (d.name = "status" ∨ d.name = "simulation") ∧
      (b'.topology = b.topology ∨ b.Tears s.setup d.name)) ∧
    ((∀ d b b', s.Crash d b b' →
        ∀ k, (b'.topology.organ? k).map (·.health) = (b.topology.organ? k).map (·.health)) →
      s.step.body.topology.awareness = .ok s.step.body.bus.awareness ∧
        s.step.snapshot.Faithful) := by
  have hl : s.setup.limits.Stepped := by
    rw [hs]
    have hrange : settings.health.InRange := (Settings.check_iff.mp hc).health
    exact Settings.stepped_of_checkHealth (Settings.checkHealth_iff.mpr hrange)
  have hsim : s.setup.simulation.Is64 := by
    rw [hs]
    exact h64
  have hdue : ∀ d ∈ s.due, d.duty ∈ duties s.setup := fun d h => hd d (List.mem_filter.mp h).1
  have hopened : s.opened.Aware := narrow_aware.advance ⟨hw, ha⟩ _
  refine ⟨fun d b b' h => h.end_cases hl hsim hdue hopened.whole, fun hcalm => ?_⟩
  have hbefore : s.beforeCommands.Aware := aware_inTurn hl hsim hdue hopened hcalm
  have hafter : s.step.body.Aware := by
    rw [body_step]
    exact Queue.keeps_drain (fun w _ => Command.keeps_handle stages_aware s.setup w.2)
      (fun b _ _ _ => narrow_aware b _ rfl rfl rfl) hbefore
  exact ⟨hafter.aware, Snapshot.take_faithful hafter _⟩

/-! ## an organism that is watched in every tick -/

def watchful : Settings := { Settings.standard with
  scheduler := { Settings.standard.scheduler with statusInterval := .whole 1 } }

def watcher : Daemon := ⟨"status", .whole 1, Duty.status (setupOf watchful), {}⟩

def watched (answer : Nat → Family → Except Fault Reading) : Scheduler where
  setup := setupOf watchful
  body :=
    { topology := .sample 1
      bus := Bus.setAwareness { capacity := some 256 } 1
      registry := .ofTopology (.sample 1)
      senses := .script answer 0
      dice := .seeded (.ofSeed [7]) }
  daemons :=
    [⟨"heartbeat", .whole 20, fun _ => Duty.heartbeat, {}⟩, watcher,
      ⟨"ai_cortex", .whole 40, fun _ => Duty.policy (setupOf watchful), {}⟩,
      ⟨"simulation", .whole 20, fun _ => Duty.simulation (setupOf watchful), {}⟩]
  snapshot := .take (.sample 1) (Bus.setAwareness { capacity := some 256 } 1) 0
  tickInterval := .real 0.05

theorem watchful_check : Settings.check watchful = .ok () :=
  ok_of_toOption (by decide +kernel)

theorem watchful_is64 : watchful.simulation.Is64 := by
  refine ⟨fun y hy => Settings.standard_numeric.low.is64 ?_,
    fun y hy => Settings.standard_numeric.high.is64 ?_⟩
  · rw [show Settings.standard.simulation.low.recovery = .real y from hy]
    rfl
  · rw [show Settings.standard.simulation.high.recovery = .real y from hy]
    rfl

section
variable (answer : Nat → Family → Except Fault Reading)

theorem watched_aware : (watched answer).body.Aware := by
  refine ⟨Topology.sample_whole Number.inUnit_one, ?_⟩
  have h : (Topology.sample 1).awareness = .ok 1 := ok_of_toOption (by decide +kernel)
  exact h

theorem watched_built :
    build watchful (setupOf watchful) (.sample 1) (.script answer 0) {} = .ok (watched answer) := by
  have hawareness : (Topology.sample 1).awareness = .ok 1 := (watched_aware answer).aware
  have hcapacity : capacity (.whole 256) = .ok (some 256) := rfl
  have hseed : Seed.ofValue (.whole 7) = .ok [7] := ok_of_toOption (by decide +kernel)
  have hbody : bodyOf watchful (.sample 1) (.script answer 0) {} = .ok (watched answer).body := by
    unfold bodyOf
    rw [hawareness]
    show (capacity (.whole 256) >>= fun c => _ >>= fun a => Seed.ofValue (.whole 7) >>= _) = _
    rw [hcapacity, hseed]
    rfl
  unfold build
  rw [hbody]
  rfl

theorem watched_duties :
    ∀ d ∈ (watched answer).daemons, d.duty ∈ duties (watched answer).setup := by
  intro d hd
  have hstandard : (watched answer).Standard := rfl
  rw [← hstandard]
  exact List.mem_map_of_mem hd

theorem due_watched : (watched answer).due = [watcher] := by
  have hdue : ∀ (name : String) (n : Int) act,
      Daemon.isDue ⟨name, .whole n, act, {}⟩ 1 = decide (n ≤ 1) := by
    intro name n act
    have hle : (Number.finite n ≤ .finite ((1 : Int) : Rat)) ↔ n ≤ 1 := by
      rw [Number.le_finite]
      exact Int.cast_le
    exact decide_eq_decide.mpr hle
  unfold due
  show List.filter (fun d : Daemon => d.isDue 1) [_, watcher, _, _] = _
  simp only [List.filter, watcher, hdue]
  rfl

end

/-- nothing can be read, and nothing is written -/
theorem crashes_coherent_blind :
    let s := watched fun _ _ => .error (.breakdown "no sensors")
    s.step.errors = 1 ∧ s.step.body.topology.awareness = .ok s.step.body.bus.awareness ∧
      s.step.snapshot.Faithful := by
  intro s
  have hs : s.body.Aware := watched_aware _
  obtain ⟨hcrash, hcalm⟩ := crashes_coherent watchful_check watchful_is64 (s := s) rfl
    (watched_duties _) hs.whole hs.aware
  refine ⟨by decide +kernel, hcalm fun d b b' h k => ?_⟩
  obtain ⟨-, -, ht | ht⟩ := hcrash d b b' h
  · rw [ht]
  · unfold Crash at h
    rw [due_watched] at h
    cases h with
    | later h => cases h
    | here ds hrun =>
      rcases ht with ⟨-, j, r, -, hr, -⟩ | ⟨-, i, hi, -⟩
      · cases j <;> cases hr
      · cases hi

/-- a hot processor, and a memory that reports a value that is too large -/
theorem not_all_crashes_coherent :
    ¬ ∀ settings : Settings, Settings.check settings = .ok () → settings.simulation.Is64 →
      ∀ t senses files s, t.Whole → build settings (setupOf settings) t senses files = .ok s →
        (∃ d b b', s.Crash d b b') →
          s.step.body.topology.awareness = .ok s.step.body.bus.awareness ∧
            s.step.snapshot.Faithful := by
  intro hall
  let answer : Nat → Family → Except Fault Reading
    | _, .cpu => .ok (.cpu { CpuReading.nominal with temperature := .real 100 })
    | _, .memory => .ok (.memory { MemoryReading.nominal with ramUsed := .whole (10 ^ 400) })
    | _, .io => .ok (.io IoReading.nominal)
  have hcrash : ∃ d b b', (watched answer).Crash d b b' := by
    have hfails : ((watcher.act 1).run (watched answer).opened).1.isOk = false := by
      decide +kernel
    rcases hrun : (watcher.act 1).run (watched answer).opened with ⟨e | x, b'⟩
    · refine ⟨watcher, (watched answer).opened, b', ?_⟩
      unfold Crash
      rw [due_watched]
      exact .here [] hrun
    · rw [hrun] at hfails
      cases hfails
  obtain ⟨haware, -⟩ := hall watchful watchful_check watchful_is64 _ _ _ _
    (Topology.sample_whole Number.inUnit_one) (watched_built answer) hcrash
  have hstale : (watched answer).step.body.topology.awareness.toOption ≠
      some (watched answer).step.body.bus.awareness := by decide +kernel
  rw [haware] at hstale
  exact hstale rfl

end Scheduler
end Organism
