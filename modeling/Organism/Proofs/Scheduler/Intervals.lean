import Organism.Proofs.Scheduler.Pace
import Organism.Proofs.Settings.Ranges

/-!
# Intervals that pass

The interval of a daemon is the one that the settings name, from the first tick to the last.  If it
is a value, the daemon is due again after some ticks; if it is `nan` or infinite, never.

* `SchedulerSettings.intervals`   the intervals that settings name;
* `isDue_iff_of_isFinite`         **a daemon is due from some tick after its last run on**;
* `isDue_of_not_isFinite`         one whose interval is no value never is;
* `intervals_applyAll`            no operation changes an interval;
* `settings_in_range`             accepted settings are in range, and what follows for the daemons.
-/

namespace Organism

def SchedulerSettings.intervals (s : SchedulerSettings) : List (String × Value) :=
  [("heartbeat", s.heartbeatInterval), ("status", s.statusInterval), ("ai_cortex", s.aiInterval),
    ("simulation", s.simulationInterval)]

theorem Value.eq_of_quantity? {v : Value} {q : Quantity} (h : v.quantity? = some q) :
    v = q.value := by
  unfold Value.quantity? at h
  split at h <;> cases h <;> rfl

theorem Quantity.exact_of_value {q : Quantity} {x : Number} (h : q.value = .real x) :
    q.exact = x := by
  cases q <;> cases h
  rfl

/-! ## one daemon -/

namespace Daemon

variable {d : Daemon}

theorem interval_create {name : String} {interval : Value} {act : Nat → Act Unit}
    (h : create name interval act = .ok d) :
    d.name = name ∧ d.interval.value = interval ∧ ¬ d.interval.exact < 1 := by
  obtain ⟨q, hq, hlong, rfl⟩ := create_cases h
  exact ⟨rfl, (Value.eq_of_quantity? hq).symm, hlong⟩

theorem interval_run (d : Daemon) (tick : Nat) (b : Body) :
    ((d.run tick b).1.name, (d.run tick b).1.interval) = (d.name, d.interval) := by
  unfold run
  split <;> rfl

/-- **A daemon with an interval that is a value is due from some tick after its last run on.** -/
theorem isDue_iff_of_isFinite (hd : ¬ d.interval.exact < 1)
    (h : d.interval.exact.isFinite = true) :
    ∃ k, 0 < k ∧ ∀ tick, d.isDue tick = true ↔ d.count.lastRun + k ≤ tick := by
  rcases Quantity.passes_cases hd with ⟨k, hk, h1⟩ | ⟨-, hnever⟩
  · have hpos : (0 : Rat) < k := by linarith
    refine ⟨⌈k⌉₊, Nat.ceil_pos.mpr hpos, fun tick => ?_⟩
    have hdue : d.isDue tick = true ↔ k + d.count.lastRun ≤ tick := by
      unfold isDue
      rw [decide_eq_true_iff, hk, Number.le_finite]
      push_cast
      exact le_sub_iff_add_le
    rw [hdue, ← Nat.ceil_le, Nat.ceil_add_natCast hpos.le, Nat.add_comm]
  · cases hx : d.interval.exact with
    | nan => rw [hx] at h; cases h
    | infinite s => rw [hx] at h; cases h
    | minusZero => exact absurd (hx ▸ (rfl : Number.minusZero ≤ .finite 0)) (hnever 0)
    | finite q => exact absurd (hx ▸ (Number.le_finite q q).mpr (le_refl q)) (hnever q)

theorem isDue_of_not_isFinite (hd : ¬ d.interval.exact < 1)
    (h : d.interval.exact.isFinite = false) (tick : Nat) : d.isDue tick = false := by
  rcases Quantity.passes_cases hd with ⟨k, hk, -⟩ | ⟨-, hnever⟩
  · rw [hk] at h
    cases h
  · exact decide_eq_false (hnever _)

end Daemon

attribute [local instance] Rounding.binary64

namespace Scheduler

variable {settings : Settings} {setup : Setup} {t : Topology} {senses : Senses}
  {files : FileSystem} {s : Scheduler}

/-! ## all daemons -/

theorem map_applyAll {α : Type} {f : Daemon → α} (hf : ∀ d tick b, f (d.run tick b).1 = f d)
    (s : Scheduler) (events : List Event) :
    (s.applyAll events).daemons.map f = s.daemons.map f := by
  refine @applyAll_induction (fun u _ => u.daemons.map f = s.daemons.map f) ?_ ?_ s [] rfl events
  · exact fun u _ h => (map_runDue (fun d b => hf d _ b) u.daemons u.opened).trans h
  · intro u u' _ hu h
    rw [hu.rest]
    exact h

theorem intervals_build (h : build settings setup t senses files = .ok s) :
    s.daemons.map (fun d => (d.name, d.interval.value)) = settings.scheduler.intervals ∧
      ∀ d ∈ s.daemons, ¬ d.interval.exact < 1 := by
  obtain ⟨body, daemons, -, hdaemons, rfl⟩ := build_cases h
  obtain ⟨heartbeat, status, policy, simulation, rfl, h₁, h₂, h₃, h₄⟩ :=
    standardDaemons_cases hdaemons
  obtain ⟨hn₁, hi₁, hlt₁⟩ := Daemon.interval_create h₁
  obtain ⟨hn₂, hi₂, hlt₂⟩ := Daemon.interval_create h₂
  obtain ⟨hn₃, hi₃, hlt₃⟩ := Daemon.interval_create h₃
  obtain ⟨hn₄, hi₄, hlt₄⟩ := Daemon.interval_create h₄
  constructor
  · simp only [List.map_cons, List.map_nil, hn₁, hi₁, hn₂, hi₂, hn₃, hi₃, hn₄, hi₄]
    rfl
  · simp only [List.forall_mem_cons]
    exact ⟨hlt₁, hlt₂, hlt₃, hlt₄, List.forall_mem_nil _⟩

theorem intervals_applyAll (h : build settings setup t senses files = .ok s)
    (events : List Event) :
    (s.applyAll events).daemons.map (fun d => (d.name, d.interval.value))
        = settings.scheduler.intervals ∧
      ∀ d ∈ (s.applyAll events).daemons, ¬ d.interval.exact < 1 := by
  obtain ⟨hnames, hlt⟩ := intervals_build h
  have hsame := map_applyAll (f := fun d => (d.name, d.interval)) Daemon.interval_run s events
  refine ⟨?_, fun d hd => ?_⟩
  · have hvalues := congrArg (List.map fun p => (p.1, p.2.value)) hsame
    rw [List.map_map, List.map_map] at hvalues
    exact hvalues.trans hnames
  · have hmem : (d.name, d.interval) ∈ s.daemons.map fun d => (d.name, d.interval) :=
      hsame ▸ List.mem_map_of_mem hd
    obtain ⟨d', hd', he⟩ := List.mem_map.mp hmem
    rw [← (Prod.mk.inj he).2]
    exact hlt d' hd'

/-- **Accepted settings are in range, and a period that is a value passes again and again.**  The
pace of the ticks and the four periods are large enough or `nan`, and all other settings that have a
range lie in it.  A daemon of an organism with these settings keeps the period that is set for it,
whatever is done to the organism; it is due again after some ticks if that is a value, and never if
it is `nan` or infinite. -/
theorem settings_in_range {v : Value} (h : Settings.ofValue v = .ok settings) :
    settings.InRange ∧
      ∀ {t senses files s},
        build settings (setupOf settings) t senses files = .ok s → ∀ events,
          (s.applyAll events).daemons.map (fun d => (d.name, d.interval.value))
              = settings.scheduler.intervals ∧
            ∀ d ∈ (s.applyAll events).daemons,
              (d.interval.exact.isFinite = true →
                ∃ k, 0 < k ∧ ∀ tick, d.isDue tick = true ↔ d.count.lastRun + k ≤ tick) ∧
              (d.interval.exact.isFinite = false → ∀ tick, d.isDue tick = false) := by
  refine ⟨Settings.check_iff.mp (Settings.check_of_ofValue h), fun hbuild events => ?_⟩
  obtain ⟨hintervals, hlt⟩ := intervals_applyAll hbuild events
  exact ⟨hintervals, fun d hd =>
    ⟨Daemon.isDue_iff_of_isFinite (hlt d hd), Daemon.isDue_of_not_isFinite (hlt d hd)⟩⟩

/-- beats that come every second or third tick, a status that never comes, and no pace at all -/
theorem settings_in_range_endless :
    let v : Value := .map [(.text "scheduler", .map [(.text "tick_interval_sec", .real .nan),
      (.text "heartbeat_interval", .real (.finite (5 / 2))),
      (.text "status_interval", .real (.infinite false))])]
    let settings : Settings := { Settings.standard with
      scheduler := { Settings.standard.scheduler with
        tickInterval := .real .nan, heartbeatInterval := .real (.finite (5 / 2))
        statusInterval := .real (.infinite false) } }
    Settings.ofValue v = .ok settings ∧ settings.InRange ∧
      ∃ s, build settings (setupOf settings) (.sample 1) (.script (fun _ f => .ok f.nominal) 0) {}
          = .ok s ∧
        let ds := (s.applyAll [.run 7]).daemons
        ds.map (·.name) = ["heartbeat", "status", "ai_cortex", "simulation"] ∧
          ∀ d ∈ ds,
            (d.name = "heartbeat" →
              ∃ k, 0 < k ∧ ∀ tick, d.isDue tick = true ↔ d.count.lastRun + k ≤ tick) ∧
            (d.name = "status" → ∀ tick, d.isDue tick = false) := by
  intro v settings
  have h : Settings.ofValue v = .ok settings := Settings.ofValue_of_check rfl (by decide +kernel)
  have hbuilt : (build settings (setupOf settings) (.sample 1)
      (.script (fun _ f => .ok f.nominal) 0) {}).isOk = true := by decide +kernel
  obtain ⟨s, hs⟩ := ok_of_isOk hbuilt
  obtain ⟨hrange, hdaemons⟩ := settings_in_range h
  obtain ⟨hintervals, hdue⟩ := hdaemons hs [.run 7]
  refine ⟨h, hrange, s, hs, ?_, fun d hd => ?_⟩
  · have hnames := congrArg (List.map Prod.fst) hintervals
    rw [List.map_map] at hnames
    exact hnames
  · have hmem : (d.name, d.interval.value) ∈ settings.scheduler.intervals :=
      hintervals ▸ List.mem_map_of_mem hd
    simp only [SchedulerSettings.intervals, settings, List.mem_cons, Prod.mk.injEq,
      List.not_mem_nil, or_false] at hmem
    obtain ⟨hfinite, hendless⟩ := hdue d hd
    constructor
    · intro hname
      simp only [hname, String.reduceEq, true_and, false_and, or_false] at hmem
      exact hfinite (by rw [Quantity.exact_of_value hmem]; rfl)
    · intro hname
      simp only [hname, String.reduceEq, true_and, false_and, or_false, false_or] at hmem
      exact hendless (by rw [Quantity.exact_of_value hmem]; rfl)

/-- the check lets a pace through that is `nan`, which no bound from below holds of -/
theorem not_all_in_range :
    ¬ ∀ v settings, Settings.ofValue v = .ok settings →
      ∃ q, settings.scheduler.tickInterval.quantity? = some q ∧ Number.finite 0 ≤ q.exact := by
  intro hall
  let settings : Settings := { Settings.standard with
    scheduler := { Settings.standard.scheduler with tickInterval := .real .nan } }
  have h : Settings.ofValue (.map [(.text "scheduler",
      .map [(.text "tick_interval_sec", .real .nan)])]) = .ok settings :=
    Settings.ofValue_of_check rfl (by decide +kernel)
  obtain ⟨q, hq, hle⟩ := hall _ settings h
  cases hq
  cases hle

end Scheduler
end Organism
