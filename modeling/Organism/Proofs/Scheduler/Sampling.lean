import Organism.Proofs.Command.Frame
import Organism.Proofs.Daemon.Decision
import Organism.Proofs.Daemon.Families
import Organism.Proofs.Scheduler.Period
import Organism.Proofs.Scheduler.Turns

/-!
# The policy is a sample that is held

The daemon that decides looks at the awareness each time that its period has passed.  From then to
the next time, whatever happens, the policy and what is remembered of it are those of that moment:
of the healths after the heartbeat and the status daemon of the same tick, before the simulation and
the commands.

* `Setup.Accepted`           a setup under which no failure leaves an awareness out of date;
* `Daemon.attentive_run`     **so that the awareness is up to date after every run of a daemon**;
* `Daemon.records_run`, `upheld_run`   one daemon records its decision, the others uphold it;
* `sampled`                  the body that the daemon that decides looks at, from where the tick
                             goes on (`beforeCommands_eq`);
* `step_decides`, `step_upholds`   one tick, in which it is due or not;
* `Lull.attentive`, `Lull.upheld`   nothing between two ticks makes a difference;
* `Sampled`                  what all of these preserve;
* `policy_holds_sample`      the policy after any operations on a new organism.
-/

namespace Organism

attribute [local instance] Rounding.binary64

open Act Body

/-- a setup under which no daemon fails between a write of a health and the awareness of it -/
structure Setup.Accepted (setup : Setup) : Prop where
  limits : setup.limits.Accepted
  low : setup.simulation.low.recovery.IsNumeric
  high : setup.simulation.high.recovery.IsNumeric

theorem Duty.Typed.numeric {r : Reading} (h : Typed r) (hf : r.family ≠ .cpu) : r.Numeric := by
  have hreal : ∀ {name v}, (name, v) ∈ r.fields → name ≠ "throttling_events" →
      ∃ x, v.toNumber = .ok x := by
    intro name v hmem hname
    have htyped := h _ hmem
    rw [if_neg hname] at htyped
    obtain ⟨x, rfl⟩ := htyped
    exact toNumber_real x
  cases r with
  | cpu r => exact absurd rfl hf
  | memory r =>
    exact numeric_of_forall ⟨hreal (.head _) (by decide), hreal (.tail _ (.head _)) (by decide),
      hreal (.tail _ (.tail _ (.head _))) (by decide),
      hreal (.tail _ (.tail _ (.tail _ (.head _)))) (by decide)⟩
  | io r =>
    exact numeric_of_forall ⟨hreal (.head _) (by decide), hreal (.tail _ (.head _)) (by decide),
      hreal (.tail _ (.tail _ (.head _))) (by decide),
      hreal (.tail _ (.tail _ (.tail _ (.head _)))) (by decide)⟩

theorem Senses.steady_of_typed {answer : Nat → Family → Except Fault Reading} {reads : Nat}
    (h : ∀ n f r, answer n f = .ok r → r.family = f ∧ Duty.Typed r) :
    (script answer reads).Steady := by
  intro n f r hf hr
  obtain ⟨hfamily, htyped⟩ := h n f r hr
  exact ⟨hfamily, htyped.numeric (hfamily ▸ hf)⟩

/-! ## runs of daemons -/

namespace Daemon

variable {setup : Setup} {d : Daemon} {b : Body}

/-- **Every run of a standard daemon ends with an awareness that is up to date.** -/
theorem attentive_run (hs : setup.Accepted) {I : Senses → Prop} (hI : Senses.Lasting I)
    (hd : d.duty ∈ duties setup) (tick : Nat) (hb : b.Attentive I) :
    (d.run tick b).2.1.Attentive I := by
  have hkeeps : Keeps (Attentive I) (d.act tick) := by
    refine duty_cases hd (P := fun _ act => Keeps (Attentive I) (act tick)) ?_ ?_ ?_ ?_
    · exact Duty.leads_heartbeat (narrow_attentive I)
    · exact Duty.keeps_status hs.limits hI tick
    · exact Duty.leads_policy (narrow_attentive I) setup
    · exact Duty.keeps_simulation (stages_attentive I) hs.low hs.high
  exact run_preserves (fun _ c => narrow_attentive I c _ rfl rfl rfl) (hkeeps.body hb)

theorem upheld_run (hd : d.duty ∈ duties setup) (hname : d.name ≠ "ai_cortex") (tick : Nat)
    (b : Body) : b.Upheld (d.run tick b).2.1 := by
  have hkeeps : Keeps b.Upheld (d.act tick) := by
    refine duty_cases hd (P := fun name act => name ≠ "ai_cortex" → Keeps b.Upheld (act tick))
      (fun _ => ?_) (fun _ => ?_) (fun h => absurd rfl h) (fun _ => ?_) hname
    · exact upholds_of_touches Duty.touches_heartbeat (by decide) (by decide) b
    · exact upholds_of_touches (Duty.touches_status setup tick) (by decide) (by decide) b
    · exact Duty.upholds_simulation setup b
  exact run_preserves (fun _ _ hc => hc.trans ⟨rfl, fun _ _ _ => rfl⟩)
    (hkeeps.body (upheld_refl b))

theorem records_run (hr : setup.remembers = true) (hd : d.duty ∈ duties setup)
    (hname : d.name = "ai_cortex") (tick : Nat) (b : Body) :
    (d.run tick b).2.1.Recorded b.bus.awareness := by
  have hdecides : Leads (fun c => c = b) (d.act tick) (fun _ => Recorded b.bus.awareness)
      fun _ _ => False :=
    duty_cases hd (P := fun name act => name = "ai_cortex" →
      Leads (fun c => c = b) (act tick) (fun _ => Recorded b.bus.awareness) fun _ _ => False)
      (fun h => absurd h (by decide)) (fun h => absurd h (by decide))
      (fun _ => Duty.policy_records hr b) (fun h => absurd h (by decide)) hname
  exact run_of_leads hdecides rfl

end Daemon

theorem Operation.parts_decision (op : Operation) : .policy ∉ op.parts ∧ .memory ∉ op.parts := by
  cases op <;> decide

theorem Command.upholds_handle (setup : Setup) (r : Request) (b : Body) :
    Keeps b.Upheld (handle setup r) := by
  obtain ⟨hp, hm⟩ := r.operation.parts_decision
  exact upholds_of_touches (touches_handle setup r) (by simpa using hp) (by simpa using hm) b

namespace Scheduler

variable {s s' : Scheduler}

/-! ## one tick -/

def dueOf (s : Scheduler) (names : List String) : List Daemon := s.due.filter (·.name ∈ names)

/-- the body in the next tick as the heartbeat and the status daemon leave it -/
def sampled (s : Scheduler) : Body :=
  inTurn (s.clock + 1) (s.dueOf ["heartbeat", "status"]) s.opened

theorem Standard.daemons_cases (h : s.Standard) :
    ∃ heartbeat status policy simulation, s.daemons = [heartbeat, status, policy, simulation] ∧
      heartbeat.name = "heartbeat" ∧ status.name = "status" ∧ policy.name = "ai_cortex" ∧
      simulation.name = "simulation" := by
  obtain ⟨heartbeat, ds, hds, h₁, h⟩ := List.map_eq_cons_iff.mp h
  obtain ⟨status, ds, rfl, h₂, h⟩ := List.map_eq_cons_iff.mp h
  obtain ⟨policy, ds, rfl, h₃, h⟩ := List.map_eq_cons_iff.mp h
  obtain ⟨simulation, ds, rfl, h₄, h⟩ := List.map_eq_cons_iff.mp h
  obtain rfl := List.map_eq_nil_iff.mp h
  exact ⟨heartbeat, status, policy, simulation, hds, congrArg Prod.fst h₁, congrArg Prod.fst h₂,
    congrArg Prod.fst h₃, congrArg Prod.fst h₄⟩

theorem Standard.duty_mem (h : s.Standard) {d : Daemon} (hd : d ∈ s.daemons) :
    d.duty ∈ duties s.setup := h ▸ List.mem_map_of_mem hd

def Bystanders (s : Scheduler) (ds : List Daemon) : Prop :=
  ∀ d ∈ ds, d ∈ s.daemons ∧ d.name ≠ "ai_cortex"

theorem upheld_inTurn (h : s.Standard) {ds : List Daemon} (hd : s.Bystanders ds) (tick : Nat)
    (b : Body) : b.Upheld (inTurn tick ds b) := by
  refine inTurn_preserves (fun d hmem c hc => hc.trans ?_) (upheld_refl b)
  obtain ⟨hmem, hname⟩ := hd d hmem
  exact d.upheld_run (h.duty_mem hmem) hname tick c

theorem bystanders_sampled (s : Scheduler) :
    s.Bystanders (s.dueOf ["heartbeat", "status"]) := by
  intro d hd
  obtain ⟨hdue, hname⟩ := List.mem_filter.mp hd
  refine ⟨(List.mem_filter.mp hdue).1, ?_⟩
  rcases List.mem_pair.mp (of_decide_eq_true hname) with hname | hname <;> simp [hname]

theorem Standard.dueOf_cases (h : s.Standard) :
    s.due = s.dueOf ["heartbeat", "status"] ++ s.dueOf ["ai_cortex", "simulation"] ∧
      ∃ policy rest, policy ∈ s.daemons ∧ policy.name = "ai_cortex" ∧ s.Bystanders rest ∧
        s.dueOf ["ai_cortex", "simulation"] =
          if policy.isDue (s.clock + 1) then policy :: rest else rest := by
  obtain ⟨heartbeat, status, policy, simulation, hds, h₁, h₂, h₃, h₄⟩ := h.daemons_cases
  have hdueOf : ∀ names, s.dueOf names =
      (s.daemons.filter (·.name ∈ names)).filter (·.isDue (s.clock + 1)) := fun names =>
    List.filter_comm _ _ _
  have hearly : s.dueOf ["heartbeat", "status"] =
      [heartbeat, status].filter (·.isDue (s.clock + 1)) := by
    rw [hdueOf, hds]
    simp [h₁, h₂, h₃, h₄]
  have hlate : s.dueOf ["ai_cortex", "simulation"] =
      [policy, simulation].filter (·.isDue (s.clock + 1)) := by
    rw [hdueOf, hds]
    simp [h₁, h₂, h₃, h₄]
  refine ⟨?_, policy, [simulation].filter (·.isDue (s.clock + 1)), by simp [hds], h₃, ?_, ?_⟩
  · rw [hearly, hlate, ← List.filter_append]
    exact congrArg _ hds
  · intro d hd
    obtain rfl := List.mem_singleton.mp (List.mem_filter.mp hd).1
    exact ⟨by simp [hds], by simp [h₄]⟩
  · rw [hlate]
    exact List.filter_cons

/-- **The tick goes on from there.** -/
theorem Standard.beforeCommands_eq (h : s.Standard) : s.beforeCommands =
    inTurn (s.clock + 1) (s.dueOf ["ai_cortex", "simulation"]) s.sampled := by
  unfold beforeCommands
  rw [h.dueOf_cases.1]
  exact List.foldl_append

theorem upheld_commands (s : Scheduler) : s.beforeCommands.Upheld s.step.body := by
  rw [body_step]
  exact Queue.keeps_drain (fun w _ => Command.upholds_handle s.setup w.2 s.beforeCommands)
    (fun _ _ _ _ hb => hb.trans ⟨rfl, fun _ _ _ => rfl⟩) (upheld_refl _)

theorem attentive_inTurn (h : s.Standard) (hs : s.setup.Accepted) {I : Senses → Prop}
    (hI : Senses.Lasting I) {ds : List Daemon} (hd : ds ⊆ s.due) (tick : Nat) {b : Body}
    (hb : b.Attentive I) : (inTurn tick ds b).Attentive I :=
  inTurn_preserves (fun d hmem _ hc =>
    d.attentive_run hs hI (h.duty_mem (List.mem_filter.mp (hd hmem)).1) tick hc) hb

theorem attentive_step (h : s.Standard) (hs : s.setup.Accepted) {I : Senses → Prop}
    (hI : Senses.Lasting I) (hb : s.body.Attentive I) :
    s.sampled.Attentive I ∧ s.step.body.Attentive I := by
  have hopened : s.opened.Attentive I := (narrow_attentive I).advance hb _
  refine ⟨attentive_inTurn h hs hI (List.filter_subset_self _) _ hopened, ?_⟩
  rw [body_step]
  exact Queue.keeps_drain (fun w _ => Command.keeps_handle (stages_attentive I) s.setup w.2)
    (fun b _ _ _ => narrow_attentive I b _ rfl rfl rfl)
    (attentive_inTurn h hs hI (List.Subset.refl _) _ hopened)

/-- **A tick in which the daemon that decides is due records the awareness that it looks at.** -/
theorem step_decides (h : s.Standard) (hr : s.setup.remembers = true)
    (hdue : ∀ d ∈ s.daemons, d.name = "ai_cortex" → d.isDue (s.clock + 1) = true) :
    s.step.body.Recorded s.sampled.bus.awareness := by
  obtain ⟨-, policy, rest, hp, hname, hrest, hlate⟩ := h.dueOf_cases
  rw [if_pos (hdue policy hp hname)] at hlate
  have hrecorded := policy.records_run hr (h.duty_mem hp) hname (s.clock + 1) s.sampled
  have hbefore : s.beforeCommands.Recorded s.sampled.bus.awareness := by
    rw [h.beforeCommands_eq, hlate]
    exact (upheld_inTurn h hrest _ _).recorded hrecorded
  exact (upheld_commands s).recorded hbefore

/-- **Every other tick upholds what was decided.** -/
theorem step_upholds (h : s.Standard)
    (hidle : ∀ d ∈ s.daemons, d.name = "ai_cortex" → ¬ d.isDue (s.clock + 1) = true) :
    s.body.Upheld s.step.body := by
  obtain ⟨-, policy, rest, hp, hname, hrest, hlate⟩ := h.dueOf_cases
  rw [if_neg (hidle policy hp hname)] at hlate
  have hopened : s.body.Upheld s.opened := (Change.time s.core_opened).upheld nofun nofun
  have hsampled : s.opened.Upheld s.sampled := upheld_inTurn h s.bystanders_sampled _ _
  have hbefore : s.sampled.Upheld s.beforeCommands := by
    rw [h.beforeCommands_eq, hlate]
    exact upheld_inTurn h hrest _ _
  exact ((hopened.trans hsampled).trans hbefore).trans (upheld_commands s)

/-! ## between two ticks -/

theorem Lull.attentive (h : Lull s s') {I : Senses → Prop} (hb : s.body.Attentive I) :
    s'.body.Attentive I := by
  cases h with
  | begin => exact narrow_attentive I s.body _ rfl rfl rfl hb
  | close => exact narrow_attentive I s.body _ rfl rfl rfl hb
  | submit => exact hb
  | cancel => exact hb
  | restore path => exact (keeps_restore (stages_attentive I) path).body hb
  | outside => exact narrow_attentive I s.body _ rfl rfl rfl hb

theorem Lull.upheld (h : Lull s s') : s.body.Upheld s'.body := by
  cases h with
  | restore path =>
    have hkeeps := upholds_of_touches (touches_restore path) (by decide) (by decide) s.body
    exact hkeeps.body (upheld_refl s.body)
  | _ => exact ⟨rfl, fun _ _ _ => rfl⟩

/-! ## runs -/

/-- what is true of a scheduler after ticks that began on the given schedulers, if the daemon that
decides has the period `k`: nothing has been decided, or it is held what was decided last -/
structure Sampled (k : Nat) (s : Scheduler) (ticks : List Scheduler) : Prop where
  standard : s.Standard
  setup : s.setup.Accepted ∧ s.setup.remembers = true
  punctual : ∀ d ∈ s.daemons, d.name = "ai_cortex" → d.Punctual s.clock ("ai_cortex", k)
  clocks : ticks.map (·.clock) = List.range s.clock
  body : s.body.Attentive Senses.Steady
  undecided : s.clock < k → s.body.Undecided
  recorded : k ≤ s.clock → ∃ u ∈ ticks, u.Standard ∧ u.clock + 1 = k * (s.clock / k) ∧
    ∃ a, u.sampled.topology.awareness = .ok a ∧ s.body.Recorded a

variable {k : Nat} {ticks : List Scheduler}

theorem Sampled.lull (h : Sampled k s ticks) (hs : Lull s s') : Sampled k s' ticks := by
  have hbody := hs.attentive h.body
  have hupheld := hs.upheld
  have hrest := hs.still.rest
  generalize s'.body = body at hbody hupheld hrest
  generalize s'.queue = queue at hrest
  subst hrest
  refine ⟨h.standard, h.setup, h.punctual, h.clocks, hbody, ?_, ?_⟩
  · exact fun hn => hupheld.undecided (h.undecided hn)
  · intro hn
    obtain ⟨u, hu, hstandard, hclock, a, ha, hrecorded⟩ := h.recorded hn
    exact ⟨u, hu, hstandard, hclock, a, ha, hupheld.recorded hrecorded⟩

theorem Sampled.punctual_step (h : Sampled k s ticks) : ∀ d ∈ s.step.daemons,
    d.name = "ai_cortex" → d.Punctual (s.clock + 1) ("ai_cortex", k) := by
  intro d' hd' hname
  obtain ⟨d, hd, ⟨hdue, c, rfl⟩ | ⟨hidle, rfl⟩⟩ := runDue_cases hd'
  · have hsame : (d.run (s.clock + 1) c).1.name = d.name :=
      congrArg Prod.fst (d.duty_run (s.clock + 1) c)
    have hp := h.punctual d hd (hsame.symm.trans hname)
    exact hp.run (hp.isDue_iff.mp hdue) c
  · have hp := h.punctual _ hd hname
    exact hp.idle fun hdvd => hidle (hp.isDue_iff.mpr hdvd)

/-- **One tick keeps the last decision, or makes a new one.** -/
theorem Sampled.step (h : Sampled k s ticks) : Sampled k s.step (ticks ++ [s]) := by
  obtain ⟨hsampled, hbody⟩ := attentive_step h.standard h.setup.1 Senses.lasting_steady h.body
  have hclocks : (ticks ++ [s]).map (·.clock) = List.range (s.clock + 1) := by
    rw [List.map_append, h.clocks]
    exact List.range_succ.symm
  have hdue : ∀ d ∈ s.daemons, d.name = "ai_cortex" →
      (d.isDue (s.clock + 1) = true ↔ k ∣ s.clock + 1) := fun d hd hname =>
    (h.punctual d hd hname).isDue_iff
  by_cases hdvd : k ∣ s.clock + 1
  · have hrecorded := step_decides h.standard h.setup.2 fun d hd hn => (hdue d hd hn).mpr hdvd
    refine ⟨h.standard.step, h.setup, h.punctual_step, hclocks, hbody, ?_, ?_⟩
    · intro hn
      exact absurd (Nat.le_of_dvd (Nat.succ_pos _) hdvd) (not_le.mpr hn)
    · intro _
      exact ⟨s, List.mem_append_right _ List.mem_cons_self, h.standard,
        (Nat.mul_div_cancel' hdvd).symm, _, hsampled.aware, hrecorded⟩
  · have hupheld := step_upholds h.standard fun d hd hn => mt (hdue d hd hn).mp hdvd
    have hdiv : (s.clock + 1) / k = s.clock / k := Nat.succ_div_of_not_dvd hdvd
    refine ⟨h.standard.step, h.setup, h.punctual_step, hclocks, hbody, ?_, ?_⟩
    · intro hn
      exact hupheld.undecided (h.undecided (Nat.lt_of_succ_lt hn))
    · intro hn
      have hle : k ≤ s.clock := by
        rcases Nat.lt_or_eq_of_le hn with hlt | heq
        · exact Nat.le_of_lt_succ hlt
        · exact absurd (dvd_of_eq heq) hdvd
      obtain ⟨u, hu, hstandard, hclock, a, ha, hrecorded⟩ := h.recorded hle
      exact ⟨u, List.mem_append_left _ hu, hstandard, hdiv.symm ▸ hclock, a, ha,
        hupheld.recorded hrecorded⟩

/-! ## new organisms -/

section
variable {settings : Settings} {t : Topology} {senses : Senses} {files : FileSystem}

theorem setupOf_accepted (hc : Settings.check settings = .ok ()) (hn : settings.Numeric) :
    (setupOf settings).Accepted := ⟨Settings.accepted hc hn, hn.low, hn.high⟩

theorem bodyOf_fresh {b : Body} (h : bodyOf settings t senses files = .ok b) :
    b.bus.policy = .pushCapacity ∧ b.memory = {} := by
  obtain ⟨length, x, seed, -, -, -, rfl⟩ := bodyOf_cases h
  exact ⟨rfl, rfl⟩

theorem punctual_of_standardDaemons {setup : Setup} {settings : SchedulerSettings}
    {ds : List Daemon} (hk : settings.aiInterval.IsPeriod k)
    (h : standardDaemons setup settings = .ok ds) :
    ∀ d ∈ ds, d.name = "ai_cortex" → d.Punctual 0 ("ai_cortex", k) := by
  obtain ⟨heartbeat, status, policy, simulation, rfl, h₁, h₂, h₃, h₄⟩ := standardDaemons_cases h
  intro d hd hname
  have hother : ∀ {name act}, d.duty = (name, act) → name ≠ "ai_cortex" →
      d.Punctual 0 ("ai_cortex", k) := fun hduty hne =>
    absurd ((congrArg Prod.fst hduty).symm.trans hname) hne
  simp only [List.mem_cons, List.not_mem_nil, or_false] at hd
  rcases hd with rfl | rfl | rfl | rfl
  · exact hother (Daemon.duty_create h₁) (by decide)
  · exact hother (Daemon.duty_create h₂) (by decide)
  · exact Daemon.punctual_create hk h₃
  · exact hother (Daemon.duty_create h₄) (by decide)

theorem build_sampled (hc : Settings.check settings = .ok ()) (hn : settings.Numeric)
    (hk : settings.scheduler.aiInterval.IsPeriod k) (ht : t.Whole) (hs : senses.Steady)
    (h : build settings (setupOf settings) t senses files = .ok s) : Sampled k s [] := by
  have hstandard := build_standard h
  obtain ⟨body, daemons, hbody, hdaemons, rfl⟩ := build_cases h
  obtain ⟨haware, hsenses⟩ := bodyOf_aware ht hbody
  obtain ⟨hpolicy, hmemory⟩ := bodyOf_fresh hbody
  refine ⟨hstandard, ⟨setupOf_accepted hc hn, rfl⟩, punctual_of_standardDaemons hk hdaemons, rfl,
    ⟨haware, hsenses ▸ hs⟩, ?_, ?_⟩
  · exact fun _ => ⟨hpolicy, fun scope => by rw [hmemory]; exact ⟨rfl, rfl⟩⟩
  · exact fun hle => absurd hk.1 (not_lt.mpr hle)

/-- **The policy is a sample of the awareness that is held until the next one.**  Let `k` be the
period of the daemon that decides, and let the senses give readings that can be read, or fail; for
the first organ they may give anything.  After any operations on a new organism, with `n` ticks at
the times 1 to `n`: if `n < k`, nothing has been decided or remembered.  Otherwise the policy, and
what is remembered of it and of the awareness, are those for the healths as the heartbeat and the
status daemon left them in the tick at the time `k * (n / k)`, from where that tick went on with the
decision, the simulation and the commands. -/
theorem policy_holds_sample (hc : Settings.check settings = .ok ()) (hn : settings.Numeric)
    (hk : settings.scheduler.aiInterval.IsPeriod k) (ht : t.Whole) (hs : senses.Steady)
    (h : build settings (setupOf settings) t senses files = .ok s) (events : List Event) :
    let ticks := s.begunAll events
    let final := s.applyAll events
    let n := final.clock
    ticks.map (·.clock + 1) = List.range' 1 n ∧
      (n < k → final.body.bus.policy = .pushCapacity ∧ ∀ scope,
        final.body.memory.get? scope "ai.policy" = none ∧
        final.body.memory.get? scope "ai.awareness" = none) ∧
      (k ≤ n → ∃ u ∈ ticks, u.clock + 1 = k * (n / k) ∧
        u.step.body = (u.queue.drain (Command.handle u.setup)
          (inTurn (u.clock + 1) (u.dueOf ["ai_cortex", "simulation"]) u.sampled)).2 ∧
        ∃ a, u.sampled.topology.awareness = .ok a ∧
          final.body.bus.policy = .ofAwareness a ∧
          final.body.memory.get? .everywhere "ai.policy" =
            some (.text (Named.label final.body.bus.policy)) ∧
          final.body.memory.get? .everywhere "ai.awareness" = some (.real a)) := by
  intro ticks final n
  have hall : Sampled k final ([] ++ ticks) :=
    applyAll_preserves (fun _ _ hs => hs.step) (fun _ _ _ hs h => h.lull hs)
      (build_sampled hc hn hk ht hs h) events
  refine ⟨times_of_clocks hall.clocks, fun hlt => ?_, fun hle => ?_⟩
  · have hundecided := hall.undecided hlt
    exact ⟨hundecided.policy, hundecided.memory⟩
  · obtain ⟨u, hu, hstandard, hclock, a, ha, hrecorded⟩ := hall.recorded hle
    have hstep : u.step.body = (u.queue.drain (Command.handle u.setup) _).2 :=
      hstandard.beforeCommands_eq ▸ body_step u
    have hlabel := hrecorded.label
    rw [← hrecorded.policy] at hlabel
    exact ⟨u, hu, hclock, hstep, a, ha, hrecorded.policy, hlabel, hrecorded.awareness⟩

/-- a count of throttling events that is too large for a number, a hot processor, no memory that can
be read, and damage in the fifth tick; the policy in the seventh is the one of the sixth -/
theorem policy_holds_sample_hot :
    let settings : Settings := { Settings.standard with
      simLevel := .high
      scheduler := { Settings.standard.scheduler with
        statusInterval := .whole 2, aiInterval := .whole 3, simulationInterval := .whole 2 } }
    let answer : Nat → Family → Except Fault Reading := fun n f =>
      match f with
      | .cpu => .ok (.cpu { CpuReading.nominal with
          temperature := .real 100, throttling := .whole (if n = 0 then 10 ^ 400 else 2) })
      | .memory => .error (.unavailable "memory" "no counters")
      | .io => .ok (.io .nominal)
    let events : List Event :=
      [.run 4, .submit { operation := .damage, organ := some .memory, amount := some 0.5 }, .step,
        .restore (.ofString "state"), .run 2]
    Settings.check settings = .ok () ∧ settings.Numeric ∧
      settings.scheduler.aiInterval.IsPeriod 3 ∧ (Topology.sample 1).Whole ∧
      (Senses.script answer 0).Steady ∧
      ∃ s, build settings (setupOf settings) (.sample 1) (.script answer 0) {} = .ok s ∧
        let final := s.applyAll events
        final.clock = 7 ∧ final.body.bus.policy = .maintainLoad ∧
        ∃ u ∈ s.begunAll events, u.clock + 1 = 6 ∧ ∃ a, u.sampled.topology.awareness = .ok a ∧
          Policy.ofAwareness a = .maintainLoad ∧
          final.body.memory.get? .everywhere "ai.policy" = some (.text "maintain_load") ∧
          final.body.memory.get? .everywhere "ai.awareness" = some (.real a) := by
  intro settings answer events
  have hc : Settings.check settings = .ok () := ok_of_toOption (by decide +kernel)
  have hn : settings.Numeric :=
    ⟨Settings.standard_numeric.maxPenalties, Settings.standard_numeric.low,
      Settings.standard_numeric.high⟩
  have hk : settings.scheduler.aiInterval.IsPeriod 3 := ⟨by decide, .whole 3, rfl, rfl⟩
  have ht : (Topology.sample 1).Whole := Topology.sample_whole Number.inUnit_one
  have hs : (Senses.script answer 0).Steady := by
    refine Senses.steady_of_typed fun n f r hr => ?_
    cases f with
    | cpu =>
      cases hr
      refine ⟨rfl, fun p hp => ?_⟩
      simp only [Reading.fields, List.mem_cons, List.not_mem_nil, or_false] at hp
      rcases hp with rfl | rfl | rfl | rfl | rfl <;> exact ⟨_, rfl⟩
    | memory => cases hr
    | io =>
      cases hr
      exact ⟨rfl, Duty.typed_nominal .io⟩
  have hend : (build settings (setupOf settings) (.sample 1) (.script answer 0) {}).toOption.map
      (fun s => ((s.applyAll events).clock, (s.applyAll events).body.bus.policy)) =
        some (7, .maintainLoad) := by decide +kernel
  cases h : build settings (setupOf settings) (.sample 1) (.script answer 0) {} with
  | error e =>
    rw [h] at hend
    cases hend
  | ok s =>
    rw [h] at hend
    obtain ⟨hclock, hpolicy⟩ := Prod.mk.inj (Option.some.inj hend)
    obtain ⟨-, -, hheld⟩ := policy_holds_sample hc hn hk ht hs h events
    rw [hclock, hpolicy] at hheld
    obtain ⟨u, hu, htime, -, a, ha, hof, hlabel, hawareness⟩ := hheld (by decide)
    exact ⟨hc, hn, hk, ht, hs, s, rfl, hclock, hpolicy, u, hu, htime, a, ha, hof.symm, hlabel,
      hawareness⟩

end
end Scheduler
end Organism
