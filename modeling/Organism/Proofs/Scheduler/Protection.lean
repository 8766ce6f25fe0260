import Organism.Proofs.Command.Failure
import Organism.Proofs.Daemon.Decision
import Organism.Proofs.Scheduler.Turns

/-!
# The simulation stays off while the core has to be protected

A daemon turns the simulation off when the awareness is too low.  Nobody but a command turns it on
again, and while it is off the daemon that simulates does nothing at all.

* `Genuine.decided`         the daemon that decides does so in each of its turns;
* `Genuine.idle`            **the simulation has no effect while it is off**;
* `Genuine.level`           **only that daemon and a command change the level**;
* `Path.off`                the level stays off until such a command;
* `simulation_stays_off`    all of it, for whole runs.
-/

namespace Organism

attribute [local instance] Rounding.binary64

open Act Body

/-! ## turns -/

/-- a command sets the level of the simulation with success -/
def Turn.SetsSim (x : Turn) : Prop :=
  ∃ r, x.request? = some r ∧ r.operation = .setSim ∧ x.succeeded = true

def Turn.level? (x : Turn) : Option SimLevel :=
  x.request?.bind fun r => SimLevel.ofWord? (r.level.getD "")

/-- the daemon that decides has its turn and finds that the core has to be protected -/
def Turn.Protects (x : Turn) (tick : Nat) : Prop :=
  x.actor = .daemon "ai_cortex" tick ∧ x.after.bus.policy = .protectCore

def Command.LevelSet (r : Request) (b : Body) (result : CommandResult) (b' : Body) : Prop :=
  (result.ok = true ∧ SimLevel.ofWord? (r.level.getD "") = some b'.bus.simLevel) ∨
    (result.ok = false ∧ b'.bus.simLevel = b.bus.simLevel)

theorem Command.leads_setSim (setup : Setup) {r : Request} (hr : r.operation = .setSim) (b : Body) :
    Leads (fun b' => b' = b) (handle setup r) (LevelSet r b)
      fun _ b' => b'.bus.simLevel = b.bus.simLevel := by
  refine leads_handle
    (Q := fun result b' =>
      result.ok = true ∧ SimLevel.ofWord? (r.level.getD "") = some b'.bus.simLevel)
    (E := fun _ b' => b'.bus.simLevel = b.bus.simLevel) ?_ ?_ ?_ ?_
  · unfold perform
    refine leads_bind (Q := fun _ b' => b' = b) (leads_get fun _ h => h) fun _ => ?_
    rw [hr]
    unfold setSim
    dsimp only
    split
    · refine leads_throw ?_
      rintro b' rfl
      rfl
    · next level hlevel =>
      refine leads_bind (Q := fun _ b' => b'.bus.simLevel = level) (leads_update ?_) fun _ => ?_
      · intro b' _
        obtain ⟨journal, hb⟩ := b'.setSimLevel_eq level
        rw [hb]
      · refine leads_pure ?_
        rintro b' rfl
        exact ⟨rfl, hlevel⟩
  · exact fun result b' text payload h => .inl h
  · exact fun e b' level source note text payload _ h => .inr ⟨rfl, h⟩
  · exact fun e b' _ h => h

namespace Turn.Genuine

variable {setup : Setup} {x : Turn} {tick : Nat} (hx : x.Genuine setup)
include hx

theorem decided (ha : x.actor = .daemon "ai_cortex" tick) : x.before.Decided x.after := by
  obtain ⟨d, hact, hafter⟩ := hx.daemon_runs ha
  have hact : d.act = fun _ => Duty.policy setup := (Option.some.inj hact).symm
  have hdecides : Leads (fun b => b = x.before) (d.act tick) (fun _ => x.before.Decided)
      fun _ _ => False := by
    rw [hact]
    exact Duty.policy_decides setup x.before
  rw [hafter]
  exact Daemon.run_of_leads hdecides rfl

/-- **The simulation has no effect while it is off.** -/
theorem idle (ha : x.actor = .daemon "simulation" tick) (hoff : x.before.bus.simLevel = .off) :
    x.after = x.before := by
  obtain ⟨d, hact, hafter⟩ := hx.daemon_runs ha
  have hact : d.act = fun _ => Duty.simulation setup := (Option.some.inj hact).symm
  rw [hafter]
  unfold Daemon.run
  rw [hact, Duty.run_simulation_off hoff]

theorem level_of_command {r : Request} (hreq : x.request? = some r) (hr : r.operation = .setSim) :
    (x.succeeded = true ∧ SimLevel.ofWord? (r.level.getD "") = some x.after.bus.simLevel) ∨
      x.after.bus.simLevel = x.before.bus.simLevel := by
  rcases hx.command_ends hreq (Command.leads_setSim setup hr x.before) rfl with
    ⟨result, hsucceeded, ⟨hok, hlevel⟩ | ⟨-, hsame⟩⟩ | ⟨e, b', -, hsame, -, hbus⟩
  · exact .inl ⟨hsucceeded.trans hok, hlevel⟩
  · exact .inr hsame
  · exact .inr (hbus ▸ hsame)

/-- **Only a command and the daemon that decides change the level.** -/
theorem level (hne : x.after.bus.simLevel ≠ x.before.bus.simLevel) :
    (x.SetsSim ∧ x.level? = some x.after.bus.simLevel) ∨
      ∃ tick, x.Protects tick ∧ x.after.bus.simLevel = .off := by
  obtain ⟨S, hc, -, hsets⟩ := hx.course
  have hset : x.actor.Sets := by
    by_contra hno
    exact hne (hc.simLevel fun hS => hno (hsets hS))
  cases ha : x.actor with
  | daemon name tick =>
    rw [ha] at hset
    obtain rfl : name = "ai_cortex" := hset
    have hd := hx.decided ha
    by_cases hp : Policy.ofAwareness x.before.bus.awareness = .protectCore
    · have hlevel := hd.level
      rw [if_pos hp] at hlevel
      exact .inr ⟨tick, ⟨ha, hd.policy.trans hp⟩, hlevel⟩
    · have hlevel := hd.level
      rw [if_neg hp] at hlevel
      exact absurd hlevel hne
  | command r outcome =>
    rw [ha] at hset
    have hreq : x.request? = some r := by
      unfold Turn.request?
      rw [ha]
    rcases hx.level_of_command hreq hset with ⟨hok, hlevel⟩ | hsame
    · refine .inl ⟨⟨r, hreq, hset, hok⟩, ?_⟩
      unfold Turn.level?
      rw [hreq, Option.bind_some]
      exact hlevel
    · exact absurd hsame hne
  | restore path =>
    rw [ha] at hset
    exact hset.elim
  | outside =>
    rw [ha] at hset
    exact hset.elim
  | clock =>
    rw [ha] at hset
    exact hset.elim

/-- **The level stays off in every turn in which no command sets it.** -/
theorem off_kept (hset : ¬ x.SetsSim) (hoff : x.before.bus.simLevel = .off) :
    x.after.bus.simLevel = .off := by
  by_contra hne
  have hchanged : x.after.bus.simLevel ≠ x.before.bus.simLevel := by
    rw [hoff]
    exact hne
  rcases hx.level hchanged with ⟨hs, -⟩ | ⟨tick, -, hlevel⟩
  · exact hset hs
  · exact hne hlevel

theorem awareness_inUnit (hb : x.before.bus.awareness.InUnit) : x.after.bus.awareness.InUnit := by
  obtain ⟨S, hc, -, -⟩ := hx.course
  exact hc.awareness_inUnit hb

theorem off_of_protects (hp : x.Protects tick) : x.after.bus.simLevel = .off := by
  have hd := hx.decided hp.1
  have hlevel := hd.level
  rw [if_pos (hd.policy.symm.trans hp.2)] at hlevel
  exact hlevel

theorem protects_iff (ha : x.actor = .daemon "ai_cortex" tick)
    (hb : x.before.bus.awareness.InUnit) :
    x.Protects tick ↔ x.before.bus.awareness < Tier.impairedFrom := by
  rw [← Policy.ofAwareness_protect hb, ← (hx.decided ha).policy]
  exact ⟨fun h => h.2, fun h => ⟨ha, h⟩⟩

end Turn.Genuine

namespace Path

variable {setup : Setup} {b b' : Body} {xs : List Turn}

/-- **The level stays off until a command sets it**, and until then the simulation has no effect. -/
theorem off (h : Path setup b xs b') (hxs : ∀ x ∈ xs, ¬ x.SetsSim) (hb : b.bus.simLevel = .off) :
    b'.bus.simLevel = .off ∧ ∀ x ∈ xs, x.before.bus.simLevel = .off ∧ x.after.bus.simLevel = .off ∧
      ∀ tick, x.actor = .daemon "simulation" tick → x.after = x.before := by
  have hend : ∀ {ys b'}, Path setup b ys b' → ys ⊆ xs → b'.bus.simLevel = .off := fun h hys =>
    h.preserves (P := fun b => b.bus.simLevel = .off)
      (fun x hx hgenuine hoff => hgenuine.off_kept (hxs x (hys hx)) hoff) hb
  refine ⟨hend h (List.Subset.refl xs), fun x hx => ?_⟩
  obtain ⟨ys, zs, rfl⟩ := List.append_of_mem hx
  obtain ⟨hbefore, hgenuine, -⟩ := h.split_at
  have hoff := hend hbefore (List.subset_append_left ys _)
  exact ⟨hoff, hgenuine.off_kept (hxs x hx) hoff, fun tick ha => hgenuine.idle ha hoff⟩

theorem awareness_inUnit (h : Path setup b xs b') (hb : b.bus.awareness.InUnit) :
    b'.bus.awareness.InUnit :=
  h.preserves (P := fun b => b.bus.awareness.InUnit) (fun _ _ hx => hx.awareness_inUnit) hb

end Path

/-! ## one tick -/

namespace Scheduler

theorem actor_daemonTurns {tick : Nat} {ds : List Daemon} {b : Body} {x : Turn}
    (hx : x ∈ daemonTurns tick ds b) : ∃ d ∈ ds, x.actor = .daemon d.name tick := by
  induction ds generalizing b with
  | nil => cases hx
  | cons d ds ih =>
    rcases List.mem_cons.mp hx with rfl | hx
    · exact ⟨d, List.mem_cons_self, rfl⟩
    · obtain ⟨e, he, ha⟩ := ih hx
      exact ⟨e, List.mem_cons_of_mem d he, ha⟩

theorem not_setsSim_daemonTurns {tick : Nat} {ds : List Daemon} {b : Body} {x : Turn}
    (hx : x ∈ daemonTurns tick ds b) : ¬ x.SetsSim := by
  obtain ⟨d, -, ha⟩ := actor_daemonTurns hx
  rintro ⟨r, hreq, -⟩
  unfold Turn.request? at hreq
  rw [ha] at hreq
  cases hreq

/-- the simulation does not run before the decision -/
def InOrder (ds : List Daemon) : Prop :=
  ds.Pairwise fun d e => d.name = "simulation" → e.name ≠ "ai_cortex"

theorem Standard.inOrder {s : Scheduler} (h : s.Standard) : InOrder s.due := by
  have hnames : (s.due.map (·.name)).Sublist ((duties s.setup).map (·.1)) := by
    have hmap := h.due.map Prod.fst
    rw [List.map_map] at hmap
    exact hmap
  have hpairs : ((duties s.setup).map (·.1)).Pairwise fun a b =>
      a = "simulation" → b ≠ "ai_cortex" := by
    show ["heartbeat", "status", "ai_cortex", "simulation"].Pairwise _
    decide
  exact List.pairwise_map.mp (hpairs.sublist hnames)

/-- **In the tick of the decision the simulation has no effect.** -/
theorem daemonTurns_idle {setup : Setup} {tick : Nat} {ds : List Daemon}
    (hd : ∀ d ∈ ds, d.duty ∈ duties setup) (ho : InOrder ds) {b : Body} {x y : Turn} {m n : Nat}
    (hx : x ∈ daemonTurns tick ds b) (hy : y ∈ daemonTurns tick ds b) (hp : x.Protects m)
    (ha : y.actor = .daemon "simulation" n) : y.after = y.before := by
  induction ds generalizing b with
  | nil => cases hx
  | cons d ds ih =>
    obtain ⟨hd, hds⟩ := List.forall_mem_cons.mp hd
    obtain ⟨hlater, ho⟩ := List.pairwise_cons.mp ho
    rcases List.mem_cons.mp hx with rfl | hx
    · have hgenuine : Turn.Genuine setup _ := .daemon hd tick b
      have hoff := hgenuine.off_of_protects hp
      rcases List.mem_cons.mp hy with rfl | hy
      · have hname : "ai_cortex" = "simulation" := (Actor.daemon.inj (hp.1.symm.trans ha)).1
        exact absurd hname (by decide)
      · have hway := path_daemonTurns tick hds (d.run tick b).2.1
        obtain ⟨-, hidle⟩ := hway.off (fun z hz => not_setsSim_daemonTurns hz) hoff
        exact (hidle y hy).2.2 n ha
    · rcases List.mem_cons.mp hy with rfl | hy
      · obtain ⟨e, he, hname⟩ := actor_daemonTurns hx
        have hsim : d.name = "simulation" := (Actor.daemon.inj ha).1
        have hai : e.name = "ai_cortex" := (Actor.daemon.inj (hname.symm.trans hp.1)).1
        exact absurd hai (hlater e he hsim)
      · exact ih hds ho hx hy

theorem mem_tickTurns {s : Scheduler} {x : Turn} {name : String} {tick : Nat}
    (hx : x ∈ s.tickTurns) (ha : x.actor = .daemon name tick) :
    tick = s.clock + 1 ∧ x ∈ daemonTurns (s.clock + 1) s.due s.opened := by
  rcases List.mem_cons.mp hx with rfl | hx
  · cases ha
  rcases List.mem_append.mp hx with hx | hx
  · obtain ⟨d, -, hd⟩ := actor_daemonTurns hx
    exact ⟨(Actor.daemon.inj (ha.symm.trans hd)).2, hx⟩
  · obtain ⟨h, -, rfl⟩ := List.mem_map.mp hx
    cases ha

/-! ## runs -/

/-- in the tick of a decision that protects the core, the simulation has no effect -/
def Sheltered (xs : List Turn) : Prop :=
  ∀ x ∈ xs, ∀ y ∈ xs, ∀ tick, x.Protects tick → y.actor = .daemon "simulation" tick →
    y.after = y.before

def Passed (s : Scheduler) (xs : List Turn) : Prop :=
  ∀ x ∈ xs, ∀ name tick, x.actor = .daemon name tick → tick ≤ s.clock

theorem sheltered_tick {s : Scheduler} {xs : List Turn} (hs : s.Standard) (hpassed : Passed s xs)
    (h : Sheltered xs) : Passed s.step (xs ++ s.tickTurns) ∧ Sheltered (xs ++ s.tickTurns) := by
  constructor
  · intro x hx name tick ha
    show tick ≤ s.clock + 1
    rcases List.mem_append.mp hx with hx | hx
    · exact Nat.le_succ_of_le (hpassed x hx name tick ha)
    · exact Nat.le_of_eq (mem_tickTurns hx ha).1
  · intro x hx y hy tick hp ha
    rcases List.mem_append.mp hx with hx | hx
    · have hlate := hpassed x hx _ tick hp.1
      rcases List.mem_append.mp hy with hy | hy
      · exact h x hx y hy tick hp ha
      · have htick := (mem_tickTurns hy ha).1
        omega
    · obtain ⟨htick, hx⟩ := mem_tickTurns hx hp.1
      rcases List.mem_append.mp hy with hy | hy
      · have hlate := hpassed y hy _ tick ha
        omega
      · have hdue : ∀ d ∈ s.due, d.duty ∈ duties s.setup := fun d hd =>
          hs.due.subset (List.mem_map_of_mem hd)
        exact daemonTurns_idle hdue hs.inOrder hx (mem_tickTurns hy ha).2 hp ha

theorem sheltered_turns {s : Scheduler} (h : s.Standard) (es : List Event) :
    Sheltered (s.turns es) := by
  have hstart : s.Standard ∧ Passed s [] ∧ Sheltered [] :=
    ⟨h, fun _ hx => absurd hx List.not_mem_nil, fun _ hx => absurd hx List.not_mem_nil⟩
  have hall := turns_induction (P := fun u xs => u.Standard ∧ Passed u xs ∧ Sheltered xs)
    ?_ ?_ ?_ hstart es
  · exact hall.2.2
  · rintro u xs ⟨hu, hpassed, hxs⟩
    exact ⟨hu.step, sheltered_tick hu hpassed hxs⟩
  · exact fun u queue xs h => h
  · rintro u x xs ⟨hu, hpassed, hxs⟩ - - hno
    refine ⟨hu, ?_, ?_⟩
    · intro y hy name tick ha
      rcases List.mem_append.mp hy with hy | hy
      · exact hpassed y hy name tick ha
      · obtain rfl := List.mem_singleton.mp hy
        exact absurd ha (hno name tick)
    · intro y hy z hz tick hp ha
      rcases List.mem_append.mp hy with hy | hy
      · rcases List.mem_append.mp hz with hz | hz
        · exact hxs y hy z hz tick hp ha
        · obtain rfl := List.mem_singleton.mp hz
          exact absurd ha (hno _ tick)
      · obtain rfl := List.mem_singleton.mp hy
        exact absurd hp.1 (hno _ tick)

/-- **The simulation stays off while the core has to be protected.**  The turns of a run lead from
its first body to its last, and

* the level changes in no turn but that of a command that sets it with success, and that of the
  daemon that decides, if the awareness is below the bound, which turns it off;
* after a turn in which that daemon finds that the core has to be protected, the level is off until
  the next such command, and until then the simulation leaves the body as it is;
* in the tick of such a decision it does so in any case. -/
theorem simulation_stays_off {settings : Settings} {setup : Setup} {t : Topology}
    {senses : Senses} {files : FileSystem} {s : Scheduler}
    (h : build settings setup t senses files = .ok s) (es : List Event) :
    Path setup s.body (s.turns es) (s.applyAll es).body ∧
      (∀ x ∈ s.turns es, x.after.bus.simLevel ≠ x.before.bus.simLevel →
        (x.SetsSim ∧ x.level? = some x.after.bus.simLevel) ∨
          (∃ tick, x.actor = .daemon "ai_cortex" tick) ∧
            x.before.bus.awareness < Tier.impairedFrom ∧ x.after.bus.simLevel = .off) ∧
      (∀ pre x mid post tick, s.turns es = pre ++ x :: (mid ++ post) → x.Protects tick →
        (∀ y ∈ mid, ¬ y.SetsSim) →
          x.after.bus.simLevel = .off ∧
            ∀ y ∈ mid, y.before.bus.simLevel = .off ∧ y.after.bus.simLevel = .off ∧
              ∀ tick, y.actor = .daemon "simulation" tick → y.after = y.before) ∧
      ∀ x ∈ s.turns es, ∀ y ∈ s.turns es, ∀ tick, x.Protects tick →
        y.actor = .daemon "simulation" tick → y.after = y.before := by
  obtain ⟨hsetup, -, -, hawareness⟩ := build_parts h
  have hs := build_standard h
  have hp := path_turns hs es
  rw [hsetup] at hp
  refine ⟨hp, ?_, ?_, sheltered_turns hs es⟩
  · intro x hx hne
    obtain ⟨ys, zs, hsplit⟩ := List.append_of_mem hx
    rw [hsplit] at hp
    obtain ⟨hbefore, hgenuine, -⟩ := hp.split_at
    have hunit := hbefore.awareness_inUnit hawareness
    rcases hgenuine.level hne with hset | ⟨tick, hprotects, hoff⟩
    · exact .inl hset
    · exact .inr ⟨⟨tick, hprotects.1⟩, (hgenuine.protects_iff hprotects.1 hunit).mp hprotects, hoff⟩
  · intro pre x mid post tick hsplit hprotects hmid
    rw [hsplit] at hp
    obtain ⟨-, hgenuine, hrest⟩ := hp.split_at
    obtain ⟨c, hway, -⟩ := hrest.split
    have hoff := hgenuine.off_of_protects hprotects
    exact ⟨hoff, (hway.off hmid hoff).2⟩

/-- two organs fail in the tick in which the simulation is turned on -/
theorem simulation_stays_off_failing :
    let settings : Settings := { Settings.standard with
      scheduler := { Settings.standard.scheduler with
        aiInterval := .whole 1, simulationInterval := .whole 1 } }
    let events : List Event :=
      [.submit { operation := .damage, organ := some .cortex, amount := some 1 },
        .submit { operation := .damage, organ := some .memory, amount := some 1 },
        .submit { operation := .setSim, level := some "high" }, .step, .step]
    ∃ s x y, build settings (setupOf settings) (.sample 1)
        (.script (fun _ f => .ok f.nominal) 0) {} = .ok s ∧
      x ∈ s.turns events ∧ x.before.bus.simLevel = .high ∧ x.Protects 2 ∧
      x.after.bus.simLevel = .off ∧ y ∈ s.turns events ∧
      y.actor = .daemon "simulation" 2 ∧ y.after = y.before := by
  intro settings events
  have hrun : (build settings (setupOf settings) (.sample 1)
      (.script (fun _ f => .ok f.nominal) 0) {}).toOption.map (fun s =>
        ((s.turns events).drop 7).map fun x =>
          (x.daemon?, x.before.bus.simLevel, x.after.bus.policy)) =
      some [(some ("ai_cortex", 2), SimLevel.high, Policy.protectCore),
        (some ("simulation", 2), SimLevel.off, Policy.protectCore)] := by decide +kernel
  have hbuilt : (build settings (setupOf settings) (.sample 1)
      (.script (fun _ f => .ok f.nominal) 0) {}).isOk = true := by decide +kernel
  obtain ⟨s, h⟩ := ok_of_isOk hbuilt
  rw [h] at hrun
  obtain ⟨x, l, hdrop, hx, hmap⟩ := List.map_eq_cons_iff.mp (Option.some.inj hrun)
  obtain ⟨y, l, rfl, hy, -⟩ := List.map_eq_cons_iff.mp hmap
  obtain ⟨hname, hfacts⟩ := Prod.mk.inj hx
  obtain ⟨hlevel, hpolicy⟩ := Prod.mk.inj hfacts
  have hsub : ∀ z ∈ x :: y :: l, z ∈ s.turns events := by
    intro z hz
    rw [← hdrop] at hz
    exact List.mem_of_mem_drop hz
  have hx : x ∈ s.turns events := hsub x List.mem_cons_self
  have hsimulation := (Prod.mk.inj hy).1
  have hy : y ∈ s.turns events := hsub y (List.mem_cons_of_mem x List.mem_cons_self)
  have hprotects : x.Protects 2 := ⟨Turn.actor_of_daemon? hname, hpolicy⟩
  have ha := Turn.actor_of_daemon? hsimulation
  obtain ⟨-, -, hafter, hsame⟩ := simulation_stays_off h events
  obtain ⟨pre, post, hsplit⟩ := List.append_of_mem hx
  obtain ⟨hoff, -⟩ :=
    hafter pre x [] post 2 hsplit hprotects fun _ hz => absurd hz List.not_mem_nil
  exact ⟨s, x, y, h, hx, hlevel, hprotects, hoff, hy, ha, hsame x hx y hy 2 hprotects ha⟩

end Scheduler
end Organism
