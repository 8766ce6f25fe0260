import Organism.Proofs.Scheduler.Ticks
import Organism.Proofs.Signal.Echo

/-!
# A daemon that fails

A daemon that fails leaves nothing behind but the reports on its failures.  An organism with one
more daemon, which always fails, does the same as without it; what differs is the numbers of its
pulses.

* `Daemon.AlwaysFails`   the daemon fails whenever it runs, and does nothing before;
* `AlwaysFails.turn`     its turn in a tick leaves at most one report behind;
* `publishedBy`          what the daemon at a place publishes in a tick;
* `Twins`                an organism next to one with such a daemon;
* `Twins.step`           **one tick of both keeps them twins**;
* `Twins.applyAll`       and so do any operations;
* `failure_isolated`     the same for every new organism.
-/

namespace Organism

attribute [local instance] Rounding.binary64

open Body

/-! ## one turn -/

/-- the daemon fails whenever it runs, and does nothing before but take notes -/
def Daemon.AlwaysFails (d : Daemon) : Prop :=
  ∀ tick b, ∃ e b', (d.act tick).run b = (.error e, b') ∧ Alike b b' ∧ Posted [] b b'

theorem Daemon.AlwaysFails.turn {d : Daemon} (hd : d.AlwaysFails) (tick : Nat) (b : Body) :
    ∃ d' ns, (Scheduler.runDue tick [d] b).1 = [d'] ∧ d'.act = d.act ∧ d'.name = d.name ∧
      Alike b (Scheduler.runDue tick [d] b).2.1 ∧ Posted ns b (Scheduler.runDue tick [d] b).2.1 ∧
      ∀ m ∈ ns, ∃ e, m = d.failure e := by
  by_cases hdue : d.isDue tick
  · obtain ⟨e, b', hrun, halike, hposted⟩ := hd tick b
    rw [Scheduler.runDue_cons_of_due hdue]
    have hd' : d.run tick b = ({ d with
        count := Runs.mark { d.count with errors := d.count.errors + 1 } tick },
        d.report tick e b', true) := by
      unfold run
      rw [hrun]
    rw [hd']
    refine ⟨_, [d.failure e], rfl, rfl, rfl, ?_, ?_, ?_⟩
    · exact halike.trans (rfl : (b'.bare : Body) = (d.report tick e b').bare)
    · exact hposted.trans (d.posted_report tick e b')
    · exact List.forall_mem_singleton.mpr ⟨e, rfl⟩
  · rw [Scheduler.runDue_cons_of_idle hdue]
    exact ⟨d, [], rfl, rfl, rfl, rfl, rfl, List.forall_mem_nil _⟩

namespace Scheduler

def afterTurns (s : Scheduler) (count : Nat) : Body :=
  (runDue (s.clock + 1) (s.daemons.take count) s.opened).2.1

def publishedBy (place : Nat) (s : Scheduler) : List Pulse :=
  (s.afterTurns (place + 1)).bus.pending.drop (s.afterTurns place).bus.pending.length

variable {place : Nat} {d : Daemon} {u u' v v' : Scheduler} {us vs : List Scheduler}

theorem runDue_middle (tick : Nat) (before : List Daemon) (d : Daemon) (after : List Daemon)
    (b : Body) :
    runDue tick (before ++ d :: after) b =
      let p := runDue tick before b
      let q := runDue tick [d] p.2.1
      let r := runDue tick after q.2.1
      (p.1 ++ (q.1 ++ r.1), r.2.1, p.2.2 + (q.2.2 + r.2.2)) := by
  rw [← List.singleton_append, runDue_append]
  dsimp only
  rw [runDue_append]

theorem length_runDue (tick : Nat) (ds : List Daemon) (b : Body) :
    (runDue tick ds b).1.length = ds.length := by
  induction ds generalizing b with
  | nil => rfl
  | cons d ds ih =>
    by_cases h : d.isDue tick
    · rw [runDue_cons_of_due h]
      exact congrArg (· + 1) (ih _)
    · rw [runDue_cons_of_idle h]
      exact congrArg (· + 1) (ih b)

theorem publishedBy_middle {before after : List Daemon} (h : v.daemons = before ++ d :: after) :
    publishedBy before.length v =
      let b := (runDue (v.clock + 1) before v.opened).2.1
      (runDue (v.clock + 1) [d] b).2.1.bus.pending.drop b.bus.pending.length := by
  have htake : v.daemons.take before.length = before := by
    rw [h]
    exact List.take_left
  have htake' : v.daemons.take (before.length + 1) = before ++ [d] := by
    rw [h, ← List.singleton_append, ← List.append_assoc]
    exact List.take_left' List.length_append
  unfold publishedBy afterTurns
  rw [htake, htake', runDue_append]

/-- what the daemons of two organisms do in a tick, one of which has one more daemon, which fails:
the messages before and after its turn are the same, and its own are reports -/
structure Turns (tick : Nat) (before after : List Daemon) (d : Daemon) (b c : Body)
    (ms ns ks : List Message) : Prop where
  alike : Alike (runDue tick (before ++ after) b).2.1 (runDue tick (before ++ d :: after) c).2.1
  left : Posted (ms ++ ks) b (runDue tick (before ++ after) b).2.1
  right : Posted (ms ++ (ns ++ ks)) c (runDue tick (before ++ d :: after) c).2.1
  daemons : ∃ before' after' d', (runDue tick (before ++ after) b).1 = before' ++ after' ∧
    (runDue tick (before ++ d :: after) c).1 = before' ++ d' :: after' ∧
    before'.length = before.length ∧ d'.act = d.act ∧ d'.name = d.name
  extra : (runDue tick [d] (runDue tick before c).2.1).2.1.bus.pending.drop
      (runDue tick before c).2.1.bus.pending.length
    = Bus.stampAll (c.bus.published + ms.length) c.bus.tick ns
  reports : ∀ m ∈ ns, ∃ e, m = d.failure e

theorem exists_turns (tick : Nat) {before after : List Daemon} (hbefore : ∀ d ∈ before, d.Blind)
    (hafter : ∀ d ∈ after, d.Blind) (hd : d.AlwaysFails) {b c : Body} (h : Alike b c) :
    ∃ ms ns ks, Turns tick before after d b c ms ns ks := by
  obtain ⟨ms, -, hA, hjA⟩ := runDue_blind tick hbefore h
  obtain ⟨d', ns, hturn, hact, hname, halike, hposted, hns⟩ :=
    hd.turn tick (runDue tick before c).2.1
  obtain ⟨ks, -, hB, hjB⟩ := runDue_blind tick hafter (hjA.alike.trans halike)
  refine ⟨ms, ns, ks, ?_, ?_, ?_, ?_, ?_, hns⟩
  · rw [runDue_append, runDue_middle]
    exact hjB.alike
  · rw [runDue_append]
    exact hjA.left.trans hjB.left
  · rw [runDue_middle]
    exact hjA.right.trans (hposted.trans hjB.right)
  · rw [runDue_append, runDue_middle]
    dsimp only
    rw [hA, hB, hturn]
    exact ⟨_, _, d', rfl, rfl, length_runDue _ _ _, hact, hname⟩
  · rw [Bus.pending_of_mail hposted, List.drop_left, Bus.published_of_mail hjA.right,
      Bus.tick_of_mail hjA.right]

/-! ## twins -/

/-- the second organism has one more daemon, which always fails; the ticks of both began on the
given schedulers -/
structure Twins (place : Nat) (d : Daemon) (u : Scheduler) (us : List Scheduler) (v : Scheduler)
    (vs : List Scheduler) : Prop where
  setup : v.setup = u.setup
  clock : v.clock = u.clock
  queue : v.queue = u.queue
  commandRuns : v.commandRuns = u.commandRuns
  snapshot : v.snapshot = u.snapshot
  alike : Alike u.body v.body
  blind : u.Blind
  daemons : ∃ before after d', u.daemons = before ++ after ∧ v.daemons = before ++ d' :: after ∧
    before.length = place ∧ d'.act = d.act ∧ d'.name = d.name
  reports : ∀ p ∈ vs.flatMap (publishedBy place), ∃ e, p.toMessage = d.failure e
  delivered : Echo v.body.bus.published (vs.flatMap (publishedBy place)) (us.flatMap opening)
    (vs.flatMap opening)
  pending : Echo v.body.bus.published (vs.flatMap (publishedBy place)) u.body.bus.pending
    v.body.bus.pending

/-- the pulses that twins publish in a tick -/
structure TickPulses (place : Nat) (d : Daemon) (u v : Scheduler) (ms ns ks : List Message) : Prop where
  left : u.step.body.bus.pending
    = Bus.stampAll u.body.bus.published (u.clock + 1 : Nat) (ms ++ ks)
  right : v.step.body.bus.pending
    = Bus.stampAll v.body.bus.published (u.clock + 1 : Nat) (ms ++ (ns ++ ks))
  published : v.step.body.bus.published = v.body.bus.published + (ms ++ (ns ++ ks)).length
  extra : publishedBy place v
    = Bus.stampAll (v.body.bus.published + ms.length) (u.clock + 1 : Nat) ns
  reports : ∀ m ∈ ns, ∃ e, m = d.failure e

theorem Twins.tick (hd : d.AlwaysFails) (h : Twins place d u us v vs) :
    ∃ ms ns ks, TickPulses place d u v ms ns ks ∧ v.step.queue = u.step.queue ∧
      Alike u.step.body v.step.body ∧
      ∃ before after d', u.step.daemons = before ++ after ∧ v.step.daemons = before ++ d' :: after ∧
        before.length = place ∧ d'.act = d.act ∧ d'.name = d.name := by
  obtain ⟨before, after, d', hu, hv, rfl, hact, hname⟩ := h.daemons
  have hbefore : ∀ d ∈ before, d.Blind := fun d hd => h.blind d (hu ▸ List.mem_append_left _ hd)
  have hafter : ∀ d ∈ after, d.Blind := fun d hd => h.blind d (hu ▸ List.mem_append_right _ hd)
  have hd' : d'.AlwaysFails := by
    intro tick b
    rw [hact]
    exact hd tick b
  have hopened : Alike u.opened v.opened := by
    unfold opened
    rw [h.clock]
    exact h.alike.advance _
  obtain ⟨ms, ns, ks, ht⟩ := exists_turns (u.clock + 1) hbefore hafter hd' hopened
  obtain ⟨ls, -, hqueue, hj⟩ := Queue.drain_blind (Command.blind_handle u.setup) u.queue ht.alike
  have hstepu : (u.step.queue, u.step.body) = u.queue.drain (Command.handle u.setup)
      (runDue (u.clock + 1) (before ++ after) u.opened).2.1 := by
    rw [drain_step, beforeCommands_eq, hu]
  have hstepv : (v.step.queue, v.step.body) = u.queue.drain (Command.handle u.setup)
      (runDue (u.clock + 1) (before ++ d' :: after) v.opened).2.1 := by
    rw [drain_step, beforeCommands_eq, hv, h.clock, h.queue, h.setup]
  rw [← hstepu, ← hstepv] at hqueue hj
  have hleft : Posted (ms ++ (ks ++ ls)) u.opened u.step.body := by
    rw [← List.append_assoc]
    exact ht.left.trans hj.left
  have hright : Posted (ms ++ (ns ++ (ks ++ ls))) v.opened v.step.body := by
    have := ht.right.trans hj.right
    rwa [List.append_assoc, List.append_assoc] at this
  have htick : v.opened.bus.tick = (u.clock + 1 : Nat) := by
    rw [bus_opened, h.clock]
    rfl
  have hpublished : v.opened.bus.published = v.body.bus.published := by
    rw [bus_opened]
    rfl
  refine ⟨ms, ns, ks ++ ls, ⟨?_, ?_, ?_, ?_, ?_⟩, hqueue, hj.alike, ?_⟩
  · rw [Bus.pending_of_mail hleft, bus_opened]
    rfl
  · rw [Bus.pending_of_mail hright, htick, hpublished, bus_opened]
    rfl
  · rw [Bus.published_of_mail hright, hpublished]
  · rw [publishedBy_middle hv, h.clock, ← hpublished, ← htick]
    exact ht.extra
  · intro m hm
    obtain ⟨e, rfl⟩ := ht.reports m hm
    refine ⟨e, ?_⟩
    unfold Daemon.failure
    rw [hname]
  · obtain ⟨before', after', d'', hb, hb', hlength, hact', hname'⟩ := ht.daemons
    refine ⟨before', after', d'', ?_, ?_, hlength, hact'.trans hact, hname'.trans hname⟩
    · show (runDue (u.clock + 1) u.daemons u.opened).1 = _
      rw [hu, hb]
    · show (runDue (v.clock + 1) v.daemons v.opened).1 = _
      rw [hv, h.clock, hb']

theorem Twins.step (hd : d.AlwaysFails) (h : Twins place d u us v vs) :
    Twins place d u.step (us ++ [u]) v.step (vs ++ [v]) := by
  obtain ⟨ms, ns, ks, hp, hqueue, halike, hdaemons⟩ := h.tick hd
  have hbound : ∀ p ∈ publishedBy place v,
      v.body.bus.published < p.id ∧ p.id ≤ v.step.body.bus.published := by
    intro p hpub
    rw [hp.extra] at hpub
    have := Bus.id_of_mem_stampAll hpub
    rw [hp.published, List.length_append, List.length_append]
    omega
  have hle : v.body.bus.published ≤ v.step.body.bus.published := by
    rw [hp.published]
    exact Nat.le_add_right _ _
  have hextra : (vs ++ [v]).flatMap (publishedBy place)
      = vs.flatMap (publishedBy place) ++ publishedBy place v := by
    rw [List.flatMap_append, List.flatMap_singleton]
  refine ⟨h.setup, congrArg (· + 1) h.clock, hqueue, ?_, ?_, halike, h.blind.step, hdaemons, ?_, ?_,
    ?_⟩
  · show v.commandRuns.mark (v.clock + 1) = u.commandRuns.mark (u.clock + 1)
    rw [h.commandRuns, h.clock]
  · show Snapshot.take v.step.body.topology v.step.body.bus (v.clock + 1 : Nat)
      = Snapshot.take u.step.body.topology u.step.body.bus (u.clock + 1 : Nat)
    rw [h.clock]
    exact (halike.congr (f := fun b => Snapshot.take b.topology b.bus (u.clock + 1 : Nat))
      fun _ => rfl).symm
  · rw [hextra]
    refine List.forall_mem_append.mpr ⟨h.reports, fun p hpub => ?_⟩
    rw [hp.extra] at hpub
    have hmem := List.mem_map_of_mem (f := Pulse.toMessage) hpub
    rw [Bus.toMessage_stampAll] at hmem
    exact hp.reports _ hmem
  · rw [hextra, List.flatMap_append, List.flatMap_append, List.flatMap_singleton,
      List.flatMap_singleton, opening_eq, opening_eq]
    exact (h.delivered.append h.pending).grow hle hbound
  · rw [hextra, hp.left, hp.right, hp.published, hp.extra]
    exact echo_stampAll h.pending.extra_le _ _ _ _ _

theorem Twins.still (h : Twins place d u us v vs) (hu : Still u u') (hv : Still v v')
    (hqueue : v'.queue = u'.queue) (halike : Alike u'.body v'.body) :
    Twins place d u' us v' vs := by
  have hpublished : v'.body.bus.published = v.body.bus.published := by
    show v'.body.bus.mail.published = v.body.bus.mail.published
    rw [hv.mail]
  have hrest := hu.rest
  have hrest' := hv.rest
  have hpending := hu.pending
  have hpending' := hv.pending
  generalize u'.body = b at *
  generalize v'.body = b' at *
  generalize u'.queue = q at *
  generalize v'.queue = q' at *
  subst hrest hrest'
  refine ⟨h.setup, h.clock, hqueue, h.commandRuns, h.snapshot, halike, h.blind, h.daemons,
    h.reports, ?_, ?_⟩
  · rw [hpublished]
    exact h.delivered
  · rw [hpublished, hpending, hpending']
    exact h.pending

theorem Twins.ticks (hd : d.AlwaysFails) (h : Twins place d u us v vs) (limit done : Nat) :
    Twins place d (ticks limit done u).1 (us ++ begunIn limit u) (ticks limit done v).1
      (vs ++ begunIn limit v) := by
  induction limit generalizing done u us v vs with
  | zero =>
    show Twins place d u (us ++ []) v (vs ++ [])
    rw [List.append_nil, List.append_nil]
    exact h
  | succ limit ih =>
    have hstopped : u.body.stopped = v.body.stopped :=
      h.alike.congr (f := fun b => b.stopped) fun _ => rfl
    unfold Scheduler.ticks begunIn
    rw [hstopped]
    split
    · rw [List.append_nil, List.append_nil]
      exact h
    · have := ih (h.step hd) (done + 1)
      rwa [List.append_assoc, List.append_assoc] at this

theorem Twins.apply (hd : d.AlwaysFails) (h : Twins place d u us v vs) (e : Event) :
    Twins place d (u.apply e) (us ++ u.begun e) (v.apply e) (vs ++ v.begun e) := by
  have hquiet : ∀ {u' v'}, Twins place d u' us v' vs →
      Twins place d u' (us ++ []) v' (vs ++ []) := by
    intro u' v' h'
    rwa [List.append_nil, List.append_nil]
  cases e with
  | step => exact h.step hd
  | run limit =>
    have hbegin : Twins place d u.begin us v.begin vs :=
      h.still (still_begin u) (still_begin v) h.queue
        (h.alike.congr (f := fun b => bare { b with stopped := false }) fun _ => rfl)
    have hticks := hbegin.ticks hd limit 0
    exact hticks.still (still_close _ _) (still_close _ _) hticks.queue hticks.alike
  | submit r =>
    exact hquiet (h.still (still_submit u r) (still_submit v r)
      (congrArg (fun q => (q.submit r).1) h.queue) h.alike)
  | cancel id =>
    exact hquiet (h.still (still_cancel u id) (still_cancel v id)
      (congrArg (fun q => (q.cancel id).1) h.queue) h.alike)
  | restore path =>
    exact hquiet (h.still (still_restore u path) (still_restore v path) h.queue
      (restore_alike path h.alike).alike)
  | outside files dice =>
    exact hquiet (h.still (still_outside u files dice) (still_outside v files dice) h.queue
      (h.alike.congr (f := fun b => bare { b with files, dice }) fun _ => rfl))

theorem Twins.applyAll (hd : d.AlwaysFails) (h : Twins place d u us v vs) (events : List Event) :
    Twins place d (u.applyAll events) (us ++ u.begunAll events) (v.applyAll events)
      (vs ++ v.begunAll events) := by
  induction events generalizing u us v vs with
  | nil =>
    show Twins place d u (us ++ []) v (vs ++ [])
    rw [List.append_nil, List.append_nil]
    exact h
  | cons e events ih =>
    have := ih (h.apply hd e)
    rwa [List.append_assoc, List.append_assoc] at this

/-! ## new organisms -/

/-- a daemon put into the list of a scheduler on which nothing has been published makes twins -/
theorem twins_insert {s : Scheduler} (hblind : s.Blind) (hpending : s.body.bus.pending = [])
    (hplace : place ≤ s.daemons.length) (d : Daemon) :
    Twins place d s [] (s.insert place d) [] where
  setup := rfl
  clock := rfl
  queue := rfl
  commandRuns := rfl
  snapshot := rfl
  alike := rfl
  blind := hblind
  daemons := ⟨s.daemons.take place, s.daemons.drop place, d, (List.take_append_drop _ _).symm, rfl,
    List.length_take_of_le hplace, rfl, rfl⟩
  reports := List.forall_mem_nil _
  delivered := echo_nil
  pending := by
    show Echo s.body.bus.published [] s.body.bus.pending s.body.bus.pending
    rw [hpending]
    exact echo_nil

variable {settings : Settings} {setup : Setup} {t : Topology} {senses : Senses}
  {files : FileSystem} {s : Scheduler}

/-- **A daemon that fails is isolated.**  Any operations have the same effect on a new organism and
on the same one with a daemon more, at any place and with any interval, that always fails: the healths
and the tiers last seen, all that is shared on the bus, the working memory, the tickets of the
commands, the snapshot and the counts of all other daemons agree.  But for the warnings about the
failures, the same pulses are delivered, with other numbers. -/
theorem failure_isolated (h : build settings setup t senses files = .ok s) {place : Nat}
    (hplace : place ≤ s.daemons.length) {d : Daemon} (hd : d.AlwaysFails) (events : List Event) :
    let s' := s.insert place d
    let u := s.applyAll events
    let v := s'.applyAll events
    let warnings := (s'.begunAll events).flatMap (publishedBy place)
    v.clock = u.clock ∧ v.body.topology = u.body.topology ∧
      v.body.bus.awareness = u.body.bus.awareness ∧
      v.body.bus.awarenessTier = u.body.bus.awarenessTier ∧
      v.body.bus.policy = u.body.bus.policy ∧ v.body.bus.simLevel = u.body.bus.simLevel ∧
      v.body.bus.verbosity = u.body.bus.verbosity ∧ v.body.memory = u.body.memory ∧
      v.queue = u.queue ∧ v.snapshot = u.snapshot ∧ v.commandRuns = u.commandRuns ∧
      (∃ d', v.daemons = (u.insert place d').daemons) ∧
      (∀ p ∈ warnings, ∃ e, p.toMessage = d.failure e) ∧
      (without warnings (s'.delivered events)).map Pulse.content
        = (s.delivered events).map Pulse.content := by
  intro s' u v warnings
  have hall : Twins place d u ([] ++ s.begunAll events) v ([] ++ s'.begunAll events) :=
    (twins_insert (build_blind h) (pending_build h) hplace d).applyAll hd events
  have halike : ∀ {α : Type} {f : Body → α}, (∀ b, f b.bare = f b) → f v.body = f u.body :=
    fun hf => (hall.alike.congr hf).symm
  refine ⟨hall.clock, halike (f := fun b => b.topology) fun _ => rfl,
    halike (f := fun b => b.bus.awareness) fun _ => rfl,
    halike (f := fun b => b.bus.awarenessTier) fun _ => rfl,
    halike (f := fun b => b.bus.policy) fun _ => rfl,
    halike (f := fun b => b.bus.simLevel) fun _ => rfl,
    halike (f := fun b => b.bus.verbosity) fun _ => rfl,
    halike (f := fun b => b.memory) fun _ => rfl,
    hall.queue, hall.snapshot, hall.commandRuns, ?_, hall.reports, hall.delivered.same⟩
  obtain ⟨before, after, d', hu, hv, rfl, -, -⟩ := hall.daemons
  refine ⟨d', hv.trans ?_⟩
  show _ = u.daemons.take before.length ++ d' :: u.daemons.drop before.length
  rw [hu, List.take_left, List.drop_left]

/-- two daemons of one name that both fail in every second tick, the extra one in front -/
theorem failure_isolated_status :
    let settings : Settings := { Settings.standard with
      scheduler := { Settings.standard.scheduler with
        heartbeatInterval := .whole 1, statusInterval := .whole 2 } }
    let senses : Senses := .script (fun _ _ => .error (.breakdown "no cable")) 0
    let d : Daemon :=
      { name := "status", interval := .whole 2
        act := fun tick => do
          Act.note .error .daemons "no sensor"
          throw (.breakdown s!"no sensor in tick {tick}") }
    let events : List Event :=
      [.submit { operation := .setLogs, level := some "silent" }, .submit { operation := .heal },
        .run 4, .step]
    d.AlwaysFails ∧
      ∃ s, build settings (setupOf settings) (.sample 1) senses {} = .ok s ∧ 1 ≤ s.daemons.length ∧
        let s' := s.insert 1 d
        let warnings := (s'.begunAll events).flatMap (publishedBy 1)
        warnings.length = 2 ∧ (s.delivered events).length = 7 ∧
          (without warnings (s'.delivered events)).map Pulse.content
            = (s.delivered events).map Pulse.content ∧
          (s'.applyAll events).queue = (s.applyAll events).queue ∧
          (s'.applyAll events).snapshot = (s.applyAll events).snapshot := by
  intro settings senses d events
  have hd : d.AlwaysFails := fun tick b => ⟨_, _, rfl, rfl, rfl⟩
  have hrun : (build settings (setupOf settings) (.sample 1) senses {}).toOption.map (fun s =>
      (s.daemons.length, (((s.insert 1 d).begunAll events).flatMap (publishedBy 1)).length,
        (s.delivered events).length)) = some (4, 2, 7) := by decide +kernel
  have hbuilt : (build settings (setupOf settings) (.sample 1) senses {}).isOk = true := by
    decide +kernel
  obtain ⟨s, h⟩ := ok_of_isOk hbuilt
  rw [h] at hrun
  obtain ⟨hlength, hcounts⟩ := Prod.mk.inj (Option.some.inj hrun)
  obtain ⟨hwarnings, hdelivered⟩ := Prod.mk.inj hcounts
  have hplace : 1 ≤ s.daemons.length := by omega
  obtain ⟨-, -, -, -, -, -, -, -, hqueue, hsnapshot, -, -, -, hsame⟩ :=
    failure_isolated h hplace hd events
  exact ⟨hd, s, h, hplace, hwarnings, hdelivered, hsame, hqueue, hsnapshot⟩

end Scheduler
end Organism
