import Organism.Daemon
import Organism.Proofs.Daemon.Blind
import Organism.Proofs.Daemon.Frame
import Organism.Proofs.Health.Blows
import Organism.Proofs.Memory.Stored
import Organism.Proofs.Random.Draws

/-!
# Ticks of the simulation

In exact arithmetic the simulation does what the dice decide and nothing else.  A fault lowers one
organ by an amount in the range of the intensity, which is written into the working memory; a
recovery raises all organs.  Either is followed by the awareness of the new healths and one pulse.
While the level is off nothing is drawn, so that such a tick may be put anywhere without a trace.

* `Duty.Struck`, `Duty.Mended`   what a fault and a recovery do;
* `run_fault`, `run_recovery`    the two events, which never fail;
* `event_happens`                **the event is the one that the dice decided**;
* `Duty.Ticked`                  what follows either of them;
* `Body.Matches`                 bodies that agree but for the level and their notes;
* `runs_match`                   **runs that differ in ticks at level off agree in the end**;
* `simulation_ticks`             all of it.
-/

namespace Organism

open Act

attribute [local instance] Rounding.exact

namespace Duty

variable {b b' : Body} {setup : Setup} {i : Intensity}

/-! ## what an event does -/

/-- the organ at a place is damaged by an amount in the range of the intensity, which is remembered
under its scope, and nothing else is -/
def Struck (setup : Setup) (i : Intensity) (place : Nat) (b b' : Body) : Prop :=
  ∃ o a, b.topology.organs[place]? = some o ∧
    i.damageMin.isAtMost (.real a) = .ok true ∧ (Value.real a).isAtMost i.damageMax = .ok true ∧
    (∀ k, b'.topology.organ? k =
      if k = o.kind then some (o.lowered a.value) else b.topology.organ? k) ∧
    ∀ scope key, b'.memory.get? scope key =
      if setup.remembers = true ∧ scope = .organ o.id ∧ key = "sim.last_fault" then some (.real a)
      else b.memory.get? scope key

/-- every organ recovers by the size of the amount of the intensity, and nothing is remembered -/
def Mended (i : Intensity) (b b' : Body) : Prop :=
  ∃ r, i.recovery.Counts r ∧ b'.memory = b.memory ∧
    ∀ k o, b.topology.organ? k = some o → b'.topology.organ? k = some (o.raised |r|)

def Happened (setup : Setup) (i : Intensity) (b b' : Body) : Dice.Decision → Prop
  | .recovery => Mended i b b'
  | .fault place _ => Struck setup i place b b'

structure Upset (b b' : Body) (dice : Dice) : Prop where
  rest : b' = { b with topology := b'.topology, memory := b'.memory, dice }
  nodes : b'.topology.nodeList = b.topology.nodeList
  whole : b'.topology.Whole

/-! ## the parts of an event -/

theorem run_roll {α : Type} {draw : Dice → Except Fault α × Dice} {x : α} {d : Dice}
    (h : draw b.dice = (.ok x, d)) : (roll draw).run b = (.ok x, { b with dice := d }) := by
  unfold roll
  refine (run_bind_ok rfl).trans ?_
  rw [h]
  rfl

theorem run_store (setup : Setup) (scope : Scope) (key : String) (v : Value) (b : Body) :
    (store setup scope key v).run b =
      (.ok (), { b with
        memory := if setup.remembers then b.memory.put scope key v else b.memory }) := by
  unfold store
  split <;> rfl

theorem get?_stored (setup : Setup) (m : Memory) (scope scope' : Scope) (key key' : String)
    (v : Value) : (if setup.remembers then m.put scope key v else m).get? scope' key' =
      if setup.remembers = true ∧ scope' = scope ∧ key' = key then some v
      else m.get? scope' key' := by
  cases setup.remembers with
  | false => simp
  | true => simp [Memory.get?_put]

theorem between_value {low high y : Number} (hl : low.isFinite = true) (hh : high.isFinite = true)
    (hle : low.value ≤ high.value) (hy : y.InUnit) :
    (low + (high - low) * y).isFinite = true ∧ low.value ≤ (low + (high - low) * y).value ∧
      (low + (high - low) * y).value ≤ high.value := by
  obtain ⟨hsf, hs⟩ := Number.value_sub hh hl
  obtain ⟨hmf, hm⟩ := Number.value_mul hsf hy.isFinite
  obtain ⟨haf, ha⟩ := Number.value_add hl hmf
  obtain ⟨s, rfl, h0, h1⟩ := hy
  have hspan : 0 ≤ high.value - low.value := sub_nonneg.mpr hle
  have hpart : (high.value - low.value) * s ≤ high.value - low.value :=
    mul_le_of_le_one_right hspan h1
  have hnonneg : 0 ≤ (high.value - low.value) * s := mul_nonneg hspan h0
  rw [ha, hm, hs]
  show _ ∧ _ ≤ low.value + (high.value - low.value) * s ∧ low.value + _ * s ≤ high.value
  exact ⟨haf, by linarith, by linarith⟩

/-- **A fault strikes the organ that was drawn.** -/
theorem run_fault (hw : b.topology.Whole) (hi : i.InRange) {place : Nat} {d₂ d₃ : Dice} {y : Number}
    (hp : b.dice.below b.topology.organs.length = (.ok place, d₂))
    (hn : place < b.topology.organs.length) (hy : d₂.unit = (.ok y, d₃)) (hu : y.InUnit) :
    ∃ b' e, (fault setup i).run b = (.ok e, b') ∧ Upset b b' d₃ ∧ Struck setup i place b b' := by
  obtain ⟨_, _, hlow, hhigh, h0, hle⟩ := hi.damage
  obtain ⟨lo, hlo, hlf, rfl⟩ := hlow.operand "+"
  obtain ⟨hi, hhi, hhf, rfl⟩ := hhigh.operand "-"
  obtain ⟨haf, ha1, ha2⟩ := between_value hlf hhf hle hu
  have hbetween : Dice.between lo hi d₂ = (.ok (lo + (hi - lo) * y), d₃) := by
    unfold Dice.between
    rw [hy]
    rfl
  generalize lo + (hi - lo) * y = a at haf ha1 ha2 hbetween
  have ho : b.topology.organs[place]? = some b.topology.organs[place] :=
    List.getElem?_eq_getElem hn
  obtain ⟨k, hk⟩ := Topology.mem_organs.mp (List.getElem_mem hn)
  generalize b.topology.organs[place] = o at ho hk
  obtain rfl : o.kind = k := Topology.kind_of_organ? hk
  obtain ⟨c, hc⟩ := Topology.damage_lowers hk (hw.inUnit _ _ hk) haf
  rw [abs_of_nonneg (h0.trans ha1)] at hc
  have hrun : (fault setup i).run b = (.ok
      { text := s!"fault on {o.kind.label}: -{a.fixed 3} (health {c.health.fixed 2})"
        payload := [("organ", .text o.kind.label), ("amount", .real a)] },
      { b with
        topology := b.topology.replace (o.lowered a.value)
        memory :=
          if setup.remembers then b.memory.put (.organ o.id) "sim.last_fault" (.real a)
          else b.memory
        dice := d₃ }) := by
    unfold fault
    refine (run_bind_ok rfl).trans ((run_bind_ok (run_roll hp)).trans ?_)
    rw [ho]
    refine (run_bind_ok ((run_ofExcept _ _).trans (by rw [hlo]))).trans ?_
    refine (run_bind_ok ((run_ofExcept _ _).trans (by rw [hhi]))).trans ?_
    refine (run_bind_ok (run_roll hbetween)).trans ?_
    refine (run_bind_ok (run_onTopology_ok hc)).trans ?_
    exact (run_bind_ok (run_store ..)).trans rfl
  refine ⟨_, _, hrun, ⟨rfl, rfl, hw.written (Topology.damage_written hc)⟩, o, a, ho,
    hlow.isAtMost haf ha1, hhigh.atMost_is haf ha2, fun k => ?_, fun scope key => ?_⟩
  · show (b.topology.replace _).organ? k = _
    rw [Topology.organ?_replace]
    show (if k = o.kind then _ else _) = _
    split
    · next h =>
      rw [h, hk]
      rfl
    · rfl
  · exact get?_stored ..

/-- **A recovery mends all organs.** -/
theorem run_recovery (hw : b.topology.Whole) {r : Rat} (hr : i.recovery.Counts r) :
    ∃ b' e, (recovery i).run b = (.ok e, b') ∧ Upset b b' b.dice ∧ Mended i b b' := by
  have hkinds : (b.topology.organs.map (·.kind)).Nodup := by
    have h := b.topology.healths_keys_nodup
    rwa [Topology.healths, List.map_map] at h
  obtain ⟨t', cs, ht, hn, ho⟩ := Topology.recoverBy_raises hw hr hkinds
  obtain ⟨text, htext⟩ := hr.fixed 3
  have hrun : (recovery i).run b = (.ok
      { text := s!"recovery +{text} on all organs", payload := [("amount", i.recovery)] },
      { b with topology := t' }) := by
    unfold recovery
    refine (run_bind_ok rfl).trans ?_
    rw [ht]
    refine (run_bind_ok rfl).trans ((run_bind_ok (run_ofExcept (.ok cs) _)).trans ?_)
    exact (run_bind_ok ((run_ofExcept _ _).trans (by rw [htext]))).trans rfl
  have hwhole : t'.Whole := by
    have h : (b.topology.recoverBy i.recovery (b.topology.organs.map (·.kind))).1.Whole :=
      Topology.recoverBy_preserves (P := Topology.Whole) (fun _ _ hw h => h.written hw) hw
    rwa [ht] at h
  refine ⟨_, _, hrun, ⟨rfl, hn, hwhole⟩, r, hr, rfl, fun k o hk => ?_⟩
  have hmem : k ∈ b.topology.organs.map (·.kind) :=
    List.mem_map.mpr ⟨o, Topology.mem_organs.mpr ⟨k, hk⟩, Topology.kind_of_organ? hk⟩
  show t'.organ? k = _
  rw [ho k o hk, if_pos hmem]

/-- **The event is the one that the dice decided.** -/
theorem event_happens (setup : Setup) (hw : b.topology.Whole) (hi : i.InRange) {r : Rat}
    (hr : i.recovery.Counts r) {p : Quantity} (hp : i.faultProbability.quantity? = some p)
    {w : Dice.Decision} {dice : Dice}
    (hd : b.dice.Decides b.topology.organs.length p.exact w dice) :
    ∃ b' e, (event setup i).run b = (.ok e, b') ∧ Upset b b' dice ∧ Happened setup i b b' w := by
  have hrun {x : Number} {d : Dice} (hx : b.dice.unit = (.ok x, d)) : (event setup i).run b =
      (if x < p.exact then fault setup i else recovery i).run { b with dice := d } := by
    unfold event
    refine (run_bind_ok (run_roll hx)).trans (run_bind_ok ((run_ofExcept _ _).trans ?_))
    unfold Value.compared
    rw [hp]
  cases hd with
  | recovery hx hc =>
    rw [hrun hx, if_neg hc]
    obtain ⟨b', e, he, hupset, h⟩ := run_recovery (b := { b with dice }) hw hr
    exact ⟨b', e, he, ⟨hupset.rest, hupset.nodes, hupset.whole⟩, h⟩
  | @fault d₁ _ _ _ _ _ hx hc hplace hn hy hu =>
    rw [hrun hx, if_pos hc]
    obtain ⟨b', e, he, hupset, h⟩ := run_fault (b := { b with dice := d₁ }) hw hi hplace hn hy hu
    exact ⟨b', e, he, ⟨hupset.rest, hupset.nodes, hupset.whole⟩, h⟩

/-! ## ticks -/

/-- what every tick with an event leaves behind: the awareness of the new healths, and one pulse -/
structure Ticked (b b' : Body) (dice : Dice) : Prop where
  rest : b' = { b with topology := b'.topology, memory := b'.memory, bus := b'.bus, dice }
  nodes : b'.topology.nodeList = b.topology.nodeList
  bus : ∃ x m, b'.topology.awareness = .ok x ∧ m.kind = .simulation ∧
    b'.bus = Bus.publish { b.bus with awareness := x } m

/-- **A tick is an event, the awareness after it and one pulse.** -/
theorem tick_happens (hw : b.topology.Whole)
    (hi : setup.simulation.intensity? b.bus.simLevel = some i) (hrange : i.InRange) {r : Rat}
    (hr : i.recovery.Counts r) {p : Quantity} (hp : i.faultProbability.quantity? = some p)
    {w : Dice.Decision} {dice : Dice}
    (hd : b.dice.Decides b.topology.organs.length p.exact w dice) :
    ∃ b', (simulation setup).run b = (.ok (), b') ∧ Ticked b b' dice ∧ Happened setup i b b' w := by
  obtain ⟨b₁, e, he, hupset, h⟩ := event_happens setup hw hrange hr hp hd
  obtain ⟨x, hx, hu⟩ := hupset.whole.awareness
  have hbus : b₁.bus = b.bus := by rw [hupset.rest]
  have hrefresh : refreshAwareness.run b₁ = (.ok x, b₁.setAwareness x) := by
    unfold refreshAwareness
    refine (run_bind_ok rfl).trans ?_
    rw [hx]
    rfl
  obtain ⟨m, hm, hrun⟩ : ∃ m : Message, m.kind = .simulation ∧ (simulation setup).run b =
      (.ok (), { b₁ with bus := Bus.publish { b.bus with awareness := x } m }) := by
    refine ⟨{ kind := .simulation, source := "simulation", text := e.text
              payload := ("level", .text b.bus.simLevel.label) :: e.payload }, rfl, ?_⟩
    unfold simulation
    refine (run_bind_ok rfl).trans ?_
    rw [hi]
    refine (run_bind_ok he).trans ((run_bind_ok hrefresh).trans ?_)
    rw [Body.setAwareness, Bus.setAwareness, Number.toUnit_eq_self hu, hbus]
    rfl
  refine ⟨_, hrun, ⟨?_, hupset.nodes, x, m, hx, hm, rfl⟩, ?_⟩
  · rw [hupset.rest]
  · cases w with
    | recovery => exact h
    | fault place share => exact h

end Duty

/-! ## ticks without effect -/

namespace Body

def covered (b : Body) : Body :=
  { b with bus := { b.bus with simLevel := .off }, journal := [], seen := [], console := [] }

/-- the bodies agree but for the level of the simulation and their notes -/
def Matches (b c : Body) : Prop := b.covered = c.covered

variable {b c b' c' : Body}

theorem matches_setSimLevel (b : Body) (level : SimLevel) : Matches (b.setSimLevel level) b := by
  obtain ⟨journal, h⟩ := b.setSimLevel_eq level
  rw [h]
  rfl

theorem Matches.mail (h : Matches b c) : b.bus.mail = c.bus.mail := by
  have hm : b.covered.bus.mail = c.covered.bus.mail := by rw [show b.covered = c.covered from h]
  exact hm

theorem Matches.alike (h : Matches b c) (hl : b.bus.simLevel = c.bus.simLevel) : Alike b c := by
  have hbare (b : Body) : b.bare =
      { b.covered with bus := { b.covered.bus.bare with simLevel := b.bus.simLevel } } := rfl
  unfold Alike
  rw [hbare b, hbare c, hl]
  unfold Matches at h
  rw [h]

theorem matches_of_alike (h : Alike b c) (hm : b.bus.mail = c.bus.mail) : Matches b c := by
  have hcovered (b : Body) : b.covered =
      { b.bare with
        bus :=
          { b.bare.bus with
            simLevel := .off, published := b.bus.mail.published, pending := b.bus.mail.pending
            inbox := b.bus.mail.inbox, history := b.bus.mail.history } } := rfl
  unfold Alike at h
  unfold Matches
  rw [hcovered b, hcovered c, h, hm]

end Body

namespace Duty

open Body

variable {b c : Body} {setup : Setup}

/-- something that happens in a run: a tick of the simulation at a level, or a change that takes no
notice of the level -/
inductive Step where
  | tick (level : SimLevel)
  | change (f : Body → Body) (hf : ∀ b c, Matches b c → Matches (f b) (f c))

def Step.apply (setup : Setup) : Step → Body → Body
  | tick level, b => ((simulation setup).run (b.setSimLevel level)).2
  | change f _, b => f b

def Step.isIdle : Step → Bool
  | tick .off => true
  | _ => false

def runSteps (setup : Setup) (xs : List Step) (b : Body) : Body :=
  xs.foldl (fun b x => x.apply setup b) b

theorem Step.matches_of_isIdle {x : Step} (hx : x.isIdle = true) (b : Body) :
    Matches (x.apply setup b) b := by
  cases x with
  | change f hf => cases hx
  | tick level =>
    cases level with
    | off =>
      have hoff : (b.setSimLevel .off).bus.simLevel = .off := by
        obtain ⟨journal, h⟩ := b.setSimLevel_eq .off
        rw [h]
      show Matches ((simulation setup).run (b.setSimLevel .off)).2 b
      rw [run_simulation_off hoff]
      exact matches_setSimLevel b .off
    | low => cases hx
    | high => cases hx

theorem Step.matches_apply (x : Step) (h : Matches b c) :
    Matches (x.apply setup b) (x.apply setup c) := by
  cases x with
  | change f hf => exact hf b c h
  | tick level =>
    have hset : Matches (b.setSimLevel level) (c.setSimLevel level) :=
      ((matches_setSimLevel b level).trans h).trans (matches_setSimLevel c level).symm
    have hlevel : (b.setSimLevel level).bus.simLevel = (c.setSimLevel level).bus.simLevel := by
      obtain ⟨_, hb⟩ := b.setSimLevel_eq level
      obtain ⟨_, hc⟩ := c.setSimLevel_eq level
      rw [hb, hc]
    obtain ⟨ms, -, -, hj⟩ := (says_simulation setup).joined _ _ (hset.alike hlevel)
    refine matches_of_alike hj.alike ?_
    show ((simulation setup).run (b.setSimLevel level)).2.bus.mail =
      ((simulation setup).run (c.setSimLevel level)).2.bus.mail
    rw [hj.left, hj.right, Bus.mail_post, Bus.mail_post, hset.mail]

/-- **A run agrees with the one without its ticks at level off.** -/
theorem runs_match (setup : Setup) (xs : List Step) (h : Matches b c) :
    Matches (runSteps setup xs b) (runSteps setup (xs.filter (!·.isIdle)) c) := by
  induction xs generalizing b c with
  | nil => exact h
  | cons x xs ih =>
    by_cases hx : x.isIdle = true
    · rw [List.filter_cons_of_neg (by simp [hx])]
      exact ih ((x.matches_of_isIdle hx b).trans h)
    · rw [List.filter_cons_of_pos (by simp [hx])]
      exact ih (x.matches_apply h)

/-! ## all of it -/

/-- settings that passed their check, and of which each intensity recovers by a number -/
def Gradual (s : SimulationSettings) : Prop :=
  ∀ level i, s.intensity? level = some i →
    Settings.checkIntensity level i = .ok () ∧ ∃ r, i.recovery.Counts r

/-- **Ticks of the simulation.**  At level off a tick does nothing at all.  At any other level it
ends well and does what the dice decided, which fair dice always do: one organ is damaged within the
bounds and the damage remembered, or all organs recover.  The awareness is then that of the new
healths, and one pulse was published.  Runs that differ only in ticks at level off agree in the end
in everything but that level and the notes on it. -/
theorem simulation_ticks (hs : Gradual setup.simulation) :
    (∀ b : Body, b.bus.simLevel = .off → (simulation setup).run b = (.ok (), b)) ∧
    (∀ (b : Body) i p, b.topology.Whole →
      setup.simulation.intensity? b.bus.simLevel = some i →
      i.faultProbability.quantity? = some p →
      (b.dice.Fair → ∃ w dice, b.dice.Decides b.topology.organs.length p.exact w dice) ∧
      ∀ w dice, b.dice.Decides b.topology.organs.length p.exact w dice →
        ∃ b', (simulation setup).run b = (.ok (), b') ∧ Ticked b b' dice ∧
          Happened setup i b b' w) ∧
    ∀ xs ys b, xs.filter (!·.isIdle) = ys.filter (!·.isIdle) →
      Matches (runSteps setup xs b) (runSteps setup ys b) := by
  refine ⟨fun b hb => run_simulation_off hb, fun b i p hw hi hp => ⟨?_, ?_⟩, ?_⟩
  · intro hfair
    refine hfair.decides (List.length_pos_iff_exists_mem.mpr ?_) p.exact
    obtain ⟨o, ho, -⟩ := hw.organ? .cortex
    exact ⟨o, Topology.mem_organs.mpr ⟨_, ho⟩⟩
  · intro w dice hd
    obtain ⟨hc, r, hr⟩ := hs _ _ hi
    exact tick_happens hw hi (Settings.checkIntensity_iff.mp hc) hr hp hd
  · intro xs ys b h
    have hxs := runs_match setup xs (rfl : Matches b b)
    rw [h] at hxs
    exact hxs.trans (runs_match setup ys rfl).symm

/-- a fault at the second organ of the default organism, and the same fault with a tick at level off
before it -/
theorem simulation_ticks_high :
    let setup : Setup :=
      { limits := .standard, simulation := .standard, statePath := .ofString "state" }
    let b : Body :=
      { topology := .sample 1, bus := { simLevel := .high }
        senses := .script (fun _ f => .ok f.nominal) 0
        dice := .scripted [.finite (1 / 2), .finite 4, .finite (1 / 2)] }
    Gradual setup.simulation ∧ b.topology.Whole ∧
      b.dice.Decides b.topology.organs.length (.finite (3 / 5)) (.fault 1 (.finite (1 / 2)))
        (.scripted []) ∧
      (∃ b', (simulation setup).run b = (.ok (), b') ∧ Ticked b b' (.scripted []) ∧
        Struck setup .high 1 b b') ∧
      Matches (runSteps setup [.tick .off, .tick .high] b) (runSteps setup [.tick .high] b) := by
  intro setup b
  have hs : Gradual setup.simulation := by
    intro level i hi
    cases level with
    | off => cases hi
    | low =>
      cases hi
      exact ⟨(ok_of_isOk (by decide +kernel)).choose_spec, _, _, rfl, rfl, rfl⟩
    | high =>
      cases hi
      exact ⟨(ok_of_isOk (by decide +kernel)).choose_spec, _, _, rfl, rfl, rfl⟩
  have hw : b.topology.Whole := Topology.sample_whole Number.inUnit_one
  have hplace : Dice.below 3 (.scripted [.finite 4, .finite (1 / 2)]) =
      (.ok 1, .scripted [.finite (1 / 2)]) :=
    congrArg (fun n : Nat => (Except.ok n, Dice.scripted [.finite (1 / 2)]))
      (by decide +kernel : Number.remainder (.finite 4) 3 = 1)
  have hd : b.dice.Decides b.topology.organs.length (.finite (3 / 5))
      (.fault 1 (.finite (1 / 2))) (.scripted []) :=
    .fault rfl (by decide +kernel) hplace (by decide +kernel) rfl
      ⟨1 / 2, rfl, by norm_num, by norm_num⟩
  obtain ⟨-, htick, hruns⟩ := simulation_ticks hs
  have hp : Intensity.high.faultProbability.quantity? = some (.real (.finite (3 / 5))) := by
    decide +kernel
  exact ⟨hs, hw, hd, (htick b .high _ hw rfl hp).2 _ _ hd, hruns _ _ b rfl⟩

end Duty
end Organism
