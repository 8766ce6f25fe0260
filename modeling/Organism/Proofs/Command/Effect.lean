import Organism.Proofs.Command.Failure
import Organism.Proofs.Command.Frame
import Organism.Proofs.Request.Accepted

/-!
# What each command changes

The body that a request finds has all its organs, and its awareness is that of their healths.  What
the request leaves behind is then told exactly, for every operation.

* `Topology.Alters`     one health changed, and nothing else of the topology;
* `Command.Effect`      what the operation of a request did, with nothing else of the body changed;
* `refresh_whole`       the awareness of a whole topology can be calculated;
* `effect_change`, …    one operation after the other;
* `commands_confined`   **every request that is answered**, with the pulse that reports it.
-/

namespace Organism

attribute [local instance] Rounding.binary64

open Act

/-- the health of one organ made another, and nothing else of the topology -/
structure Topology.Alters (t : Topology) (k : OrganKind) (f : Number → Number) (t' : Topology) :
    Prop where
  nodes : t'.nodeList = t.nodeList
  organs : ∀ j, t'.organ? j =
    if j = k then (t.organ? j).map fun o => { o with health := f o.health } else t.organ? j

namespace Command

/-- the topology of a body, with the healths that a file names if it can be used -/
def Filled (path : FilePath) (b : Body) (t' : Topology) : Prop :=
  t' = b.topology ∨
    ∃ bytes m, b.files.read path = .ok bytes ∧ b.topology.Loaded (.bytes bytes) t' m

/-- what the operation of a request does to a body -/
structure Effect (setup : Setup) (r : Request) (b b' : Body) : Prop where
  /-- nothing but healths, files, notes and some of the bus can be another -/
  frame : b' = { b with
    topology := b'.topology
    files := b'.files
    journal := b'.journal
    bus := { b.bus with
      awareness := b'.bus.awareness
      simLevel := b'.bus.simLevel
      verbosity := b'.bus.verbosity
      pending := b'.bus.pending
      published := b'.bus.published } }
  damage : r.operation = .damage → ∃ k x, r.organ = some k ∧ r.amount = some x ∧
    b.topology.Alters k (fun h => (h - x.abs).toUnit) b'.topology
  heal : r.operation = .heal → ∃ k x, r.organ = some k ∧ r.amount = some x ∧
    b.topology.Alters k (fun h => (h + x.abs).toUnit) b'.topology
  load : r.operation = .load → Filled (statePath setup r) b b'.topology
  healths : r.operation ∉ [.damage, .heal, .load] → b'.topology = b.topology
  awareness : b'.topology.awareness = .ok b'.bus.awareness
  simLevel : b'.bus.simLevel = b.bus.simLevel ∨
    r.operation = .setSim ∧ SimLevel.ofWord? (r.level.getD "") = some b'.bus.simLevel
  verbosity : b'.bus.verbosity = b.bus.verbosity ∨
    r.operation = .setLogs ∧ Verbosity.ofWord? (r.level.getD "") = some b'.bus.verbosity
  files : r.operation ≠ .save → b'.files = b.files

end Command

/-! ## healths -/

namespace Topology

variable {t : Topology} {k : OrganKind}

theorem Alters.whole {f : Number → Number} {t' : Topology} (h : t.Alters k (fun x => (f x).toUnit) t')
    (ht : t.Whole) : t'.Whole := by
  apply whole_of_organ?
  intro j
  obtain ⟨o, ho, hu⟩ := ht.organ? j
  rw [h.organs j, ho]
  by_cases hj : j = k
  · rw [if_pos hj]
    exact ⟨_, rfl, Number.inUnit_toUnit _⟩
  · rw [if_neg hj]
    exact ⟨o, rfl, hu⟩

/-- the tiers that were observed are no part of what is altered -/
theorem Alters.observed {f : Number → Number} {t' : Topology}
    (h : t.Alters k f t') (j : OrganKind) :
    (t'.organ? j).map (·.observed) = (t.organ? j).map (·.observed) := by
  rw [h.organs j]
  split
  · rw [Option.map_map]
    rfl
  · rfl

theorem addHealth_alters (ht : t.Whole) (k : OrganKind) {d : Number} (hd : d.isFinite = true)
    (h64 : d.Is64) :
    ∃ t' c, t.addHealth k d = .ok (t', c) ∧ t.Alters k (fun h => (h + d).toUnit) t' := by
  obtain ⟨o, ho, hu⟩ := ht.organ? k
  have hadd : t.addHealth k d = t.write o (o.health + d) := by
    unfold addHealth
    rw [organ_eq ho]
    rfl
  refine ⟨_, _, hadd.trans (write_eq t o (Number.add_isFinite hu hd h64)), rfl, ?_⟩
  obtain rfl : o.kind = k := kind_of_organ? ho
  intro j
  rw [organ?_replace]
  by_cases hj : j = o.kind
  · rw [if_pos hj, if_pos hj, hj, ho]
    rfl
  · rw [if_neg hj, if_neg hj]

end Topology

namespace Command

variable {setup : Setup} {r : Request} {b c : Body}

/-! ## what stays an effect -/

theorem effect_still (setup : Setup) (ha : b.topology.awareness = .ok b.bus.awareness)
    (hr : r.operation.needsOrgan = false) : Effect setup r b b := by
  refine ⟨rfl, ?_, ?_, fun _ => .inl rfl, fun _ => rfl, ha, .inl rfl, .inl rfl, fun _ => rfl⟩
  · intro h
    rw [h] at hr
    cases hr
  · intro h
    rw [h] at hr
    cases hr

theorem effect_spared (ha : b.topology.awareness = .ok b.bus.awareness)
    (hr : r.operation.needsOrgan = false) (hs : b.Spared c)
    (hf : r.operation ≠ .save → c.files = b.files) : Effect setup r b c := by
  have h := effect_still setup ha hr
  have ht : c.topology = b.topology := by rw [hs]
  have hb : c.bus = b.bus := by rw [hs]
  refine ⟨?_, ?_, ?_, fun _ => .inl ht, fun _ => ht, ?_, .inl ?_, .inl ?_, hf⟩
  · rw [ht, hb]
    exact hs
  · intro hd
    rw [ht]
    exact h.damage hd
  · intro hd
    rw [ht]
    exact h.heal hd
  · rw [ht, hb]
    exact ha
  · rw [hb]
  · rw [hb]

theorem Effect.note (h : Effect setup r b c) (level : LogLevel) (source : LogSource)
    (text : String) : Effect setup r b (c.note level source text) := by
  refine ⟨?_, h.damage, h.heal, h.load, h.healths, h.awareness, h.simLevel, h.verbosity, h.files⟩
  rw [h.frame]
  rfl

theorem Effect.publish (h : Effect setup r b c) (m : Message) :
    Effect setup r b (c.publish m) := by
  refine ⟨?_, h.damage, h.heal, h.load, h.healths, h.awareness, h.simLevel, h.verbosity, h.files⟩
  rw [h.frame]
  rfl

/-! ## operations -/

def Unreported (setup : Setup) (r : Request) (b b' : Body) : Prop :=
  Effect setup r b b' ∧ b'.bus.pending = b.bus.pending ∧ b'.bus.published = b.bus.published

theorem refresh_whole (hw : b.topology.Whole) :
    Leads (fun c => c = b) refreshAwareness
      (fun x c => b.topology.awareness = .ok x ∧ c = { b with bus := { b.bus with awareness := x } })
      fun _ _ => False := by
  unfold refreshAwareness
  refine leads_bind (Q := fun c b' => b' = b ∧ c = b) (leads_get fun b' h => ⟨h, h⟩) fun c =>
    leads_assume ?_
  rintro rfl
  refine leads_bind (Q := fun x b' => b' = c ∧ c.topology.awareness = .ok x) ?_ fun x =>
    leads_assume fun hx => ?_
  · refine leads_ofExcept (fun x hx b' h => ⟨h, hx⟩) fun e he b' h => ?_
    obtain ⟨x, hx, -⟩ := hw.awareness
    rw [hx] at he
    cases he
  refine leads_bind (Q := fun _ b' => b' = c.setAwareness x) (leads_update ?_) fun _ => ?_
  · rintro b' rfl
    rfl
  · refine leads_pure ?_
    rintro b' rfl
    refine ⟨hx, ?_⟩
    unfold Body.setAwareness Bus.setAwareness
    rw [Number.toUnit_eq_self (hw.awareness_inUnit hx)]

theorem refresh_still (hw : b.topology.Whole) (ha : b.topology.awareness = .ok b.bus.awareness) :
    Leads (fun c => c = b) refreshAwareness (fun _ c => c = b) fun _ _ => False := by
  refine (refresh_whole hw).mono_result ?_
  rintro x c ⟨hx, rfl⟩
  rw [ha] at hx
  cases hx
  rfl

theorem effect_change (hw : b.topology.Whole) {verb : String} {k : OrganKind} {x : Number}
    {g : Number → Number} {f : Topology → OrganKind → Number → Except Fault (Topology × HealthChange)}
    (hk : r.organ = some k) (hx : r.amount = some x)
    (hf : ∃ t' c, f b.topology k x = .ok (t', c) ∧
      b.topology.Alters k (fun h => (g h).toUnit) t') :
    Leads (fun c => c = b) (change r verb f)
      (fun _ c => ∃ t' y, b.topology.Alters k (fun h => (g h).toUnit) t' ∧
        t'.awareness = .ok y ∧
        c = { b with topology := t', bus := { b.bus with awareness := y } })
      fun _ _ => False := by
  obtain ⟨t', d, hd, ht⟩ := hf
  have htarget : target r = .ok (k, x) := by
    unfold target
    rw [hk, hx]
  unfold change
  rw [htarget]
  refine leads_bind (Q := fun p c => c = b ∧ p = (k, x)) (leads_pure fun c h => ⟨h, rfl⟩)
    fun p => leads_assume ?_
  rintro rfl
  refine leads_bind (Q := fun _ c => c = { b with topology := t' }) ?_ fun d' => ?_
  · refine leads_onTopology ?_ ?_
    · rintro c rfl t1 d1 h
      rw [hd] at h
      cases h
      rfl
    · rintro c rfl e h
      rw [hd] at h
      cases h
  · refine leads_bind (refresh_whole (b := { b with topology := t' }) (ht.whole hw)) fun y => ?_
    refine leads_pure ?_
    rintro c ⟨hy, rfl⟩
    exact ⟨t', y, ht, hy, rfl⟩

theorem effect_setSim (r : Request) (b : Body) :
    Leads (fun c => c = b) (setSim r)
      (fun _ c => ∃ level journal, SimLevel.ofWord? (r.level.getD "") = some level ∧
        c = { b with bus := { b.bus with simLevel := level }, journal := journal })
      fun _ _ => True := by
  unfold setSim
  dsimp only
  split
  · exact leads_throw fun _ _ => trivial
  · next level hlevel =>
    refine leads_bind (leads_update ?_) fun _ => leads_pure fun _ h => h
    rintro c rfl
    obtain ⟨journal, h⟩ := c.setSimLevel_eq level
    exact ⟨level, journal, hlevel, h⟩

theorem effect_setLogs (r : Request) (b : Body) :
    Leads (fun c => c = b) (setLogs r)
      (fun _ c => ∃ v, Verbosity.ofWord? (r.level.getD "") = some v ∧
        c = { b with bus := { b.bus with verbosity := v } })
      fun _ _ => True := by
  unfold setLogs
  dsimp only
  split
  · exact leads_throw fun _ _ => trivial
  · next v hv =>
    refine leads_bind (leads_update ?_) fun _ => leads_pure fun _ h => h
    rintro c rfl
    exact ⟨v, hv, rfl⟩

theorem effect_save (setup : Setup) (r : Request) (b : Body) :
    Leads (fun c => c = b) (save setup r)
      (fun _ c => ∃ files journal, c = { b with files := files, journal := journal })
      fun _ _ => True := by
  unfold save saveState
  dsimp only
  refine leads_bind (Q := fun _ c => ∃ files journal, c = { b with files, journal }) ?_
    fun _ => leads_pure fun _ h => h
  refine leads_bind (Q := fun _ c => c = b) (leads_get fun _ h => h) fun d => ?_
  refine leads_bind (Q := fun _ c => ∃ files, c = { b with files }) (leads_update ?_) fun _ => ?_
  · rintro c rfl
    exact ⟨_, rfl⟩
  split
  · refine leads_update ?_
    rintro c ⟨files, rfl⟩
    exact ⟨files, _, rfl⟩
  · exact leads_throw fun _ _ => trivial
  · exact leads_throw fun _ _ => trivial

theorem effect_loadState (path : FilePath) (b : Body) :
    Leads (fun c => c = b) (loadState path)
      (fun _ c => ∃ t' journal, Filled path b t' ∧
        c = { b with topology := t', journal := journal })
      fun _ c => c = b := by
  unfold loadState
  refine leads_bind (Q := fun d c => c = b ∧ d = b) (leads_get fun c h => ⟨h, h⟩) fun d =>
    leads_assume ?_
  rintro rfl
  split
  · exact leads_throw fun _ h => h
  · refine leads_bind (Q := fun _ c => ∃ journal, c = { d with journal }) (leads_update ?_)
      fun _ => leads_pure ?_
    · rintro c rfl
      exact ⟨_, rfl⟩
    · rintro c ⟨journal, rfl⟩
      exact ⟨_, journal, .inl rfl, rfl⟩
  · exact leads_throw fun _ h => h
  · next bytes hread =>
    refine leads_bind (Q := fun m c => ∃ t', d.topology.Loaded (.bytes bytes) t' m ∧
      c = { d with topology := t' }) ?_ fun m => ?_
    · refine leads_onTopology ?_ fun _ h _ _ => h
      rintro c rfl t' m h
      cases hl : c.topology.loadBytes bytes with
      | error e =>
        rw [hl] at h
        cases h
      | ok p =>
        rw [hl] at h
        cases h
        exact ⟨_, Topology.loaded_of_loadBytes hl, rfl⟩
    · refine leads_bind (Q := fun _ c => ∃ t' journal, d.topology.Loaded (.bytes bytes) t' m ∧
        c = { d with topology := t', journal }) (leads_update ?_) fun _ => leads_pure ?_
      · rintro c ⟨t', ht, rfl⟩
        exact ⟨t', _, ht, rfl⟩
      · rintro c ⟨t', journal, ht, rfl⟩
        exact ⟨t', journal, .inr ⟨bytes, m, hread, ht⟩, rfl⟩

theorem effect_load (setup : Setup) (r : Request) (hw : b.topology.Whole) :
    Leads (fun c => c = b) (load setup r)
      (fun _ c => ∃ t' journal y, Filled (statePath setup r) b t' ∧ t'.awareness = .ok y ∧
        c = { b with
          topology := t'
          journal := journal
          bus := { b.bus with awareness := y } })
      fun _ _ => True := by
  unfold load
  dsimp only
  refine leads_bind ((effect_loadState _ b).mono_fault fun _ _ _ => trivial) fun values => ?_
  refine leads_bind (Q := fun _ c => ∃ t' journal y, Filled (statePath setup r) b t' ∧
    t'.awareness = .ok y ∧
    c = { b with topology := t', journal := journal, bus := { b.bus with awareness := y } }) ?_
    fun x => ?_
  · refine ⟨fun c hc => ?_⟩
    obtain ⟨t', journal, ht, rfl⟩ := hc
    have ht' : t'.Whole := by
      rcases ht with rfl | ⟨bytes, m, -, hl⟩
      · exact hw
      · exact hw.loaded hl
    refine ((refresh_whole (b := { b with topology := t', journal }) ht').weaken (fun _ h => h) ?_
      fun _ _ h => h.elim).after _ rfl
    rintro y c ⟨hy, rfl⟩
    exact ⟨t', journal, y, ht, hy, rfl⟩
  · split
    · exact leads_pure fun _ h => h
    · exact leads_pure fun _ h => h

/-- **Damage and recovery change the health that the request names**, and cannot fail. -/
theorem unreported_needsOrgan (hw : b.topology.Whole) (hr : r.Accepted)
    (hop : r.operation.needsOrgan = true) :
    Leads (fun c => c = b) (perform setup r) (fun _ => Unreported setup r b) fun _ _ => False := by
  obtain ⟨k, x, hk, hx, hf, h64⟩ := hr.target hop
  unfold perform
  refine leads_bind (Q := fun _ c => c = b) (leads_get fun _ h => h) fun _ => ?_
  cases ho : r.operation with
  | damage =>
    have hd := Topology.addHealth_alters hw k
      (Number.isFinite_neg (Number.isFinite_abs hf)) h64.abs.neg
    refine (effect_change (g := fun h => h - x.abs) hw hk hx hd).mono_result ?_
    rintro _ c ⟨t', y, ht, hy, rfl⟩
    exact ⟨⟨rfl, fun _ => ⟨k, x, hk, hx, ht⟩, by simp [ho], by simp [ho], by simp [ho], hy,
      .inl rfl, .inl rfl, fun _ => rfl⟩, rfl, rfl⟩
  | heal =>
    have hd := Topology.addHealth_alters hw k (Number.isFinite_abs hf) h64.abs
    refine (effect_change (g := fun h => h + x.abs) hw hk hx hd).mono_result ?_
    rintro _ c ⟨t', y, ht, hy, rfl⟩
    exact ⟨⟨rfl, by simp [ho], fun _ => ⟨k, x, hk, hx, ht⟩, by simp [ho], by simp [ho], hy,
      .inl rfl, .inl rfl, fun _ => rfl⟩, rfl, rfl⟩
  | _ =>
    rw [ho] at hop
    cases hop

theorem unreported_query (ha : b.topology.awareness = .ok b.bus.awareness)
    (hop : r.operation.needsOrgan = false) {a : Act CommandResult}
    (h : Leads (fun c => c = b) a (fun _ c => c = b) fun _ _ => True) :
    Leads (fun c => c = b) a (fun _ => Unreported setup r b) fun _ _ => True := by
  refine h.mono_result ?_
  rintro x c rfl
  exact ⟨effect_still setup ha hop, rfl, rfl⟩

/-- **What all other operations do**, unless they fail. -/
theorem unreported_other (setup : Setup) (hw : b.topology.Whole)
    (ha : b.topology.awareness = .ok b.bus.awareness) (hop : r.operation.needsOrgan = false) :
    Leads (fun c => c = b) (perform setup r) (fun _ => Unreported setup r b) fun _ _ => True := by
  have told : ∀ result : CommandResult, Leads (fun c => c = b) (pure result)
      (fun _ => Unreported setup r b) fun _ _ => True :=
    fun _ => unreported_query ha hop (leads_pure fun _ h => h)
  have refreshed := refresh_still hw ha
  unfold perform
  refine leads_bind (Q := fun d c => c = b ∧ d = b) (leads_get fun c h => ⟨h, h⟩) fun d =>
    leads_assume ?_
  rintro rfl
  cases ho : r.operation with
  | help => exact told _
  | status =>
    refine unreported_query ha hop ?_
    unfold Query.status
    refine leads_bind (refreshed.mono_fault fun _ _ _ => trivial)
      fun score => ?_
    refine leads_bind (Q := fun _ c => c = d) (leads_get fun _ h => h) fun c => ?_
    exact leads_bind (leads_ofExcept (fun _ _ _ h => h) fun _ _ _ _ => trivial)
      fun _ => leads_pure fun _ h => h
  | topology => exact told _
  | nodes => exact told _
  | organs => exact told _
  | peripherals => exact told _
  | health => exact told _
  | alerts =>
    exact unreported_query ha hop (leads_ofExcept (fun _ _ _ h => h) fun _ _ _ _ => trivial)
  | awareness =>
    refine unreported_query ha hop ?_
    exact leads_bind (refreshed.mono_fault fun _ _ _ => trivial)
      fun _ => leads_pure fun _ h => h
  | metrics => exact told _
  | capabilities => exact told _
  | memory => exact told _
  | damage =>
    rw [ho] at hop
    cases hop
  | heal =>
    rw [ho] at hop
    cases hop
  | setSim =>
    refine (effect_setSim r d).mono_result ?_
    rintro _ c ⟨level, journal, hlevel, rfl⟩
    exact ⟨⟨rfl, by simp [ho], by simp [ho], by simp [ho], fun _ => rfl, ha, .inr ⟨ho, hlevel⟩,
      .inl rfl, fun _ => rfl⟩, rfl, rfl⟩
  | setLogs =>
    refine (effect_setLogs r d).mono_result ?_
    rintro _ c ⟨v, hv, rfl⟩
    exact ⟨⟨rfl, by simp [ho], by simp [ho], by simp [ho], fun _ => rfl, ha, .inl rfl,
      .inr ⟨ho, hv⟩, fun _ => rfl⟩, rfl, rfl⟩
  | save =>
    refine (effect_save setup r d).mono_result ?_
    rintro _ c ⟨files, journal, rfl⟩
    exact ⟨⟨rfl, by simp [ho], by simp [ho], by simp [ho], fun _ => rfl, ha, .inl rfl, .inl rfl,
      by simp [ho]⟩, rfl, rfl⟩
  | load =>
    refine (effect_load setup r hw).mono_result ?_
    rintro _ c ⟨t', journal, y, ht, hy, rfl⟩
    exact ⟨⟨rfl, by simp [ho], by simp [ho], fun _ => ht, by simp [ho], hy, .inl rfl, .inl rfl,
      fun _ => rfl⟩, rfl, rfl⟩

/-! ## requests -/

def Told (setup : Setup) (r : Request) (b b' : Body) : Prop :=
  Effect setup r b b' ∧
    ∃ m : Message, m.kind = .command ∧ b'.bus.pending = b.bus.pending ++ [b.bus.stamp m]

theorem Effect.tick (h : Effect setup r b c) : c.bus.tick = b.bus.tick := by rw [h.frame]

theorem Unreported.publish (h : Unreported setup r b c) {m : Message} (hm : m.kind = .command) :
    Told setup r b (c.publish m) := by
  obtain ⟨he, hp, hn⟩ := h
  refine ⟨he.publish m, m, hm, ?_⟩
  show c.bus.pending ++ [c.bus.stamp m] = _
  unfold Bus.stamp
  rw [hp, hn, he.tick]

theorem Unreported.note (h : Unreported setup r b c) (level : LogLevel) (source : LogSource)
    (text : String) : Unreported setup r b (c.note level source text) :=
  ⟨h.1.note level source text, h.2⟩

/-- **A request that is answered has the effect of its operation, and one pulse tells of it.** -/
theorem told_handle (setup : Setup) (hw : b.topology.Whole)
    (ha : b.topology.awareness = .ok b.bus.awareness) (hr : r.Accepted) :
    Leads (fun c => c = b) (handle setup r) (fun _ => Told setup r b) fun _ _ => True := by
  cases hop : r.operation.needsOrgan with
  | true =>
    refine leads_handle (unreported_needsOrgan hw hr hop) ?_ ?_ fun _ _ _ _ => trivial
    · exact fun _ c _ _ h => h.publish rfl
    · exact fun _ _ _ _ _ _ _ _ h => h.elim
  | false =>
    have h := (unreported_other setup hw ha hop).and
      ((spares_perform (b := b) setup r).and (touches_perform setup r b))
    refine leads_handle (h.weaken (fun c hc => ⟨hc, hc, hc ▸ .refl⟩) (fun _ _ h => h.1)
      fun _ _ h => h.2) ?_ ?_ fun _ _ _ _ => trivial
    · exact fun _ c _ _ h => h.publish rfl
    · rintro e c level source note text payload he ⟨hfailed, hcourse⟩
      have hs : b.Spared c := hfailed he
      have hf : r.operation ≠ .save → c.files = b.files := fun hsave =>
        hcourse.files fun hp => hsave (Operation.parts_files hp)
      have hu : Unreported setup r b c := by
        refine ⟨effect_spared ha hop hs hf, ?_⟩
        rw [hs]
        exact ⟨rfl, rfl⟩
      exact (hu.note level source note).publish rfl

theorem Filled.observed {path : FilePath} {t' : Topology} (h : Filled path b t') (j : OrganKind) :
    (t'.organ? j).map (·.observed) = (b.topology.organ? j).map (·.observed) := by
  rcases h with rfl | ⟨bytes, m, -, hl⟩
  · rfl
  · by_cases hj : j ∈ m.map (·.1)
    · obtain ⟨e, he, rfl⟩ := List.mem_map.mp hj
      obtain ⟨o, ho, ho'⟩ := hl.written e he
      rw [ho, ho']
      rfl
    · rw [hl.others j hj]

theorem Effect.observed (h : Effect setup r b c) (j : OrganKind) :
    (c.topology.organ? j).map (·.observed) = (b.topology.organ? j).map (·.observed) := by
  by_cases hd : r.operation = .damage
  · obtain ⟨k, x, -, -, ht⟩ := h.damage hd
    exact ht.observed j
  by_cases hh : r.operation = .heal
  · obtain ⟨k, x, -, -, ht⟩ := h.heal hh
    exact ht.observed j
  by_cases hl : r.operation = .load
  · exact (h.load hl).observed j
  · rw [h.healths (by simp [hd, hh, hl])]

/-- **Each command changes what it is for, and nothing else.**  All organs are there and the
awareness is that of their healths, and an accepted request is answered.  Then damage and recovery
have changed the health of the organ that the request names by its amount, a load those that the
file names, and the awareness is again that of the healths; the levels are as they were or the ones
that the request sets; the pulse of the operation waits, and all else of the body, be it observed
tiers, policy, memory or capabilities, is as it was. -/
theorem commands_confined (hw : b.topology.Whole)
    (ha : b.topology.awareness = .ok b.bus.awareness) (hr : r.Accepted) {result : CommandResult}
    {b' : Body} (hrun : (handle setup r).run b = (.ok result, b')) :
    Effect setup r b b' ∧
      (∃ m : Message, m.kind = .command ∧ b'.bus.pending = b.bus.pending ++ [b.bus.stamp m]) ∧
      b'.bus.inbox = b.bus.inbox ∧ b'.bus.history = b.bus.history ∧
      (r.operation ∉ [.damage, .heal, .load] → b'.bus.awareness = b.bus.awareness) ∧
      (∀ k, (b'.topology.organ? k).map (·.observed) = (b.topology.organ? k).map (·.observed)) ∧
      b'.bus.awarenessTier = b.bus.awarenessTier ∧ b'.bus.policy = b.bus.policy ∧
      b'.memory = b.memory ∧ b'.registry = b.registry := by
  have h := (told_handle setup hw ha hr).after b rfl
  rw [hrun] at h
  obtain ⟨he, hm⟩ := h
  refine ⟨he, hm, ?_, ?_, ?_, he.observed, ?_, ?_, ?_, ?_⟩
  · rw [he.frame]
  · rw [he.frame]
  · intro hop
    have haw := he.awareness
    rw [he.healths hop, ha] at haw
    exact (Except.ok.inj haw).symm
  · rw [he.frame]
  · rw [he.frame]
  · rw [he.frame]
  · rw [he.frame]

/-- a quarter of the health of the cortex -/
theorem commands_confined_damage :
    let b : Body :=
      { topology := .sample 1, senses := .script (fun _ f => .ok f.nominal) 0
        dice := .scripted [] }
    let setup : Setup := ⟨.standard, .standard, .ofString "state", true⟩
    let r : Request := { operation := .damage, organ := some .cortex, amount := some (.finite (1 / 4)) }
    b.topology.Whole ∧ b.topology.awareness = .ok b.bus.awareness ∧ r.Accepted ∧
      ∃ result b', (handle setup r).run b = (.ok result, b') ∧
        (b'.topology.organ? .cortex).map (·.health) = some (.finite (3 / 4)) ∧
        b'.topology.organ? .memory = b.topology.organ? .memory := by
  intro b setup r
  have hw : b.topology.Whole := Topology.sample_whole Number.inUnit_one
  have ha : b.topology.awareness = .ok b.bus.awareness := by
    rw [Topology.awareness_eq rfl rfl rfl]
    exact congrArg Except.ok (by decide +kernel)
  have hr : r.Accepted := by
    refine ⟨⟨.text "damage", .text "Cortex", .text "+0.25", .none, .none⟩, nofun, ?_⟩
    decide +kernel
  have hok : ((handle setup r).run b).1.isOk = true := by decide +kernel
  rcases hrun : (handle setup r).run b with ⟨e | result, b'⟩
  · rw [hrun] at hok
    cases hok
  · obtain ⟨he, -⟩ := commands_confined hw ha hr hrun
    obtain ⟨k, x, hk, hx, ht⟩ := he.damage rfl
    cases hk
    cases hx
    refine ⟨hw, ha, hr, result, b', rfl, ?_, ht.organs .memory⟩
    rw [ht.organs .cortex]
    decide +kernel

end Command
end Organism
