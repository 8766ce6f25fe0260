import Organism.Proofs.Daemon.Pace
import Organism.Proofs.Sense.Gentle

/-!
# Status on simulated readings that are mild

A run of the status daemon takes one reading of each family and applies it.  If the readings come
from a gentle simulation, none of them has a penalty, so that no health sinks, however far the run
gets.

* `Body.Lulled`            healths that have not sunk, and senses that are a gentle simulation;
* `leads_lulled`           a simulated reading is always had, and mild;
* `keeps_applied`          a reading without penalties lowers no health;
* `leads_status_lulled`    **a run of the status daemon lowers no health**;
* `Simulated.never_adverse`   **readings at low levels are never adverse**, in any order and with any
                           noise up to a quarter.
-/

namespace Organism

attribute [local instance] Rounding.exact

open Act Body

/-- no health is lower than in the topology, and the senses are a gentle simulation -/
structure Body.Lulled (t : Topology) (b : Body) : Prop where
  risen : t.Risen b.topology
  gentle : ∃ s, b.senses = .simulated s ∧ s.Gentle

namespace Duty

variable {t : Topology} {setup : Setup}

theorem leads_simulated (f : Family) : Leads (Lulled t) (sense f)
    (fun r b => b.Lulled t ∧ r.Mild ∧ r.organ = f.organ) fun _ _ => False := by
  refine ⟨fun b hb => ?_⟩
  obtain ⟨s, hs, hgentle⟩ := hb.gentle
  obtain ⟨hmild, hnext⟩ := hgentle.read f
  have hrun : (sense f).run b =
      (.ok (s.read f).1, { b with senses := .simulated (s.read f).2 }) := by
    have hread : b.senses.read f = (.ok (s.read f).1, .simulated (s.read f).2) := by
      rw [hs]
      rfl
    unfold sense
    rw [run_bind_ok (rfl : (get : Act Body).run b = (.ok b, b)), hread]
    rfl
  rw [hrun]
  exact ⟨⟨hb.risen, _, rfl, hnext⟩, hmild, s.read_organ f⟩

theorem leads_lulled (k : OrganKind) (f : Family) : Leads (Lulled t) (attempt k (sense f))
    (fun o b => b.Lulled t ∧ ∃ r, o = some r ∧ r.Mild ∧ r.organ = f.organ) fun _ _ => False := by
  refine leads_tryCatch (F := fun _ _ => False) (leads_map ?_) fun e => ⟨fun b hb => hb.elim⟩
  exact (leads_simulated f).mono_result fun r _ h => ⟨h.1, r, rfl, h.2⟩

/-- **A reading without penalties lowers no health**, whether it is applied or fails. -/
theorem keeps_applied (hl : setup.limits.Recovering) {k : OrganKind} {r : Reading}
    (hr : r.penalties setup.limits k = .ok []) :
    Keeps (Meets fun t' _ => t.Risen t') (apply setup k (some r)) := by
  unfold apply
  refine keeps_get.bind fun b => ?_
  refine Keeps.ite ?_ (keeps_pure _)
  have hfeel : Keeps (Meets fun t' _ => t.Risen t') (feel setup k r) := by
    unfold feel
    refine Keeps.bind (leads_onTopology ?_ fun _ hb _ _ => hb) fun c => keeps_update fun _ h => h
    intro b hb t' c hf
    exact hb.feel hl hr hf
  exact Keeps.bind (leads_attempted k hfeel) fun felt => keeps_pure _

/-- **A run of the status daemon on a gentle simulation lowers no health**, however far it gets. -/
theorem leads_status_lulled (hl : setup.limits.Recovering) (tick : Nat) :
    Leads (fun b => t.Risen b.topology ∧ (∃ s, b.senses = .simulated s ∧ s.Quiet) ∧
        b.bus.simLevel ≠ .high)
      (status setup tick) (fun _ => Meets fun t' _ => t.Risen t')
      fun _ => Meets fun t' _ => t.Risen t' := by
  have hsensed : ∀ k f, Leads (Lulled t) (attempt k (sense f))
      (fun o b => b.Lulled t ∧ ∃ r, o = some r ∧ r.Mild ∧ r.organ = f.organ)
      fun _ => Meets fun t' _ => t.Risen t' := by
    intro k f
    exact (leads_lulled k f).mono_fault fun _ _ h => h.elim
  have hpenalties : ∀ {r : Reading} {k : OrganKind}, r.Mild → r.organ = k →
      r.penalties setup.limits k = .ok [] := by
    intro r k hr hk
    rw [← hk]
    exact hr.penalties setup.limits
  unfold status
  refine leads_bind (Q := fun _ => Lulled t) (leads_update ?_) fun _ => ?_
  · rintro b ⟨hrisen, ⟨s, hs, hquiet⟩, hlevel⟩
    refine ⟨hrisen, { s with level := b.bus.simLevel }, ?_, hquiet.setLevel _, hlevel⟩
    show b.senses.setLevel _ = _
    rw [hs]
    rfl
  refine leads_bind (hsensed _ .cpu) fun cpu => leads_assume ?_
  rintro ⟨cpu, rfl, hcpu, hcpuOrgan⟩
  refine leads_bind (hsensed _ .memory) fun memory => leads_assume ?_
  rintro ⟨memory, rfl, hmemory, hmemoryOrgan⟩
  refine leads_bind (hsensed _ .io) fun io => leads_assume ?_
  rintro ⟨io, rfl, hio, hioOrgan⟩
  refine Leads.mono_start (P := Meets fun t' _ => t.Risen t') ?_ fun b hb => hb.risen
  refine (keeps_applied hl (hpenalties hcpu hcpuOrgan)).bind fun cpu => ?_
  refine (keeps_applied hl (hpenalties hmemory hmemoryOrgan)).bind fun memory => ?_
  refine (keeps_applied hl (hpenalties hio hioOrgan)).bind fun io => ?_
  refine (meets_remember _ _ _ _).bind fun _ => ?_
  refine meets_refresh.bind fun awareness => ?_
  have hevaluate : Keeps (Meets fun t' _ => t.Risen t') evaluate :=
    ⟨fun b (hb : t.Risen b.topology) => hb.evaluate⟩
  refine hevaluate.bind fun alerts => ?_
  refine (meets_forM_publish alerts).bind fun _ => ?_
  exact keeps_get.bind fun _ => keeps_update fun _ h => h

end Duty

/-- **Simulated readings at low levels are never adverse.**  Whatever families are read in whatever
order, and however the level is switched among those that are not high, noise up to a quarter leaves
every reading without penalties for its organ under any limits; and a run of the status daemon on
the simulation, at any time, lowers no health. -/
theorem Simulated.never_adverse {s : Simulated} (hs : s.Gentle) {us : List Use}
    (hus : .switch .high ∉ us) :
    (∀ g ∈ (s.useAll us).1, ∀ l : Limits, g.reading.penalties l g.family.organ = .ok []) ∧
    ∀ (setup : Setup) (tick : Nat) (b : Body), setup.limits.Recovering →
      b.senses = .simulated (s.useAll us).2 → b.bus.simLevel ≠ .high →
      b.topology.Each Number.InUnit →
        ∀ k o, b.topology.organ? k = some o →
          ∃ o', ((Duty.status setup tick).run b).2.topology.organ? k = some o' ∧
            o.health ≤ o'.health := by
  obtain ⟨hmild, hgentle⟩ := hs.useAll hus
  constructor
  · intro g hg l
    obtain ⟨hg, horgan⟩ := hmild g hg
    rw [← horgan]
    exact hg.penalties l
  · intro setup tick b hl hb hlevel hunit
    have hstart : b.topology.Risen b.topology := Topology.risen_refl hunit
    have hrun := (Duty.leads_status_lulled hl tick).body (b := b)
      ⟨hstart, ⟨_, hb, hgentle.quiet⟩, hlevel⟩
    exact hrun.rises

/-- a memory at the end of a phase, under the greatest noise, with the simulation off before -/
theorem Simulated.never_adverse_last :
    let s : Simulated := { level := .low, jitter := 1, step := 56, deviate := fun _ => .finite 0.25 }
    let us : List Use := [.read .cpu, .switch .off, .read .io, .switch .low, .read .memory]
    let setup : Setup :=
      { limits := .standard, simulation := .standard, statePath := .ofString "state.txt" }
    let b : Body :=
      { topology :=
          { nodeList := [{ id := 1, label := "core-0", organIds := [1] }]
            organList := [Organ.create 1 .memory 1 [] (.finite 0.5)] }
        senses := .simulated (s.useAll us).2, dice := .scripted [] }
    (s.useAll us).1.map (·.family) = [.cpu, .io, .memory] ∧
    (∀ g ∈ (s.useAll us).1, g.reading.penalties .standard g.family.organ = .ok []) ∧
    ∃ o', ((Duty.status setup 1).run b).2.topology.organ? .memory = some o' ∧
      .finite 0.5 ≤ o'.health := by
  intro s us setup b
  have hquiet : s.Quiet := by
    intro n
    rw [noise_fst]
    exact (by decide +kernel :
      (if (1 : Number) ≤ 0 then 0 else 0 + 1 * Number.finite 0.25 : Number).abs ≤ 0.25)
  have hs : s.Gentle := ⟨hquiet, nofun⟩
  have hus : .switch .high ∉ us := by simp [us]
  have hl : setup.limits.Recovering := Settings.recovering_of_checkHealth (by
    obtain ⟨⟨⟩, h⟩ := ok_of_isOk (by decide +kernel : (Settings.checkHealth .standard).isOk = true)
    exact h)
  have hunit : b.topology.Each Number.InUnit := by
    intro k o ho
    obtain rfl : o = Organ.create 1 .memory 1 [] (.finite 0.5) :=
      List.mem_singleton.mp (Topology.mem_of_organ? ho)
    exact ⟨0.5, rfl, by norm_num, by norm_num⟩
  obtain ⟨hreadings, hstatus⟩ := Simulated.never_adverse hs hus
  refine ⟨rfl, fun g hg => hreadings g hg .standard, ?_⟩
  exact hstatus setup 1 b hl rfl nofun hunit .memory _ rfl

end Organism
