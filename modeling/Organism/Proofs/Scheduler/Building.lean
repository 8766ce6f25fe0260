import Organism.Proofs.Settings.Ranges
import Organism.Shell.Launch

/-!
# From accepted settings to an organism

The check of settings does not look at three of them: the provider of readings, the length of the
history of pulses and the seed.  An organism can be put together from settings that were accepted as
soon as these three are what they ought to be.

* `Value.NamesProvider`      a text that names a provider;
* `Value.IsLength`           a length that a history may have;
* `Seed.IsPart`              what a seed may be made of: flags, whole numbers that are not negative,
                             lists of parts;
* `exists_ofValue_of_isSeed`, `ofValue_ok`   seeds have words, and what has words looks like a seed;
* `exists_standardDaemons`   periods in range make daemons;
* `accepted_built`           **when accepted settings make an organism**.
-/

namespace Organism

/-! ## provider and history -/

def Value.NamesProvider (v : Value) : Prop :=
  ∃ word, v = .text word ∧ Text.toLower (Text.trim word) ∈ ["sim", "real"]

theorem Provider.exists_ofWord_iff {word : String} :
    (∃ p, Provider.ofWord word = .ok p) ↔ Text.toLower (Text.trim word) ∈ ["sim", "real"] := by
  unfold Provider.ofWord
  dsimp only
  generalize Text.toLower (Text.trim word) = key
  constructor
  · rintro ⟨p, h⟩
    split at h
    · next q hq =>
      rw [← Named.label_of_find? hq]
      cases q <;> decide
    · cases h
  · intro h
    simp only [List.mem_cons, List.not_mem_nil, or_false] at h
    rcases h with rfl | rfl
    · exact ⟨.simulation, rfl⟩
    · exact ⟨.host, rfl⟩

/-- a length that a history may have: none for one without an end, or a flag or whole number -/
def Value.IsLength (v : Value) : Prop :=
  v = .none ∨ (∃ b, v = .flag b) ∨ ∃ n : Nat, v = .whole n ∧ n < 9223372036854775808

theorem exists_capacity_iff {v : Value} : (∃ c, capacity v = .ok c) ↔ v.IsLength := by
  unfold capacity Value.IsLength
  constructor
  · rintro ⟨c, h⟩
    split at h
    · exact .inl rfl
    · next b => exact .inr (.inl ⟨b, rfl⟩)
    · next n =>
      split at h
      · cases h
      · next hneg =>
        split at h
        · cases h
        · next hlarge => exact .inr (.inr ⟨n.toNat, by congr 1; omega, by omega⟩)
    · cases h
  · rintro (rfl | ⟨b, rfl⟩ | ⟨n, rfl, hn⟩)
    · exact ⟨_, rfl⟩
    · exact ⟨_, rfl⟩
    · dsimp only
      rw [if_neg (by omega), if_neg (by omega)]
      exact ⟨_, rfl⟩

/-! ## seeds -/

namespace Seed

inductive IsPart : Value → Prop
  | flag (b : Bool) : IsPart (.flag b)
  | whole (n : Nat) : IsPart (.whole n)
  | list {vs : List Value} : (∀ v ∈ vs, IsPart v) → IsPart (.list vs)

def IsSeed (v : Value) : Prop := v = .none ∨ IsPart v

theorem exists_ofParts {vs : List Value} (h : ∀ v ∈ vs, ∃ ws, ofPart v = .ok ws) :
    ∃ ws, ofParts vs = .ok ws := by
  induction vs with
  | nil => exact ⟨[], by unfold ofParts; rfl⟩
  | cons v vs ih =>
    obtain ⟨hv, hvs⟩ := List.forall_mem_cons.mp h
    obtain ⟨ws, hws⟩ := hv
    obtain ⟨rest, hrest⟩ := ih hvs
    unfold ofParts
    rw [hws, hrest]
    exact ⟨ws ++ rest, rfl⟩

theorem IsPart.exists_ofPart {v : Value} (h : IsPart v) : ∃ ws, ofPart v = .ok ws := by
  induction h with
  | flag b => exact ⟨_, by unfold ofPart; rfl⟩
  | whole n =>
    unfold ofPart ofInt
    rw [if_neg (by omega)]
    exact ⟨_, rfl⟩
  | list _ ih =>
    unfold ofPart
    exact exists_ofParts ih

theorem exists_ofValue_of_isSeed {v : Value} (h : IsSeed v) : ∃ ws, ofValue v = .ok ws := by
  rcases h with rfl | h
  · exact ⟨[0], rfl⟩
  · cases h with
    | flag b => exact (IsPart.flag b).exists_ofPart
    | whole n => exact (IsPart.whole n).exists_ofPart
    | list h => exact (IsPart.list h).exists_ofPart

theorem ofValue_ok {v : Value} {ws : List UInt32} (h : ofValue v = .ok ws) :
    v = .none ∨ (∃ b, v = .flag b) ∨ (∃ n : Nat, v = .whole n) ∨ ∃ vs, v = .list vs := by
  cases v with
  | none => exact .inl rfl
  | flag b => exact .inr (.inl ⟨b, rfl⟩)
  | whole n =>
    change ofPart _ = _ at h
    unfold ofPart ofInt at h
    split at h
    · cases h
    · next hn => exact .inr (.inr (.inl ⟨n.toNat, by congr 1; omega⟩))
  | list vs => exact .inr (.inr (.inr ⟨vs, rfl⟩))
  | _ =>
    change ofPart _ = _ at h
    unfold ofPart at h
    cases h

end Seed

/-! ## daemons -/

theorem Value.NotBelow.exists_create {v : Value} (h : v.NotBelow 1) (name : String)
    (act : Nat → Act Unit) : ∃ d, Daemon.create name v act = .ok d := by
  obtain ⟨q, hq, hbelow⟩ := h
  have hlt : ¬ q.exact < 1 := (Number.not_lt_iff q.exact 1).mpr (by exact_mod_cast hbelow)
  unfold Daemon.create
  rw [hq]
  dsimp only
  rw [if_neg hlt]
  exact ⟨_, rfl⟩

attribute [local instance] Rounding.binary64

theorem exists_standardDaemons {s : SchedulerSettings} (h : s.InRange) (setup : Setup) :
    ∃ ds, standardDaemons setup s = .ok ds := by
  obtain ⟨status, hstatus⟩ := h.statusInterval.exists_create "status" (Duty.status setup)
  obtain ⟨heartbeat, hheartbeat⟩ :=
    h.heartbeatInterval.exists_create "heartbeat" fun _ => Duty.heartbeat
  obtain ⟨policy, hpolicy⟩ := h.aiInterval.exists_create "ai_cortex" fun _ => Duty.policy setup
  obtain ⟨simulation, hsimulation⟩ :=
    h.simulationInterval.exists_create "simulation" fun _ => Duty.simulation setup
  unfold standardDaemons
  rw [hstatus, hheartbeat, hpolicy, hsimulation]
  exact ⟨_, rfl⟩

/-! ## organisms -/

namespace Launch

variable {s : Settings} {counters : Nat → HostCounters} {files : FileSystem}

theorem exists_configured (counters : Nat → HostCounters) (ht : s.telemetry.NamesProvider)
    (hs : Seed.IsSeed s.simulation.seed) : ∃ senses, Senses.configured s counters = .ok senses := by
  obtain ⟨word, htext, hword⟩ := ht
  obtain ⟨p, hp⟩ := Provider.exists_ofWord_iff.mpr hword
  obtain ⟨ws, hws⟩ := Seed.exists_ofValue_of_isSeed hs
  unfold Senses.configured
  rw [htext]
  dsimp only
  rw [hp]
  cases p with
  | simulation =>
    show ∃ senses, (Seed.ofValue s.simulation.seed >>= _) = _
    rw [hws]
    exact ⟨_, rfl⟩
  | host => exact ⟨_, rfl⟩

theorem exists_scheduler (hr : s.InRange) (ht : s.telemetry.NamesProvider)
    (hh : s.scheduler.historySize.IsLength) (hs : Seed.IsSeed s.simulation.seed) :
    ∃ sch, scheduler s counters files = .ok sch := by
  obtain ⟨senses, hsenses⟩ := exists_configured counters ht hs
  obtain ⟨c, hc⟩ := exists_capacity_iff.mpr hh
  obtain ⟨x, hx, -⟩ := (Topology.sample_whole Number.inUnit_one).awareness
  obtain ⟨ws, hws⟩ := Seed.exists_ofValue_of_isSeed hs
  obtain ⟨ds, hds⟩ := exists_standardDaemons hr.scheduler (setupOf s)
  unfold scheduler Scheduler.build bodyOf
  rw [hsenses, hc, hx, hws, hds]
  exact ⟨_, rfl⟩

theorem namesProvider_of_configured {senses : Senses}
    (h : Senses.configured s counters = .ok senses) : s.telemetry.NamesProvider := by
  unfold Senses.configured at h
  split at h
  · next word hword =>
    obtain ⟨p, hp, -⟩ := ok_of_bind h
    exact ⟨word, hword, Provider.exists_ofWord_iff.mp ⟨p, hp⟩⟩
  · cases h

/-- **Accepted settings make an organism unless the check has not looked.**  For settings that were
read from a document or from the environment there is an organism if they name a provider, the
history has a length, and the seed is nothing or made of flags and whole numbers that are not
negative; and there is none if they name no provider, the history has no length, or the seed is a
negative number, a fraction, a text or a map. -/
theorem accepted_built
    (h : (∃ v, Settings.ofValue v = .ok s) ∨
      ∃ files env notes, Settings.ofEnvironment files env = .ok (s, notes))
    (counters : Nat → HostCounters) (files : FileSystem) :
    (s.telemetry.NamesProvider → s.scheduler.historySize.IsLength →
        Seed.IsSeed s.simulation.seed → ∃ sch, scheduler s counters files = .ok sch) ∧
      ∀ sch, scheduler s counters files = .ok sch →
        s.telemetry.NamesProvider ∧ s.scheduler.historySize.IsLength ∧
          (s.simulation.seed = .none ∨ (∃ b, s.simulation.seed = .flag b) ∨
            (∃ n : Nat, s.simulation.seed = .whole n) ∨ ∃ vs, s.simulation.seed = .list vs) := by
  have hcheck : Settings.check s = .ok () := by
    rcases h with ⟨v, h⟩ | ⟨files', env, notes, h⟩
    · exact Settings.check_of_ofValue h
    · exact Settings.check_of_ofEnvironment h
  refine ⟨exists_scheduler (Settings.check_iff.mp hcheck), fun sch hsch => ?_⟩
  obtain ⟨senses, hsenses, hbuild⟩ := ok_of_bind hsch
  obtain ⟨body, hbody, -⟩ := ok_of_bind hbuild
  obtain ⟨c, hc, hbody⟩ := ok_of_bind hbody
  obtain ⟨x, -, hbody⟩ := ok_of_bind hbody
  obtain ⟨ws, hws, -⟩ := ok_of_bind hbody
  exact ⟨namesProvider_of_configured hsenses, exists_capacity_iff.mp ⟨c, hc⟩, Seed.ofValue_ok hws⟩

/-- the host as the provider, a history without an end, and a seed of several parts -/
theorem accepted_built_host :
    let v : Value := .map [(.text "scheduler", .map [(.text "history_size", .none)]),
      (.text "simulation", .map [(.text "seed", .list [.whole 5, .list [.flag true]])]),
      (.text "telemetry", .text " Real ")]
    let settings : Settings := { Settings.standard with
      telemetry := .text " Real "
      scheduler := { Settings.standard.scheduler with historySize := .none }
      simulation := { Settings.standard.simulation with
        seed := .list [.whole 5, .list [.flag true]] } }
    Settings.ofValue v = .ok settings ∧
      ∃ sch, scheduler settings (fun _ => .absent) {} = .ok sch := by
  intro v settings
  have h : Settings.ofValue v = .ok settings := Settings.ofValue_of_check rfl (by decide +kernel)
  refine ⟨h, (accepted_built (.inl ⟨v, h⟩) _ _).1 ?_ (.inl rfl) (.inr ?_)⟩
  · exact ⟨" Real ", rfl, by decide +kernel⟩
  · refine .list fun v hv => ?_
    simp only [List.mem_cons, List.not_mem_nil, or_false] at hv
    rcases hv with rfl | rfl
    · exact .whole 5
    · refine .list fun v hv => ?_
      obtain rfl := List.mem_singleton.mp hv
      exact .flag true

/-- settings are accepted that name no provider, and make no organism -/
theorem not_all_built :
    ¬ ∀ v s counters files, Settings.ofValue v = .ok s →
      ∃ sch, scheduler s counters files = .ok sch := by
  intro hall
  let settings : Settings := { Settings.standard with telemetry := .text "bogus" }
  have h : Settings.ofValue (.map [(.text "telemetry", .text "bogus")]) = .ok settings :=
    Settings.ofValue_of_check rfl (by decide +kernel)
  have hnone : (scheduler settings (fun _ => .absent) {}).isOk = false := by decide +kernel
  obtain ⟨sch, hsch⟩ := hall _ settings (fun _ => .absent) {} h
  rw [hsch] at hnone
  cases hnone

end Launch
end Organism
