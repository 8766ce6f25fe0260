import Organism.Proofs.Fallible
import Organism.Scheduler

/-!
# The parts of a new organism

What is put together, taken apart again: everything that a success says, each once.

* `Daemon.create_cases`      a daemon, with an interval that is not below 1;
* `standardDaemons_cases`    the four daemons of an organism;
* `bodyOf_cases`             its body, from a length of the history, an awareness and a seed;
* `Scheduler.build_cases`    body and daemons, with a snapshot of the body;
* `duties`, `duty_cases`     what the four daemons do, and what holds of a daemon that does so;
* `standardDaemons_duties`   **the daemons of an organism do nothing else**.
-/

namespace Organism

/-! ## what succeeds -/

namespace Daemon

variable {name : String} {interval : Value} {act : Nat → Act Unit} {d : Daemon}
  (h : create name interval act = .ok d)
include h

theorem create_cases :
    ∃ q, interval.quantity? = some q ∧ ¬ q.exact < 1 ∧ d = { name, interval := q, act } := by
  unfold create at h
  split at h
  · cases h
  · next q hq =>
    split at h
    · cases h
    · next hlong =>
      cases h
      exact ⟨q, hq, hlong, rfl⟩

theorem act_create : d.act = act := by
  obtain ⟨q, -, -, rfl⟩ := create_cases h
  rfl

theorem count_create : d.count = {} := by
  obtain ⟨q, -, -, rfl⟩ := create_cases h
  rfl

end Daemon

section
variable [Rounding]

theorem standardDaemons_cases {setup : Setup} {settings : SchedulerSettings} {ds : List Daemon}
    (h : standardDaemons setup settings = .ok ds) :
    ∃ heartbeat status policy simulation, ds = [heartbeat, status, policy, simulation] ∧
      Daemon.create "heartbeat" settings.heartbeatInterval (fun _ => Duty.heartbeat)
        = .ok heartbeat ∧
      Daemon.create "status" settings.statusInterval (Duty.status setup) = .ok status ∧
      Daemon.create "ai_cortex" settings.aiInterval (fun _ => Duty.policy setup) = .ok policy ∧
      Daemon.create "simulation" settings.simulationInterval (fun _ => Duty.simulation setup)
        = .ok simulation := by
  obtain ⟨status, hstatus, h⟩ := ok_of_bind h
  obtain ⟨heartbeat, hheartbeat, h⟩ := ok_of_bind h
  obtain ⟨policy, hpolicy, h⟩ := ok_of_bind h
  obtain ⟨simulation, hsimulation, h⟩ := ok_of_bind h
  cases h
  exact ⟨heartbeat, status, policy, simulation, rfl, hheartbeat, hstatus, hpolicy, hsimulation⟩

variable {settings : Settings} {t : Topology} {senses : Senses} {files : FileSystem}

theorem bodyOf_cases {b : Body} (h : bodyOf settings t senses files = .ok b) :
    ∃ length x seed, capacity settings.scheduler.historySize = .ok length ∧
      t.awareness = .ok x ∧ Seed.ofValue settings.simulation.seed = .ok seed ∧
      b = {
        topology := t
        bus := Bus.setAwareness
          { capacity := length, verbosity := settings.verbosity, simLevel := settings.simLevel } x
        registry := .ofTopology t
        files
        senses
        dice := .seeded (.ofSeed seed) } := by
  obtain ⟨length, hlength, h⟩ := ok_of_bind h
  obtain ⟨x, hx, h⟩ := ok_of_bind h
  obtain ⟨seed, hseed, h⟩ := ok_of_bind h
  cases h
  exact ⟨length, x, seed, hlength, hx, hseed, rfl⟩

theorem Scheduler.build_cases {setup : Setup} {s : Scheduler}
    (h : build settings setup t senses files = .ok s) :
    ∃ body daemons, bodyOf settings t senses files = .ok body ∧
      standardDaemons setup settings.scheduler = .ok daemons ∧
      s = {
        setup
        body
        daemons
        snapshot := .take body.topology body.bus 0
        tickInterval := settings.scheduler.tickInterval } := by
  obtain ⟨body, hbody, h⟩ := ok_of_bind h
  obtain ⟨daemons, hdaemons, h⟩ := ok_of_bind h
  cases h
  exact ⟨body, daemons, hbody, hdaemons, rfl⟩

end

/-! ## standard daemons -/

attribute [local instance] Rounding.binary64

/-- the acts of the standard daemons by name, in their order -/
def duties (setup : Setup) : List (String × (Nat → Act Unit)) :=
  [("heartbeat", fun _ => Duty.heartbeat), ("status", Duty.status setup),
    ("ai_cortex", fun _ => Duty.policy setup), ("simulation", fun _ => Duty.simulation setup)]

def Daemon.duty (d : Daemon) : String × (Nat → Act Unit) := (d.name, d.act)

/-- what holds of each standard duty under its name holds of every daemon that has one of them -/
theorem duty_cases {setup : Setup} {d : Daemon} (hd : d.duty ∈ duties setup)
    {P : String → (Nat → Act Unit) → Prop} (heartbeat : P "heartbeat" fun _ => Duty.heartbeat)
    (status : P "status" (Duty.status setup)) (policy : P "ai_cortex" fun _ => Duty.policy setup)
    (simulation : P "simulation" fun _ => Duty.simulation setup) : P d.name d.act := by
  obtain ⟨name, interval, act, count⟩ := d
  simp only [duties, Daemon.duty, List.mem_cons, Prod.mk.injEq, List.not_mem_nil, or_false] at hd
  rcases hd with ⟨rfl, rfl⟩ | ⟨rfl, rfl⟩ | ⟨rfl, rfl⟩ | ⟨rfl, rfl⟩
  · exact heartbeat
  · exact status
  · exact policy
  · exact simulation

theorem Daemon.duty_create {name : String} {interval : Value} {act : Nat → Act Unit} {d : Daemon}
    (h : create name interval act = .ok d) : d.duty = (name, act) := by
  obtain ⟨q, -, -, rfl⟩ := create_cases h
  rfl

section
variable {setup : Setup} {settings : SchedulerSettings} {ds : List Daemon}
  (h : standardDaemons setup settings = .ok ds)
include h

/-- **The daemons of an organism have the standard duties, in their order.** -/
theorem standardDaemons_duties : ds.map Daemon.duty = duties setup := by
  obtain ⟨heartbeat, status, policy, simulation, rfl, h₁, h₂, h₃, h₄⟩ := standardDaemons_cases h
  show [heartbeat.duty, status.duty, policy.duty, simulation.duty] = _
  rw [Daemon.duty_create h₁, Daemon.duty_create h₂, Daemon.duty_create h₃, Daemon.duty_create h₄]
  rfl

theorem standardDaemons_each {P : (Nat → Act Unit) → Prop} (heartbeat : P fun _ => Duty.heartbeat)
    (status : P (Duty.status setup)) (policy : P fun _ => Duty.policy setup)
    (simulation : P fun _ => Duty.simulation setup) : ∀ d ∈ ds, P d.act := by
  intro d hd
  have hduty : d.duty ∈ duties setup := standardDaemons_duties h ▸ List.mem_map_of_mem hd
  exact duty_cases hduty (P := fun _ act => P act) heartbeat status policy simulation

end
end Organism
