import Organism.Proofs.Command.Blind
import Organism.Proofs.Daemon.Blind
import Organism.Proofs.Scheduler.Handling

/-!
# What draining the queue publishes

The queue is drained with an operation that reports its results and says nothing of its crashes, as
commands do.

* `countP_pulses`   **a handling publishes one pulse of a command if it has a result, else none**;
* `drain_blind`     draining does the same on bodies that are alike.
-/

namespace Organism.Queue

theorem countP_isReport_of_reported {r : Request} {outcome : Except Fault CommandResult}
    {ms : List Message} (h : Command.Reported r outcome ms) : ms.countP Message.isReport = 0 := by
  cases outcome with
  | ok result =>
    obtain ⟨text, payload, rfl⟩ := h
    rfl
  | error e =>
    obtain rfl : ms = [] := h
    rfl

/-! ## pulses of commands -/

section
variable {handle : Request → Act CommandResult}
  (hh : ∀ r, Act.Blind (Command.Reported r) (handle r))
include hh

/-- **A handling publishes one pulse of a command if there is a result, and none otherwise.** -/
theorem countP_pulses_handling (w : Nat × Request) (b : Body) :
    (handling handle w b).pulses.countP (·.kind == .command)
      = (handling handle w b).outcome.isOk.toNat := by
  obtain ⟨ms, hms, -, hj⟩ := (hh w.2).joined b b rfl
  have hp : (handling handle w b).pulses = Bus.stampAll b.bus.published b.bus.tick ms := by
    show List.drop b.bus.pending.length ((handle w.2).run b).2.bus.pending = _
    rw [Bus.pending_of_mail hj.left, List.drop_left]
  rw [hp]
  show _ = ((handle w.2).run b).1.isOk.toNat
  cases hr : ((handle w.2).run b).1 with
  | ok result =>
    rw [hr] at hms
    obtain ⟨text, payload, rfl⟩ := hms
    rfl
  | error e =>
    rw [hr] at hms
    obtain rfl : ms = [] := hms
    rfl

theorem countP_pulses (ws : List (Nat × Request)) (b : Body) :
    ((handlings handle ws b).flatMap Handling.pulses).countP (·.kind == .command)
      = (handlings handle ws b).countP (·.outcome.isOk) := by
  induction ws generalizing b with
  | nil => rfl
  | cons w ws ih =>
    show (List.flatMap _ (handling handle w b :: handlings handle ws _)).countP _
      = List.countP _ (handling handle w b :: handlings handle ws _)
    rw [List.flatMap_cons, List.countP_append, ih, countP_pulses_handling hh, List.countP_cons]
    cases (handling handle w b).outcome.isOk
    · exact Nat.zero_add _
    · exact Nat.add_comm _ _

/-! ## bodies that are alike -/

theorem serve_blind (q : Queue) (id : Nat) (r : Request) {b c : Body} (h : b.Alike c) :
    ∃ ms, ms.countP Message.isReport = 0 ∧
      (serve handle q id r c).1 = (serve handle q id r b).1 ∧
      Body.Joined ms b c (serve handle q id r b).2 (serve handle q id r c).2 := by
  obtain ⟨ms, hms, ho, hj⟩ := (hh r).joined b c h
  have hserve := serve_related (R := Body.Joined ms b c)
    (fun _ _ _ _ _ h => ⟨h.alike, h.left, h.right⟩) q id ho hj
  exact ⟨ms, countP_isReport_of_reported hms, hserve⟩

theorem serveAll_blind (ws : List (Nat × Request)) (q : Queue) {b c : Body} (h : b.Alike c) :
    ∃ ms, ms.countP Message.isReport = 0 ∧
      (serveAll handle ws q c).1 = (serveAll handle ws q b).1 ∧
      Body.Joined ms b c (serveAll handle ws q b).2 (serveAll handle ws q c).2 := by
  induction ws generalizing q b c with
  | nil => exact ⟨[], rfl, rfl, Body.joined_nil h⟩
  | cons w ws ih =>
    obtain ⟨id, r⟩ := w
    unfold serveAll
    split
    · exact ih q h
    · obtain ⟨ms, hms, hq, hj⟩ := serve_blind hh q id r h
      obtain ⟨ns, hns, hq', hj'⟩ := ih (serve handle q id r b).1 hj.alike
      refine ⟨ms ++ ns, ?_, ?_, ?_⟩
      · rw [List.countP_append, hms, hns]
      · dsimp only
        rw [hq]
        exact hq'
      · dsimp only
        rw [hq]
        exact hj.trans hj'

theorem drain_blind (q : Queue) {b c : Body} (h : b.Alike c) :
    ∃ ms, ms.countP Message.isReport = 0 ∧ (q.drain handle c).1 = (q.drain handle b).1 ∧
      Body.Joined ms b c (q.drain handle b).2 (q.drain handle c).2 :=
  serveAll_blind hh q.waiting _ h

end

end Organism.Queue
