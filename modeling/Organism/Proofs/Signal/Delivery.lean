import Organism.Body
import Mathlib.Data.List.Infix

/-!
# Delivery of pulses

A mailbox in use is a list of events: messages are published, ticks begin, and in between observers
come and go and are told more or less.

* `Body.carry`, `Body.carryAll`          an event, and a run of them;
* `Body.published`, `Body.delivered`     the pulses that a run returns as published and delivered;
* `Traffic.sent`                         the messages of a run with the ticks that were open, as the
                                         events alone tell them;
* `delivered_append_pending`             **what was delivered and what is pending is what was
                                         published**;
* `published_sent`, `published_ids`      what stands on the pulses;
* `inbox_carryAll`, `history_carryAll`   what is kept of the delivered pulses;
* `pulses_in_order`                      all of it, for a new bus and any run.
-/

namespace Organism

/-! ## events -/

/-- what happens to a mailbox -/
inductive Traffic where
  | publish (m : Message)
  | advance (tick : Int)
  | tune (observers : List Observer) (verbosity : Verbosity)

namespace Traffic

def isAdvance : Traffic → Bool
  | advance _ => true
  | _ => false

/-- the messages of a run, each with the tick that began last before it -/
def sent (tick : Int) : List Traffic → List (Message × Int)
  | [] => []
  | publish m :: es => (m, tick) :: sent tick es
  | advance t :: es => sent t es
  | tune _ _ :: es => sent tick es

end Traffic

namespace Body

def carry (b : Body) : Traffic → Body
  | .publish m => b.publish m
  | .advance tick => b.advance tick
  | .tune observers verbosity => { b with bus := { b.bus with observers, verbosity } }

def carryAll (b : Body) (es : List Traffic) : Body := es.foldl carry b

def sends (b : Body) : Traffic → List Pulse
  | .publish m => [b.bus.stamp m]
  | _ => []

def hands (b : Body) : Traffic → List Pulse
  | .advance tick => (b.advance tick).bus.inbox
  | _ => []

/-- all pulses that the publications of a run return, in order -/
def published (b : Body) : List Traffic → List Pulse
  | [] => []
  | e :: es => b.sends e ++ (b.carry e).published es

/-- all pulses that the beginnings of ticks of a run return, in order -/
def delivered (b : Body) : List Traffic → List Pulse
  | [] => []
  | e :: es => b.hands e ++ (b.carry e).delivered es

/-! ## the beginning of a tick -/

theorem bus_notify (b : Body) (shown : Observer × Pulse) : (b.notify shown).bus = b.bus := by
  unfold notify
  split
  · rfl
  · rfl
  · split <;> rfl

theorem bus_foldl_notify (b : Body) (shown : List (Observer × Pulse)) :
    (shown.foldl notify b).bus = b.bus := by
  induction shown generalizing b with
  | nil => rfl
  | cons s shown ih => rw [List.foldl_cons, ih, bus_notify]

theorem bus_advance (b : Body) (tick : Int) : (b.advance tick).bus = b.bus.advance tick :=
  bus_foldl_notify _ _

/-! ## nothing is lost -/

theorem hands_append_pending (b : Body) (e : Traffic) :
    b.hands e ++ (b.carry e).bus.pending = b.bus.pending ++ b.sends e := by
  cases e with
  | publish m => rfl
  | advance tick =>
    show (b.advance tick).bus.inbox ++ (b.advance tick).bus.pending = _
    rw [bus_advance, Bus.inbox_advance, Bus.pending_advance]
    rfl
  | tune observers verbosity => exact (List.append_nil _).symm

/-- **What was delivered, followed by what is pending, is what was published.** -/
theorem delivered_append_pending (b : Body) (es : List Traffic) :
    b.delivered es ++ (b.carryAll es).bus.pending = b.bus.pending ++ b.published es := by
  induction es generalizing b with
  | nil => exact (List.append_nil _).symm
  | cons e es ih =>
    show b.hands e ++ (b.carry e).delivered es ++ ((b.carry e).carryAll es).bus.pending
      = b.bus.pending ++ (b.sends e ++ (b.carry e).published es)
    rw [List.append_assoc, ih, ← List.append_assoc, hands_append_pending, List.append_assoc]

/-! ## what stands on the pulses -/

theorem published_sent (b : Body) (es : List Traffic) :
    (b.published es).map (fun p => (p.toMessage, p.tick)) = Traffic.sent b.bus.tick es := by
  induction es generalizing b with
  | nil => rfl
  | cons e es ih =>
    show (b.sends e ++ (b.carry e).published es).map _ = _
    rw [List.map_append, ih]
    cases e with
    | publish m => rfl
    | advance tick =>
      show _ ++ Traffic.sent (b.advance tick).bus.tick es = _
      rw [bus_advance]
      rfl
    | tune observers verbosity => rfl

theorem published_ids (b : Body) (es : List Traffic) :
    (b.published es).map (·.id)
      = List.range' (b.bus.published + 1) (b.published es).length := by
  induction es generalizing b with
  | nil => rfl
  | cons e es ih =>
    show (b.sends e ++ (b.carry e).published es).map _
      = List.range' _ (b.sends e ++ (b.carry e).published es).length
    rw [List.map_append, ih]
    cases e with
    | publish m => rfl
    | advance tick =>
      show _ ++ List.range' ((b.advance tick).bus.published + 1) _ = _
      rw [bus_advance]
      rfl
    | tune observers verbosity => rfl

/-! ## the inbox -/

theorem delivered_of_no_advance (b : Body) {es : List Traffic}
    (h : ∀ e ∈ es, e.isAdvance = false) : b.delivered es = [] := by
  induction es generalizing b with
  | nil => rfl
  | cons e es ih =>
    obtain ⟨he, hes⟩ := List.forall_mem_cons.mp h
    show b.hands e ++ (b.carry e).delivered es = []
    rw [ih _ hes]
    cases e with
    | publish m => rfl
    | advance tick => cases he
    | tune observers verbosity => rfl

theorem inbox_of_no_advance (b : Body) {es : List Traffic}
    (h : ∀ e ∈ es, e.isAdvance = false) : (b.carryAll es).bus.inbox = b.bus.inbox := by
  induction es generalizing b with
  | nil => rfl
  | cons e es ih =>
    obtain ⟨he, hes⟩ := List.forall_mem_cons.mp h
    show ((b.carry e).carryAll es).bus.inbox = _
    rw [ih _ hes]
    cases e with
    | publish m => rfl
    | advance tick => cases he
    | tune observers verbosity => rfl

theorem carryAll_append (b : Body) (es fs : List Traffic) :
    b.carryAll (es ++ fs) = (b.carryAll es).carryAll fs := List.foldl_append

/-- **The inbox holds what was published between the last two beginnings of ticks.** -/
theorem inbox_carryAll (b : Body) {es fs : List Traffic} (tick : Int)
    (hb : b.bus.pending = []) (hes : ∀ e ∈ es, e.isAdvance = false)
    (hfs : ∀ e ∈ fs, e.isAdvance = false) :
    (b.carryAll (es ++ .advance tick :: fs)).bus.inbox = b.published es := by
  have hp : (b.carryAll es).bus.pending = b.published es := by
    have h := b.delivered_append_pending es
    rwa [b.delivered_of_no_advance hes, hb] at h
  rw [carryAll_append]
  show (((b.carryAll es).advance tick).carryAll fs).bus.inbox = _
  rw [inbox_of_no_advance _ hfs, bus_advance, Bus.inbox_advance, hp]

theorem pending_carryAll_advance (b : Body) (es : List Traffic) (tick : Int) :
    (b.carryAll (es ++ [.advance tick])).bus.pending = [] := by
  rw [carryAll_append]
  show ((b.carryAll es).advance tick).bus.pending = []
  rw [bus_advance, Bus.pending_advance]

end Body

/-! ## the history -/

theorem lastOf_suffix {α : Type} (n : Nat) (xs : List α) : lastOf n xs <:+ xs :=
  List.drop_suffix _ _

theorem lastOf_lastOf_append {α : Type} (n : Nat) (xs ys : List α) :
    lastOf n (lastOf n xs ++ ys) = lastOf n (xs ++ ys) := by
  unfold lastOf
  rw [List.drop_append, List.drop_append, List.drop_drop, List.length_append, List.length_append,
    List.length_drop]
  congr 2 <;> omega

namespace Bus

theorem retained_nil (b : Bus) : b.retained [] = [] := by
  unfold retained
  split
  · rfl
  · exact lastOf_nil _

theorem retained_retained_append (b : Bus) (ps qs : List Pulse) :
    b.retained (b.retained ps ++ qs) = b.retained (ps ++ qs) := by
  unfold retained
  split
  · rfl
  · exact lastOf_lastOf_append _ _ _

theorem retained_suffix (b : Bus) (ps : List Pulse) : b.retained ps <:+ ps := by
  unfold retained
  split
  · exact List.suffix_rfl
  · exact lastOf_suffix _ _

theorem length_retained (b : Bus) (ps : List Pulse) :
    (b.retained ps).length = b.capacity.elim ps.length (min · ps.length) := by
  unfold retained
  cases b.capacity with
  | none => rfl
  | some n => exact length_lastOf n ps

end Bus

namespace Body

theorem retained_carry (b : Body) (e : Traffic) : (b.carry e).bus.retained = b.bus.retained := by
  cases e with
  | publish m => rfl
  | advance tick =>
    show (b.advance tick).bus.retained = _
    rw [bus_advance]
    rfl
  | tune observers verbosity => rfl

/-- **The history is as much as it holds of all that was delivered.** -/
theorem history_carryAll (b : Body) (es : List Traffic)
    (hb : b.bus.retained b.bus.history = b.bus.history) :
    (b.carryAll es).bus.history = b.bus.retained (b.bus.history ++ b.delivered es) := by
  induction es generalizing b with
  | nil =>
    show b.bus.history = b.bus.retained (b.bus.history ++ [])
    rw [List.append_nil, hb]
  | cons e es ih =>
    have he : (b.carry e).bus.history = b.bus.retained (b.bus.history ++ b.hands e) := by
      cases e with
      | publish m =>
        show b.bus.history = b.bus.retained (b.bus.history ++ [])
        rw [List.append_nil, hb]
      | advance tick =>
        show (b.advance tick).bus.history = b.bus.retained (_ ++ (b.advance tick).bus.inbox)
        rw [bus_advance]
        rfl
      | tune observers verbosity =>
        show b.bus.history = b.bus.retained (b.bus.history ++ [])
        rw [List.append_nil, hb]
    have hr : (b.carry e).bus.retained (b.carry e).bus.history = (b.carry e).bus.history := by
      rw [retained_carry, he]
      have h := b.bus.retained_retained_append (b.bus.history ++ b.hands e) []
      rwa [List.append_nil, List.append_nil] at h
    show ((b.carry e).carryAll es).bus.history
      = b.bus.retained (b.bus.history ++ (b.hands e ++ (b.carry e).delivered es))
    rw [ih _ hr, retained_carry, he, Bus.retained_retained_append, List.append_assoc]

/-! ## the whole -/

/-- **No pulse is lost, doubled, moved or early.**  On a new bus, after any run: what was delivered
and what is pending is what was published; the pulses have ids from 1, and the messages and ticks of
the run; the inbox is what was published between the last two beginnings of ticks; and the history,
and any part of it that is asked for, is the last of what was delivered. -/
theorem pulses_in_order (b : Body) (capacity : Option Nat) (verbosity : Verbosity)
    (simLevel : SimLevel) (observers : List Observer) (es : List Traffic) :
    let new : Body := { b with bus := { capacity, verbosity, simLevel, observers } }
    let bus := (new.carryAll es).bus
    new.delivered es ++ bus.pending = new.published es ∧
      (new.published es).map (·.id) = List.range' 1 (new.published es).length ∧
      (new.published es).map (fun p => (p.toMessage, p.tick)) = Traffic.sent 0 es ∧
      (∀ before between since tick, es = before ++ between ++ .advance tick :: since →
        (before = [] ∨ ∃ others last, before = others ++ [.advance last]) →
        (∀ e ∈ between, e.isAdvance = false) → (∀ e ∈ since, e.isAdvance = false) →
        bus.inbox = (new.carryAll before).published between) ∧
      ((∀ e ∈ es, e.isAdvance = false) → bus.inbox = []) ∧
      bus.history <:+ new.delivered es ∧
      bus.history.length
        = capacity.elim (new.delivered es).length (min · (new.delivered es).length) ∧
      ∀ limit, bus.recent limit <:+ bus.history ∧
        (bus.recent limit).length = min limit.toNat bus.history.length := by
  intro new bus
  have hhistory : bus.history = new.bus.retained (new.delivered es) :=
    new.history_carryAll es new.bus.retained_nil
  refine ⟨new.delivered_append_pending es, new.published_ids es, new.published_sent es, ?_, ?_, ?_,
    ?_, ?_⟩
  · rintro before between since tick rfl hbefore hbetween hsince
    have hp : (new.carryAll before).bus.pending = [] := by
      rcases hbefore with rfl | ⟨others, last, rfl⟩
      · rfl
      · exact new.pending_carryAll_advance others last
    show (new.carryAll (before ++ between ++ .advance tick :: since)).bus.inbox = _
    rw [List.append_assoc, carryAll_append]
    exact (new.carryAll before).inbox_carryAll tick hp hbetween hsince
  · exact fun h => new.inbox_of_no_advance h
  · rw [hhistory]
    exact Bus.retained_suffix _ _
  · rw [hhistory]
    exact Bus.length_retained _ _
  · intro limit
    unfold Bus.recent
    split
    · exact ⟨lastOf_suffix _ _, length_lastOf _ _⟩
    · next h =>
      have h0 : limit.toNat = 0 := by omega
      rw [h0, Nat.zero_min]
      exact ⟨List.nil_suffix, rfl⟩

end Body
end Organism
