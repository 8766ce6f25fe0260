import Organism.Proofs.Signal.Delivery
import Mathlib.Data.List.Count
import Mathlib.Data.List.Nodup

/-!
# What observers see

Observers come and stay, the verbosity changes, messages are published and ticks begin.  Every run of
such occasions has a record of which observer was called with which pulse; what the observers keep
comes from these calls alone.

* `Occasion`, `Body.attendAll`    what happens, and a run of it;
* `Call`, `Body.calls`            the calls of observers in a run, in order;
* `Verbosity.admits`, `Body.surfacing`   the pulses that a verbosity lets through, and those that get
                                  through in a run, with the verbosity in force at their delivery;
* `seen_attendAll`, …             what is kept of the calls;
* `received_since`                **an observer is called with what gets through since it came**;
* `calls_before`                  **the calls follow the pulses, and for one pulse the observers**;
* `Body.sound`, `sound_attendAll` **nobody else notices the observers that break down**;
* `observers_see_what_surfaces`   all of it, for a new bus and any run.
-/

namespace Organism

attribute [local instance] Rounding.binary64

/-! ## occasions -/

def Observer.works : Observer → Bool
  | broken _ => false
  | _ => true

/-- what is done with a bus and its observers -/
inductive Occasion where
  | publish (m : Message)
  | advance (tick : Int)
  | subscribe (o : Observer)
  | setVerbosity (v : Verbosity)

def Occasion.sound : Occasion → Bool
  | subscribe o => o.works
  | _ => true

/-- one observer, known by its place among those who came, is called with one pulse -/
structure Call where
  place : Nat
  observer : Observer
  pulse : Pulse

namespace Call

def kept? (c : Call) : Option String :=
  match c.observer with
  | .recorder tag => some (tag ++ c.pulse.line)
  | _ => none

def printed? (c : Call) : Option String :=
  match c.observer with
  | .console => if c.pulse.kind = .command then none else some c.pulse.line
  | _ => none

def noted? (c : Call) : Option LogRecord :=
  match c.observer with
  | .broken reason => some ⟨.error, .bus, s!"Pulse subscriber error: {reason}"⟩
  | _ => none

/-- an earlier pulse, or the same pulse and an observer that came earlier -/
def Before (c d : Call) : Prop :=
  c.pulse.id < d.pulse.id ∨ c.pulse.id = d.pulse.id ∧ c.place < d.place

/-- the pulses with which the observer of the place is called -/
def received (place : Nat) (cs : List Call) : List Pulse :=
  (cs.filter (·.place = place)).map (·.pulse)

theorem received_append (place : Nat) (cs ds : List Call) :
    received place (cs ++ ds) = received place cs ++ received place ds := by
  unfold received
  rw [List.filter_append, List.map_append]

theorem received_flatMap (place : Nat) (f : Pulse → List Call) (ps : List Pulse) :
    received place (ps.flatMap f) = ps.flatMap fun p => received place (f p) := by
  unfold received
  rw [List.filter_flatMap, List.map_flatMap]

end Call

def Verbosity.admits : Verbosity → PulseKind → Bool
  | .all, _ => true
  | .commands, .command | .commands, .alert | .commands, .warning => true
  | .commands, _ => false
  | .silent, _ => false

namespace Bus

theorem surfaces_eq (b : Bus) (p : Pulse) : b.surfaces p = b.verbosity.admits p.kind := by
  unfold surfaces
  cases b.verbosity with
  | all => rfl
  | commands => cases p.kind <;> rfl
  | silent => rfl

def callsWith (b : Bus) (p : Pulse) : List Call := b.observers.zipIdx.map fun x => ⟨x.2, x.1, p⟩

/-- the observers are called with the delivered pulses that surface -/
def calls (b : Bus) : List Call := (b.inbox.filter b.surfaces).flatMap b.callsWith

theorem calls_surfaced (b : Bus) : b.calls.map (fun c => (c.observer, c.pulse)) = b.surfaced := by
  unfold calls surfaced
  rw [List.map_flatMap]
  congr 1
  funext p
  unfold callsWith
  rw [List.map_map]
  nth_rewrite 2 [← List.zipIdx_map_fst 0 b.observers]
  rw [List.map_map]
  rfl

theorem map_place_callsWith (b : Bus) (p : Pulse) :
    (b.callsWith p).map (·.place) = List.range' 0 b.observers.length := by
  unfold callsWith
  rw [List.map_map]
  exact List.zipIdx_map_snd 0 b.observers

theorem pulse_of_mem_callsWith {b : Bus} {p : Pulse} {c : Call} (h : c ∈ b.callsWith p) :
    c.pulse = p := by
  obtain ⟨x, -, rfl⟩ := List.mem_map.mp h
  rfl

theorem observer_of_mem_calls {b : Bus} {c : Call} (h : c ∈ b.calls) :
    b.observers[c.place]? = some c.observer := by
  obtain ⟨p, -, hc⟩ := List.mem_flatMap.mp h
  obtain ⟨x, hx, rfl⟩ := List.mem_map.mp hc
  exact List.mem_zipIdx_iff_getElem?.mp hx

theorem received_callsWith (b : Bus) (p : Pulse) {place : Nat} (h : place < b.observers.length) :
    Call.received place (b.callsWith p) = [p] := by
  show _ = List.replicate 1 p
  refine List.eq_replicate_iff.mpr ⟨?_, ?_⟩
  · have hcount : ((b.callsWith p).map (·.place)).count place = 1 := by
      rw [map_place_callsWith]
      exact List.count_eq_one_of_mem List.nodup_range' (by simp [h])
    unfold Call.received
    rw [List.length_map, ← List.countP_eq_length_filter, ← hcount]
    unfold List.count
    rw [List.countP_map]
    rfl
  · intro q hq
    obtain ⟨c, hc, rfl⟩ := List.mem_map.mp hq
    exact pulse_of_mem_callsWith (List.mem_of_mem_filter hc)

theorem received_calls (b : Bus) {place : Nat} (h : place < b.observers.length) :
    Call.received place b.calls = b.inbox.filter b.surfaces := by
  unfold calls
  rw [Call.received_flatMap]
  have hone : (fun p => Call.received place (b.callsWith p)) = fun p => [p] :=
    funext fun p => b.received_callsWith p h
  rw [hone, List.flatMap_singleton']

theorem pairwise_calls {b : Bus} (h : b.inbox.Pairwise fun p q => p.id < q.id) :
    b.calls.Pairwise Call.Before := by
  unfold calls
  refine List.pairwise_flatMap.mpr ⟨fun p _ => ?_, ?_⟩
  · have hplaces := List.pairwise_map.mp
      ((b.map_place_callsWith p).symm ▸ List.pairwise_lt_range')
    refine List.Pairwise.imp_of_mem ?_ hplaces
    intro c d hc hd hlt
    exact .inr ⟨by rw [pulse_of_mem_callsWith hc, pulse_of_mem_callsWith hd], hlt⟩
  · refine (h.filter _).imp ?_
    intro p q hpq c hc d hd
    rw [← pulse_of_mem_callsWith hc, ← pulse_of_mem_callsWith hd] at hpq
    exact .inl hpq

end Bus

namespace Body

def attend (b : Body) : Occasion → Body
  | .publish m => b.publish m
  | .advance tick => b.advance tick
  | .subscribe o => { b with bus := { b.bus with observers := b.bus.observers ++ [o] } }
  | .setVerbosity v => b.setVerbosity v

def attendAll (b : Body) (es : List Occasion) : Body := es.foldl attend b

theorem attendAll_append (b : Body) (es fs : List Occasion) :
    b.attendAll (es ++ fs) = (b.attendAll es).attendAll fs := List.foldl_append

def callsAt (b : Body) : Occasion → List Call
  | .advance tick => (b.bus.advance tick).calls
  | _ => []

/-- the calls of observers in a run -/
def calls (b : Body) : List Occasion → List Call
  | [] => []
  | e :: es => b.callsAt e ++ (b.attend e).calls es

theorem calls_append (b : Body) (es fs : List Occasion) :
    b.calls (es ++ fs) = b.calls es ++ (b.attendAll es).calls fs := by
  induction es generalizing b with
  | nil => rfl
  | cons e es ih =>
    show b.callsAt e ++ (b.attend e).calls (es ++ fs) = _
    rw [ih, ← List.append_assoc]
    rfl

def surfacingAt (b : Body) : Occasion → List Pulse
  | .advance tick => (b.advance tick).bus.inbox.filter fun p => b.bus.verbosity.admits p.kind
  | _ => []

/-- the pulses that are delivered in a run and let through by the verbosity then in force -/
def surfacing (b : Body) : List Occasion → List Pulse
  | [] => []
  | e :: es => b.surfacingAt e ++ (b.attend e).surfacing es

theorem surfacing_append (b : Body) (es fs : List Occasion) :
    b.surfacing (es ++ fs) = b.surfacing es ++ (b.attendAll es).surfacing fs := by
  induction es generalizing b with
  | nil => rfl
  | cons e es ih =>
    show b.surfacingAt e ++ (b.attend e).surfacing (es ++ fs) = _
    rw [ih, ← List.append_assoc]
    rfl

/-! ## what observers keep -/

section
variable {α : Type} {f : Body → List α} {g : Call → Option α}
  (hcall : ∀ b c, f (b.notify (c.observer, c.pulse)) = f b ++ (g c).toList)
include hcall

theorem kept_foldl_notify (b : Body) (cs : List Call) :
    f ((cs.map fun c => (c.observer, c.pulse)).foldl notify b) = f b ++ cs.filterMap g := by
  induction cs generalizing b with
  | nil => exact (List.append_nil _).symm
  | cons c cs ih =>
    rw [List.map_cons, List.foldl_cons, ih, hcall, List.append_assoc]
    cases hg : g c with
    | none => rw [List.filterMap_cons_none hg]; rfl
    | some a => rw [List.filterMap_cons_some hg]; rfl

/-- what grows by one call at a time grows by all the calls of a run, if it depends on nothing but
the calls -/
theorem kept_attendAll (hbus : ∀ b bus, f { b with bus } = f b) (b : Body) (es : List Occasion) :
    f (b.attendAll es) = f b ++ (b.calls es).filterMap g := by
  induction es generalizing b with
  | nil => exact (List.append_nil _).symm
  | cons e es ih =>
    have hone : f (b.attend e) = f b ++ (b.callsAt e).filterMap g := by
      cases e with
      | advance tick =>
        show f ((b.bus.advance tick).surfaced.foldl notify _) = _
        rw [← Bus.calls_surfaced, kept_foldl_notify hcall, hbus]
        rfl
      | publish m | subscribe o | setVerbosity v => exact (hbus _ _).trans (List.append_nil _).symm
    show f ((b.attend e).attendAll es) = f b ++ (b.callsAt e ++ (b.attend e).calls es).filterMap g
    rw [ih, hone, List.filterMap_append, List.append_assoc]

end

/-- **The lines of the recorders are those of their calls.** -/
theorem seen_attendAll (b : Body) (es : List Occasion) :
    (b.attendAll es).seen = b.seen ++ (b.calls es).filterMap Call.kept? := by
  refine kept_attendAll ?_ (fun _ _ => rfl) b es
  rintro b ⟨place, o, p⟩
  cases o with
  | recorder tag => rfl
  | broken reason => exact (List.append_nil _).symm
  | console =>
    unfold notify
    dsimp only
    split <;> exact (List.append_nil _).symm

/-- **The lines on the terminal are those of its calls.** -/
theorem console_attendAll (b : Body) (es : List Occasion) :
    (b.attendAll es).console = b.console ++ (b.calls es).filterMap Call.printed? := by
  refine kept_attendAll ?_ (fun _ _ => rfl) b es
  rintro b ⟨place, o, p⟩
  cases o with
  | recorder tag => exact (List.append_nil _).symm
  | broken reason => exact (List.append_nil _).symm
  | console =>
    unfold notify Call.printed?
    dsimp only
    split
    · exact (List.append_nil _).symm
    · rfl

/-- **The notes of a run are about the calls at which an observer broke down.** -/
theorem journal_attendAll (b : Body) (es : List Occasion) :
    (b.attendAll es).journal = b.journal ++ (b.calls es).filterMap Call.noted? := by
  refine kept_attendAll ?_ (fun _ _ => rfl) b es
  rintro b ⟨place, o, p⟩
  cases o with
  | recorder tag => exact (List.append_nil _).symm
  | broken reason => rfl
  | console =>
    unfold notify
    dsimp only
    split <;> exact (List.append_nil _).symm

/-! ## what an observer is called with -/

theorem bus_attend_advance (b : Body) (tick : Int) :
    (b.attend (.advance tick)).bus = b.bus.advance tick := bus_advance b tick

theorem observers_attend_stay (b : Body) (e : Occasion) :
    b.bus.observers <+: (b.attend e).bus.observers := by
  cases e with
  | publish m => exact List.prefix_rfl
  | advance tick =>
    rw [bus_attend_advance]
    exact List.prefix_rfl
  | subscribe o => exact List.prefix_append _ _
  | setVerbosity v => exact List.prefix_rfl

theorem observers_stay (b : Body) (es : List Occasion) :
    b.bus.observers <+: (b.attendAll es).bus.observers := by
  induction es generalizing b with
  | nil => exact List.prefix_rfl
  | cons e es ih => exact (b.observers_attend_stay e).trans (ih _)

theorem getElem?_of_isPrefix {α : Type} {xs ys : List α} (h : xs <+: ys) {i : Nat} {x : α}
    (hx : xs[i]? = some x) : ys[i]? = some x := by
  obtain ⟨zs, rfl⟩ := h
  obtain ⟨hi, -⟩ := List.getElem?_eq_some_iff.mp hx
  rw [List.getElem?_append_left hi, hx]

theorem observer_of_mem_calls {b : Body} {es : List Occasion} {c : Call} (h : c ∈ b.calls es) :
    (b.attendAll es).bus.observers[c.place]? = some c.observer := by
  induction es generalizing b with
  | nil => cases h
  | cons e es ih =>
    rcases List.mem_append.mp h with h | h
    · cases e with
      | advance tick =>
        refine getElem?_of_isPrefix ((b.attend (.advance tick)).observers_stay es) ?_
        rw [bus_attend_advance]
        exact Bus.observer_of_mem_calls h
      | publish m | subscribe o | setVerbosity v => cases h
    · exact ih h

theorem received_callsAt (b : Body) (e : Occasion) {place : Nat}
    (h : place < b.bus.observers.length) :
    Call.received place (b.callsAt e) = b.surfacingAt e := by
  cases e with
  | advance tick =>
    show Call.received place (b.bus.advance tick).calls = (b.advance tick).bus.inbox.filter _
    rw [Bus.received_calls (b.bus.advance tick) h, bus_advance]
    exact congrArg (List.filter · _) (funext fun p => Bus.surfaces_eq _ p)
  | publish m | subscribe o | setVerbosity v => rfl

theorem received_calls (b : Body) (es : List Occasion) {place : Nat}
    (h : place < b.bus.observers.length) :
    Call.received place (b.calls es) = b.surfacing es := by
  induction es generalizing b with
  | nil => rfl
  | cons e es ih =>
    show Call.received place (b.callsAt e ++ (b.attend e).calls es) = _
    have hlater : place < (b.attend e).bus.observers.length :=
      h.trans_le (b.observers_attend_stay e).length_le
    rw [Call.received_append, received_callsAt b e h, ih _ hlater]
    rfl

def nextPlace (b : Body) : Nat := b.bus.observers.length

theorem received_nextPlace (b : Body) (es : List Occasion) :
    Call.received (b.attendAll es).nextPlace (b.calls es) = [] := by
  unfold Call.received
  rw [List.map_eq_nil_iff, List.filter_eq_nil_iff]
  intro c hc hplace
  obtain ⟨hlt, -⟩ := List.getElem?_eq_some_iff.mp (observer_of_mem_calls hc)
  exact hlt.ne (of_decide_eq_true hplace)

/-- **An observer is called with what is delivered since it came and let through.** -/
theorem received_since (b : Body) (before after : List Occasion) (o : Observer) :
    Call.received (b.attendAll before).nextPlace (b.calls (before ++ .subscribe o :: after))
      = ((b.attendAll before).attend (.subscribe o)).surfacing after := by
  rw [calls_append, Call.received_append, received_nextPlace, List.nil_append]
  refine received_calls _ after ?_
  show _ < (_ ++ [o]).length
  rw [List.length_append]
  exact Nat.lt_succ_self _

/-! ## the order of calls -/

def traffic (b : Body) : Occasion → Traffic
  | .publish m => .publish m
  | .advance tick => .advance tick
  | .subscribe o => .tune (b.bus.observers ++ [o]) b.bus.verbosity
  | .setVerbosity v => .tune b.bus.observers v

def trafficAll (b : Body) : List Occasion → List Traffic
  | [] => []
  | e :: es => b.traffic e :: (b.attend e).trafficAll es

theorem carry_traffic (b : Body) (e : Occasion) : b.carry (b.traffic e) = b.attend e := by
  cases e <;> rfl

theorem carryAll_trafficAll (b : Body) (es : List Occasion) :
    b.carryAll (b.trafficAll es) = b.attendAll es := by
  induction es generalizing b with
  | nil => rfl
  | cons e es ih =>
    show (b.carry (b.traffic e)).carryAll _ = (b.attend e).attendAll es
    rw [carry_traffic, ih]

theorem surfacing_sublist (b : Body) (es : List Occasion) :
    (b.surfacing es).Sublist (b.delivered (b.trafficAll es)) := by
  induction es generalizing b with
  | nil => exact List.Sublist.slnil
  | cons e es ih =>
    show (b.surfacingAt e ++ (b.attend e).surfacing es).Sublist
      (b.hands (b.traffic e) ++ (b.carry (b.traffic e)).delivered ((b.attend e).trafficAll es))
    rw [carry_traffic]
    refine List.Sublist.append ?_ (ih _)
    cases e with
    | advance tick => exact List.filter_sublist
    | publish m | subscribe o | setVerbosity v => exact List.nil_sublist _

theorem pairwise_ids_published (b : Body) (es : List Traffic) :
    (b.published es).Pairwise fun p q => p.id < q.id := by
  refine List.pairwise_map.mp (?_ : ((b.published es).map (·.id)).Pairwise (· < ·))
  rw [published_ids]
  exact List.pairwise_lt_range'

theorem delivered_first (b : Body) (es : List Traffic) (h : b.bus.pending = []) :
    b.delivered es <+: b.published es := by
  refine ⟨(b.carryAll es).bus.pending, ?_⟩
  rw [delivered_append_pending, h, List.nil_append]

theorem pulse_of_mem_calls {b : Body} {es : List Occasion} {c : Call} (h : c ∈ b.calls es) :
    c.pulse ∈ b.delivered (b.trafficAll es) := by
  induction es generalizing b with
  | nil => cases h
  | cons e es ih =>
    show c.pulse ∈ b.hands (b.traffic e) ++ (b.carry (b.traffic e)).delivered _
    rw [carry_traffic]
    rcases List.mem_append.mp h with h | h
    · refine List.mem_append_left _ ?_
      cases e with
      | advance tick =>
        obtain ⟨p, hp, hc⟩ := List.mem_flatMap.mp h
        rw [Bus.pulse_of_mem_callsWith hc]
        show p ∈ (b.advance tick).bus.inbox
        rw [bus_advance]
        exact List.mem_of_mem_filter hp
      | publish m | subscribe o | setVerbosity v => cases h
    · exact List.mem_append_right _ (ih h)

/-- **The calls of a run follow the pulses, and for one pulse they follow the observers.** -/
theorem calls_before (b : Body) (es : List Occasion)
    (h : (b.delivered (b.trafficAll es)).Pairwise fun p q => p.id < q.id) :
    (b.calls es).Pairwise Call.Before := by
  induction es generalizing b with
  | nil => exact List.Pairwise.nil
  | cons e es ih =>
    have hsplit : b.delivered (b.trafficAll (e :: es))
        = b.hands (b.traffic e) ++ (b.attend e).delivered ((b.attend e).trafficAll es) := by
      show _ ++ (b.carry (b.traffic e)).delivered _ = _
      rw [carry_traffic]
    rw [hsplit] at h
    -- within one advance the observers count, across two the pulses
    obtain ⟨hfirst, hrest, hacross⟩ := List.pairwise_append.mp h
    refine List.pairwise_append.mpr ⟨?_, ih _ hrest, ?_⟩
    · cases e with
      | advance tick =>
        refine Bus.pairwise_calls ?_
        have hinbox : (b.advance tick).bus.inbox.Pairwise fun p q => p.id < q.id := hfirst
        rwa [bus_advance] at hinbox
      | publish m | subscribe o | setVerbosity v => exact List.Pairwise.nil
    · intro c hc d hd
      have hone : c ∈ b.calls [e] := List.mem_append_left [] hc
      have hcall : c.pulse ∈ b.hands (b.traffic e) ++ [] := pulse_of_mem_calls hone
      rw [List.append_nil] at hcall
      exact .inl (hacross _ hcall _ (pulse_of_mem_calls hd))

end Body

/-! ## observers that break down -/

def Bus.sound (b : Bus) : Bus := { b with observers := b.observers.filter (·.works) }

namespace Body

/-- the body without the observers that break down, and without notes -/
def sound (b : Body) : Body := { b with bus := b.bus.sound, journal := [] }

theorem surfaced_sound (b : Bus) :
    b.sound.surfaced = b.surfaced.filter (·.1.works) := by
  unfold Bus.surfaced
  rw [List.filter_flatMap]
  congr 1
  funext p
  rw [List.filter_map]
  rfl

theorem sound_notify (b : Body) (shown : Observer × Pulse) :
    (b.notify shown).sound = if shown.1.works then b.sound.notify shown else b.sound := by
  obtain ⟨o, p⟩ := shown
  cases o with
  | recorder tag => rfl
  | broken reason => rfl
  | console =>
    unfold notify
    dsimp only
    split <;> rfl

theorem sound_foldl_notify (b : Body) (shown : List (Observer × Pulse)) :
    (shown.foldl notify b).sound = (shown.filter (·.1.works)).foldl notify b.sound := by
  induction shown generalizing b with
  | nil => rfl
  | cons s shown ih =>
    rw [List.foldl_cons, ih, sound_notify, List.filter_cons]
    split <;> rfl

theorem sound_attend (b : Body) (e : Occasion) :
    (b.attend e).sound = if e.sound then b.sound.attend e else b.sound := by
  cases e with
  | publish m => rfl
  | advance tick =>
    show ((b.bus.advance tick).surfaced.foldl notify _).sound = _
    rw [sound_foldl_notify, ← surfaced_sound]
    rfl
  | subscribe o =>
    unfold attend sound Bus.sound
    dsimp only
    rw [List.filter_append]
    cases ho : o.works with
    | true => simp [Occasion.sound, ho]
    | false => simp [Occasion.sound, ho]
  | setVerbosity v => rfl

/-- **A run, seen without the observers that break down, is the run in which they never came.** -/
theorem sound_attendAll (b : Body) (es : List Occasion) :
    (b.attendAll es).sound = b.sound.attendAll (es.filter Occasion.sound) := by
  induction es generalizing b with
  | nil => rfl
  | cons e es ih =>
    show ((b.attend e).attendAll es).sound = _
    rw [ih, sound_attend, List.filter_cons]
    split <;> rfl

theorem surfacing_sound (b : Body) (es : List Occasion) :
    b.sound.surfacing (es.filter Occasion.sound) = b.surfacing es := by
  induction es generalizing b with
  | nil => rfl
  | cons e es ih =>
    have hone : b.sound.surfacingAt e = b.surfacingAt e := by
      cases e with
      | advance tick =>
        show (b.sound.advance tick).bus.inbox.filter _ = (b.advance tick).bus.inbox.filter _
        rw [bus_advance, bus_advance]
        rfl
      | publish m | subscribe o | setVerbosity v => rfl
    show _ = b.surfacingAt e ++ (b.attend e).surfacing es
    rw [← ih, sound_attend, ← hone, List.filter_cons]
    split
    · rfl
    · next he =>
      cases e with
      | subscribe o => rfl
      | publish m | advance tick | setVerbosity v => exact absurd rfl he

/-- runs that differ in observers that break down are the same to everybody else -/
theorem sound_attendAll_congr {es fs : List Occasion} (b : Body)
    (h : fs.filter Occasion.sound = es.filter Occasion.sound) :
    (b.attendAll fs).sound = (b.attendAll es).sound := by
  rw [sound_attendAll, sound_attendAll, h]

theorem received_since_congr (b : Body) {before before' after after' : List Occasion}
    (o : Observer) (hbefore : before'.filter Occasion.sound = before.filter Occasion.sound)
    (hafter : after'.filter Occasion.sound = after.filter Occasion.sound) :
    Call.received (b.attendAll before').nextPlace (b.calls (before' ++ .subscribe o :: after'))
      = Call.received (b.attendAll before).nextPlace
          (b.calls (before ++ .subscribe o :: after)) := by
  rw [received_since, received_since, ← surfacing_sound, ← surfacing_sound _ after, sound_attend,
    sound_attend, sound_attendAll_congr b hbefore, hafter]

/-! ## the whole -/

/-- **Every observer sees exactly what the verbosity lets through.**  On a new bus, after any run:
what is kept and noted comes from the calls of observers; who came at some point is called with the
pulses that were delivered since and passed the verbosity in force at their delivery, each once and
in the order of publication; for one pulse the observers are called in the order in which they came;
and a run that differs in the coming of observers that break down is the same to the others, and
leaves the same pulses. -/
theorem observers_see_what_surfaces (b : Body) (capacity : Option Nat) (verbosity : Verbosity)
    (simLevel : SimLevel) (es : List Occasion) :
    let new : Body := { b with bus := { capacity, verbosity, simLevel } }
    let now := new.attendAll es
    let calls := new.calls es
    let traffic := new.trafficAll es
    new.carryAll traffic = now ∧
      now.seen = b.seen ++ calls.filterMap Call.kept? ∧
      now.console = b.console ++ calls.filterMap Call.printed? ∧
      now.journal = b.journal ++ calls.filterMap Call.noted? ∧
      (∀ c ∈ calls, now.bus.observers[c.place]? = some c.observer) ∧
      calls.Pairwise Call.Before ∧
      (∀ before o after, es = before ++ .subscribe o :: after →
        let place := (new.attendAll before).nextPlace
        now.bus.observers[place]? = some o ∧
          Call.received place calls
            = ((new.attendAll before).attend (.subscribe o)).surfacing after ∧
          (Call.received place calls).Sublist (new.published traffic) ∧
          (Call.received place calls).Pairwise (fun p q => p.id < q.id) ∧
          ∀ before' after', before'.filter Occasion.sound = before.filter Occasion.sound →
            after'.filter Occasion.sound = after.filter Occasion.sound →
            Call.received (new.attendAll before').nextPlace
                (new.calls (before' ++ .subscribe o :: after'))
              = Call.received place calls) ∧
      ∀ fs, fs.filter Occasion.sound = es.filter Occasion.sound →
        let other := new.attendAll fs
        other.bus.inbox = now.bus.inbox ∧ other.bus.pending = now.bus.pending ∧
          other.bus.history = now.bus.history ∧ other.seen = now.seen ∧
          other.console = now.console ∧
          other.bus.observers.filter (·.works) = now.bus.observers.filter (·.works) := by
  intro new now calls traffic
  have hprefix : new.delivered traffic <+: new.published traffic := new.delivered_first _ rfl
  have hdelivered : (new.delivered traffic).Pairwise fun p q => p.id < q.id :=
    (new.pairwise_ids_published _).sublist hprefix.sublist
  refine ⟨new.carryAll_trafficAll es, new.seen_attendAll es, new.console_attendAll es,
    new.journal_attendAll es, fun c => observer_of_mem_calls, new.calls_before es hdelivered,
    ?_, ?_⟩
  · rintro before o after rfl
    have hreceived := new.received_since before after o
    have hpublished : (Call.received (new.attendAll before).nextPlace
        (new.calls (before ++ .subscribe o :: after))).Sublist
          (new.published (new.trafficAll (before ++ .subscribe o :: after))) := by
      rw [hreceived]
      refine List.Sublist.trans ?_ ((new.surfacing_sublist _).trans hprefix.sublist)
      rw [surfacing_append]
      exact List.sublist_append_right _ _
    refine ⟨?_, hreceived, hpublished, (new.pairwise_ids_published _).sublist hpublished,
      fun before' after' => new.received_since_congr o⟩
    show (new.attendAll (before ++ .subscribe o :: after)).bus.observers[_]? = some o
    rw [attendAll_append]
    refine getElem?_of_isPrefix (observers_stay _ after) ?_
    exact List.getElem?_concat_length
  · intro fs hfs
    have h := new.sound_attendAll_congr hfs
    exact ⟨congrArg (·.bus.inbox) h, congrArg (·.bus.pending) h, congrArg (·.bus.history) h,
      congrArg (·.seen) h, congrArg (·.console) h, congrArg (·.bus.observers) h⟩

/-- a recorder that comes after an observer that breaks down sees the command, not the heartbeat
before it, and then the heartbeat that is delivered when all is let through -/
theorem observers_see_what_surfaces_tuned :
    let b : Body :=
      { topology := .sample 1, senses := .script (fun _ f => .ok f.nominal) 0
        dice := .scripted [] }
    let new : Body := { b with bus := { capacity := some 2, verbosity := .commands } }
    let sent : List Occasion :=
      [.publish { kind := .heartbeat, source := "core" },
        .publish { kind := .command, source := "core" }]
    let told : List Occasion :=
      [.advance 1, .publish { kind := .heartbeat, source := "core" }, .setVerbosity .all,
        .advance 2]
    let es := (sent ++ [.subscribe (.broken "observer crashed")])
      ++ .subscribe (.recorder "a:") :: told
    let fs := sent ++ .subscribe (.recorder "a:") :: told
    (Call.received 1 (new.calls es)).map (·.id) = [2, 3] ∧
      Call.received 0 (new.calls fs) = Call.received 1 (new.calls es) ∧
      fs.filter Occasion.sound = es.filter Occasion.sound ∧
      (new.attendAll fs).seen = (new.attendAll es).seen := by
  intro b new sent told es fs
  obtain ⟨-, -, -, -, -, -, hcame, hsound⟩ :=
    observers_see_what_surfaces b (some 2) .commands .off es
  obtain ⟨-, hreceived, -, -, hcongr⟩ := hcame _ _ told rfl
  have hfilter : fs.filter Occasion.sound = es.filter Occasion.sound := rfl
  have hids : (Call.received 1 (new.calls es)).map (·.id) = [2, 3] := by
    refine (congrArg (List.map (·.id)) hreceived).trans ?_
    decide +kernel
  obtain ⟨-, -, -, hseen, -⟩ := hsound fs hfilter
  exact ⟨hids, hcongr sent told rfl rfl, hfilter, hseen⟩

end Body
end Organism
