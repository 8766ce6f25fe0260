import Organism.Proofs.Body.Act
import Organism.Scheduler
import Mathlib.Data.List.Pairwise

/-!
# The queue, request by request

When the queue is drained, the requests that wait and were not withdrawn are carried out one after
the other.  A handling is the record of one of them.

* `Handling`, `Queue.handlings`   one request carried out, and several in a row;
* `Queue.Served`                  what it means that handlings took place one after the other;
* `Queue.live`                    what waits and was not withdrawn;
* `drain_eq`                      **draining is handling what is live, in order**;
* `keeps_drain`                   what no request ends, draining does not end;
* `Queue.Tracks`                  the tickets agree with all handlings so far: the invariant of the
                                  queue, with one lemma for every operation on it;
-/

namespace Organism

/-! ## handlings -/

/-- one request carried out: the body before, what came of it, and the body after -/
structure Handling where
  id : Nat
  request : Request
  before : Body
  outcome : Except Fault CommandResult
  after : Body

namespace Handling

def ticket (h : Handling) : Ticket :=
  match h.outcome with
  | .ok result => .done result
  | .error e => .crashed e

/-- the body that the next request meets: a crash is noted first -/
def next (h : Handling) : Body :=
  match h.outcome with
  | .ok _ => h.after
  | .error e =>
    h.after.note .error .daemons s!"Command {h.request.operation.label} crashed: {e.message}"

def pulses (h : Handling) : List Pulse := h.after.bus.pending.drop h.before.bus.pending.length

end Handling

namespace Ticket

def isDone : Ticket → Bool
  | done _ => true
  | _ => false

/-- the request was carried out, with whatever outcome -/
def isResolved : Ticket → Bool
  | done _ | crashed _ => true
  | _ => false

end Ticket

namespace Handling

theorem isResolved_ticket (h : Handling) : h.ticket.isResolved = true := by
  unfold ticket
  split <;> rfl

theorem isDone_ticket (h : Handling) : h.ticket.isDone = h.outcome.isOk := by
  unfold ticket
  split
  · next r hr => rw [hr]; rfl
  · next e he => rw [he]; rfl

end Handling

namespace Queue

variable (handle : Request → Act CommandResult)

def handling (w : Nat × Request) (b : Body) : Handling where
  id := w.1
  request := w.2
  before := b
  outcome := ((handle w.2).run b).1
  after := ((handle w.2).run b).2

def handlings : List (Nat × Request) → Body → List Handling
  | [], _ => []
  | w :: ws, b => handling handle w b :: handlings ws (handling handle w b).next

/-- the handlings took place one after the other, and led from one body to another -/
inductive Served : Body → List Handling → Body → Prop
  | nil (b : Body) : Served b [] b
  | cons {h : Handling} {hs : List Handling} {b : Body} :
    (handle h.request).run h.before = (h.outcome, h.after) → Served h.next hs b →
      Served h.before (h :: hs) b

def bodyAfter (b : Body) (hs : List Handling) : Body := hs.foldl (fun _ h => h.next) b

theorem served_handlings (ws : List (Nat × Request)) (b : Body) :
    Served handle b (handlings handle ws b) (bodyAfter b (handlings handle ws b)) := by
  induction ws generalizing b with
  | nil => exact .nil b
  | cons w ws ih => exact Served.cons (h := handling handle w b) rfl (ih _)

theorem map_handlings (ws : List (Nat × Request)) (b : Body) :
    (handlings handle ws b).map (fun h => (h.id, h.request)) = ws := by
  induction ws generalizing b with
  | nil => rfl
  | cons w ws ih => exact congrArg (w :: ·) (ih _)

variable {handle} in
theorem run_of_mem_handlings {ws : List (Nat × Request)} {b : Body} {h : Handling}
    (hh : h ∈ handlings handle ws b) :
    (handle h.request).run h.before = (h.outcome, h.after) := by
  induction ws generalizing b with
  | nil => cases hh
  | cons w ws ih =>
    rcases List.mem_cons.mp hh with rfl | hh
    · rfl
    · exact ih hh

theorem bodyAfter_congr {ws vs : List (Nat × Request)} (h : ws.map Prod.snd = vs.map Prod.snd)
    (b : Body) :
    bodyAfter b (handlings handle ws b) = bodyAfter b (handlings handle vs b) := by
  induction ws generalizing vs b with
  | nil =>
    obtain rfl : vs = [] := List.map_eq_nil_iff.mp h.symm
    rfl
  | cons w ws ih =>
    obtain ⟨v, vs, rfl⟩ : ∃ v vs', vs = v :: vs' := by
      cases vs with
      | nil => cases h
      | cons v vs => exact ⟨v, vs, rfl⟩
    obtain ⟨hw, hws⟩ := List.cons.inj h
    have hnext : (handling handle w b).next = (handling handle v b).next := by
      unfold handling
      rw [hw]
      rfl
    show bodyAfter (handling handle w b).next _ = bodyAfter (handling handle v b).next _
    rw [hnext]
    exact ih hws _

/-! ## draining -/

/-- what waits and was not withdrawn -/
def live (q : Queue) : List (Nat × Request) := q.waiting.filter fun w => !q.isCancelled w.1

def record (q : Queue) (h : Handling) : Queue :=
  { q with
    tickets := q.tickets.set h.id h.ticket
    executed := q.executed + h.outcome.isOk.toNat }

theorem serve_eq (q : Queue) (id : Nat) (r : Request) (b : Body) :
    serve handle q id r b
      = (q.record (handling handle (id, r) b), (handling handle (id, r) b).next) := by
  unfold serve record Handling.next Handling.ticket handling
  dsimp only
  rcases (handle r).run b with ⟨e | x, b'⟩ <;> rfl

variable {handle} in
/-- a request with the same outcome on two bodies leaves the same queue, and what relates the bodies
whatever is noted relates those after it -/
theorem serve_related {R : Body → Body → Prop}
    (hnote : ∀ b c level source text, R b c →
      R (b.note level source text) (c.note level source text))
    (q : Queue) (id : Nat) {r : Request} {b c : Body}
    (ho : ((handle r).run c).1 = ((handle r).run b).1)
    (h : R ((handle r).run b).2 ((handle r).run c).2) :
    (serve handle q id r c).1 = (serve handle q id r b).1 ∧
      R (serve handle q id r b).2 (serve handle q id r c).2 := by
  unfold serve
  generalize (handle r).run b = x at ho h ⊢
  generalize (handle r).run c = y at ho h ⊢
  obtain ⟨o, b'⟩ := x
  obtain ⟨o', c'⟩ := y
  obtain rfl : o' = o := ho
  cases o' with
  | ok result => exact ⟨rfl, h⟩
  | error e => exact ⟨rfl, hnote _ _ _ _ _ h⟩

theorem outcome?_record (q : Queue) (h : Handling) {id : Nat} (hid : id ≠ h.id) :
    (q.record h).outcome? id = q.outcome? id := List.getElem?_set_ne (Ne.symm hid)

theorem outcome?_record_self (q : Queue) (h : Handling) (hq : h.id < q.tickets.length) :
    (q.record h).outcome? h.id = some h.ticket := by
  unfold outcome? record
  exact List.getElem?_set_self hq

theorem isCancelled_iff (q : Queue) (id : Nat) :
    q.isCancelled id = true ↔ q.outcome? id = some .cancelled := by
  unfold isCancelled
  split
  · next h => exact ⟨fun _ => h, fun _ => rfl⟩
  · next h => exact ⟨fun hf => (by cases hf), fun hc => absurd hc h⟩

theorem isCancelled_record {q : Queue} {h : Handling} (hc : q.isCancelled h.id = false)
    (id : Nat) : (q.record h).isCancelled id = q.isCancelled id := by
  by_cases hid : id = h.id
  · subst hid
    rw [hc]
    rw [Bool.eq_false_iff, Ne, isCancelled_iff]
    intro hr
    by_cases hl : h.id < q.tickets.length
    · rw [outcome?_record_self q h hl] at hr
      have hres := h.isResolved_ticket
      rw [Option.some.inj hr] at hres
      cases hres
    · have hn : (q.record h).outcome? h.id = none := by
        refine List.getElem?_eq_none ?_
        show (q.tickets.set _ _).length ≤ _
        rw [List.length_set]
        omega
      rw [hn] at hr
      cases hr
  · unfold isCancelled
    rw [outcome?_record q h hid]

theorem serveAll_eq (ws : List (Nat × Request)) (q : Queue) (b : Body) :
    serveAll handle ws q b =
      let hs := handlings handle (ws.filter fun w => !q.isCancelled w.1) b
      (hs.foldl record q, bodyAfter b hs) := by
  induction ws generalizing q b with
  | nil => rfl
  | cons w ws ih =>
    obtain ⟨id, r⟩ := w
    unfold serveAll
    cases hc : q.isCancelled id with
    | true =>
      rw [if_pos rfl, ih, List.filter_cons_of_neg]
      rw [hc]
      decide
    | false =>
      have hp : (!q.isCancelled id) = true := by
        rw [hc]
        rfl
      have hf : (fun w : Nat × Request => !(q.record (handling handle (id, r) b)).isCancelled w.1)
          = fun w => !q.isCancelled w.1 := by
        funext w
        rw [isCancelled_record hc]
      rw [if_neg Bool.false_ne_true, serve_eq,
        List.filter_cons_of_pos (p := fun w => !q.isCancelled w.1) (a := (id, r)) hp]
      dsimp only
      rw [ih, hf]
      rfl

/-- **Draining is handling what is live, in order.** -/
theorem drain_eq (q : Queue) (b : Body) :
    q.drain handle b =
      let hs := handlings handle q.live b
      (hs.foldl record { q with waiting := [] }, bodyAfter b hs) :=
  serveAll_eq handle q.waiting _ b

variable {handle} in
theorem keeps_drain {P : Body → Prop} {q : Queue}
    (hP : ∀ w ∈ q.live, Act.Keeps P (handle w.2))
    (hnote : ∀ b level source text, P b → P (b.note level source text)) {b : Body} (hb : P b) :
    P (q.drain handle b).2 := by
  rw [drain_eq]
  dsimp only
  generalize q.live = ws at hP
  induction ws generalizing b with
  | nil => exact hb
  | cons w ws ih =>
    obtain ⟨hw, hws⟩ := List.forall_mem_cons.mp hP
    have hafter : P (handling handle w b).after := hw.body hb
    refine ih (b := (handling handle w b).next) ?_ hws
    unfold Handling.next
    split
    · exact hafter
    · exact hnote _ _ _ _ hafter

theorem waiting_foldl_record (q : Queue) (hs : List Handling) :
    (hs.foldl record q).waiting = q.waiting := by
  induction hs generalizing q with
  | nil => rfl
  | cons h hs ih => exact ih (q.record h)

theorem length_foldl_record (q : Queue) (hs : List Handling) :
    (hs.foldl record q).tickets.length = q.tickets.length := by
  induction hs generalizing q with
  | nil => rfl
  | cons h hs ih => exact (ih (q.record h)).trans List.length_set

/-! ## withdrawal -/

theorem waiting_cancel (q : Queue) (id : Nat) : (q.cancel id).1.waiting = q.waiting := by
  unfold cancel
  split <;> rfl

theorem length_tickets_cancel (q : Queue) (id : Nat) :
    (q.cancel id).1.tickets.length = q.tickets.length := by
  unfold cancel
  split
  · exact List.length_set
  · rfl
  · rfl

theorem outcome?_submit (q : Queue) (r : Request) (id : Nat) :
    (q.submit r).1.outcome? id
      = if id = q.tickets.length then some .waiting else q.outcome? id := by
  show (q.tickets ++ [.waiting])[id]? = _
  split
  · next h =>
    subst h
    exact List.getElem?_concat_length
  · next h =>
    rcases Nat.lt_or_gt_of_ne h with hlt | hgt
    · exact List.getElem?_append_left hlt
    · have hn : q.outcome? id = none := List.getElem?_eq_none (Nat.le_of_lt hgt)
      rw [hn]
      refine List.getElem?_eq_none ?_
      rw [List.length_append, List.length_singleton]
      exact hgt

theorem length_tickets_submit (q : Queue) (r : Request) :
    (q.submit r).1.tickets.length = q.tickets.length + 1 := List.length_append

theorem isCancelled_submit (q : Queue) (r : Request) (id : Nat) :
    (q.submit r).1.isCancelled id = q.isCancelled id := by
  unfold isCancelled
  rw [outcome?_submit]
  by_cases h : id = q.tickets.length
  · have hn : q.outcome? id = none := List.getElem?_eq_none (Nat.le_of_eq h.symm)
    rw [if_pos h, hn]
  · rw [if_neg h]

theorem isCancelled_cancel (q : Queue) (id i : Nat) :
    (q.cancel id).1.isCancelled i = (q.isCancelled i || (i == id && (q.cancel id).2)) := by
  unfold cancel
  split
  · next hw =>
    dsimp only
    rw [Bool.and_true]
    by_cases hi : i = id
    · subst hi
      rw [beq_self_eq_true, Bool.or_true, isCancelled_iff]
      exact List.getElem?_set_self (List.getElem?_eq_some_iff.mp hw).1
    · rw [beq_eq_false_iff_ne.mpr hi, Bool.or_false]
      unfold isCancelled
      rw [show Queue.outcome? { q with tickets := q.tickets.set id .cancelled } i = q.outcome? i
        from List.getElem?_set_ne (Ne.symm hi)]
  · next hc =>
    dsimp only
    rw [Bool.and_true]
    by_cases hi : i = id
    · subst hi
      rw [(q.isCancelled_iff i).mpr hc]
      rfl
    · rw [beq_eq_false_iff_ne.mpr hi, Bool.or_false]
  · rw [Bool.and_false, Bool.or_false]

theorem isCancelled_foldl_record {q : Queue} {hs : List Handling}
    (h : ∀ h ∈ hs, q.isCancelled h.id = false) (id : Nat) :
    (hs.foldl record q).isCancelled id = q.isCancelled id := by
  induction hs generalizing q with
  | nil => rfl
  | cons h' hs ih =>
    obtain ⟨h', hs⟩ := List.forall_mem_cons.mp h
    rw [List.foldl_cons, ih, isCancelled_record h']
    intro h hh
    rw [isCancelled_record h']
    exact hs h hh

theorem isCancelled_drain (q : Queue) (b : Body) (id : Nat) :
    (q.drain handle b).1.isCancelled id = q.isCancelled id := by
  rw [drain_eq]
  refine isCancelled_foldl_record (q := { q with waiting := [] }) (fun h hh => ?_) id
  have hmem : (h.id, h.request) ∈ q.live := by
    rw [← map_handlings handle q.live b]
    exact List.mem_map_of_mem (f := fun h => (h.id, h.request)) hh
  have hc := (List.mem_filter.mp hmem).2
  rwa [Bool.not_eq_true'] at hc

theorem live_submit (q : Queue) (r : Request) :
    (q.submit r).1.live = q.live ++ [(q.tickets.length, r)] := by
  have hnew : q.isCancelled q.tickets.length = false := by
    unfold isCancelled
    rw [show q.outcome? q.tickets.length = none from List.getElem?_eq_none (Nat.le_refl _)]
  show (q.waiting ++ [(q.tickets.length, r)]).filter _ = _
  rw [List.filter_append]
  congr 1
  · refine List.filter_congr fun w _ => ?_
    rw [isCancelled_submit]
  · refine List.filter_cons_of_pos ?_
    rw [isCancelled_submit, hnew]
    rfl

/-! ## tickets -/

theorem countP_set_waiting {ts : List Ticket} {id : Nat} (h : ts[id]? = some .waiting)
    (t : Ticket) :
    (ts.set id t).countP Ticket.isDone = ts.countP Ticket.isDone + t.isDone.toNat := by
  obtain ⟨hl, hw⟩ := List.getElem?_eq_some_iff.mp h
  rw [List.countP_set hl, hw]
  cases t <;> rfl

/-- the tickets agree with all handlings so far and with what still waits -/
structure Tracks (q : Queue) (ws : List (Nat × Request)) (log : List Handling) : Prop where
  /-- numbers rise from the first handling to the last request that waits -/
  order : (log.map (·.id) ++ ws.map (·.1)).Pairwise (· < ·)
  /-- what waits is open, or was withdrawn -/
  held : ∀ w ∈ ws, q.outcome? w.1 = some .waiting ∨ q.outcome? w.1 = some .cancelled
  /-- what was handled has its outcome on its ticket -/
  done : ∀ h ∈ log, q.outcome? h.id = some h.ticket
  /-- no other ticket has an outcome -/
  only : ∀ id x, q.outcome? id = some x → x.isResolved = true → ∃ h ∈ log, h.id = id
  executed : q.executed = log.countP (·.outcome.isOk)
  results : q.tickets.countP Ticket.isDone = q.executed

theorem tracks_nil : Tracks {} [] [] where
  order := List.Pairwise.nil
  held := by
    intro w hw
    cases hw
  done := by
    intro h hh
    cases hh
  only := by
    intro id x hx
    cases hx
  executed := rfl
  results := rfl

namespace Tracks

variable {handle} {q : Queue} {w : Nat × Request} {ws vs : List (Nat × Request)}
  {log : List Handling}

theorem sublist (h : Tracks q ws log) (hv : vs.Sublist ws) : Tracks q vs log :=
  ⟨h.order.sublist ((List.Sublist.refl _).append (hv.map _)), fun w hw => h.held w (hv.subset hw),
    h.done, h.only, h.executed, h.results⟩

theorem of_tickets {q' : Queue} (h : Tracks q ws log) (htickets : q'.tickets = q.tickets)
    (hexecuted : q'.executed = q.executed) : Tracks q' ws log := by
  have ho : q'.outcome? = q.outcome? := by
    unfold outcome?
    rw [htickets]
  exact ⟨h.order, ho ▸ h.held, ho ▸ h.done, ho ▸ h.only, hexecuted ▸ h.executed,
    by rw [htickets, hexecuted, h.results]⟩

theorem ne_of_waiting (ht : Tracks q ws log) {id : Nat} (hw : q.outcome? id = some .waiting)
    {h : Handling} (hh : h ∈ log) : h.id ≠ id := by
  rintro rfl
  have hr := h.isResolved_ticket
  rw [ht.done h hh] at hw
  rw [Option.some.inj hw] at hr
  cases hr

theorem record (ht : Tracks q (w :: ws) log) {h : Handling} (hid : h.id = w.1)
    (hw : q.outcome? w.1 = some .waiting) : Tracks (q.record h) ws (log ++ [h]) := by
  rw [← hid] at hw
  have hl : h.id < q.tickets.length := (List.getElem?_eq_some_iff.mp hw).1
  have hws : ∀ v ∈ ws, v.1 ≠ h.id := by
    intro v hv
    have ho := (List.pairwise_append.mp ht.order).2.1
    rw [List.map_cons, List.pairwise_cons] at ho
    have := ho.1 v.1 (List.mem_map_of_mem hv)
    omega
  refine ⟨?_, ?_, ?_, ?_, ?_, ?_⟩
  · have ho := ht.order
    rw [List.map_cons, ← hid, ← List.singleton_append, ← List.append_assoc] at ho
    rw [List.map_append, List.map_singleton]
    exact ho
  · intro v hv
    rw [outcome?_record q h (hws v hv)]
    exact ht.held v (List.mem_cons_of_mem _ hv)
  · intro h' hh'
    rcases List.mem_append.mp hh' with hold | hnew
    · rw [outcome?_record q h (ht.ne_of_waiting hw hold)]
      exact ht.done h' hold
    · obtain rfl := List.mem_singleton.mp hnew
      exact outcome?_record_self q h' hl
  · intro id x hx hr
    by_cases he : id = h.id
    · exact ⟨h, List.mem_append_right _ (List.mem_singleton_self h), he.symm⟩
    · rw [outcome?_record q h he] at hx
      obtain ⟨h', hh', hi⟩ := ht.only id x hx hr
      exact ⟨h', List.mem_append_left _ hh', hi⟩
  · show q.executed + _ = _
    rw [List.countP_append, List.countP_singleton, ht.executed]
    cases h.outcome.isOk <;> rfl
  · show (q.tickets.set h.id h.ticket).countP _ = q.executed + _
    rw [countP_set_waiting hw, ht.results, h.isDone_ticket]

theorem record_handlings (b : Body) (ht : Tracks q ws log)
    (hws : ∀ w ∈ ws, q.outcome? w.1 = some .waiting) :
    Tracks ((handlings handle ws b).foldl Queue.record q) [] (log ++ handlings handle ws b) := by
  induction ws generalizing q b log with
  | nil =>
    rw [show handlings handle [] b = [] from rfl, List.append_nil]
    exact ht
  | cons w ws ih =>
    obtain ⟨hw, hws⟩ := List.forall_mem_cons.mp hws
    have ht' := ht.record (h := handling handle w b) rfl hw
    have hopen : ∀ v ∈ ws, (q.record (handling handle w b)).outcome? v.1 = some .waiting := by
      intro v hv
      have ho := (List.pairwise_append.mp ht.order).2.1
      rw [List.map_cons, List.pairwise_cons] at ho
      have hlt := ho.1 v.1 (List.mem_map_of_mem hv)
      rw [outcome?_record q _ (Nat.ne_of_gt hlt)]
      exact hws v hv
    have := ih (handling handle w b).next ht' hopen
    rwa [List.append_assoc, List.singleton_append] at this

/-- **Draining the queue handles all that is live**, and the tickets agree with that. -/
theorem drain (b : Body) (ht : Tracks q q.waiting log) :
    Tracks (q.drain handle b).1 (q.drain handle b).1.waiting
      (log ++ handlings handle q.live b) := by
  have hlive : Tracks { q with waiting := [] } q.live log :=
    (ht.sublist List.filter_sublist).of_tickets rfl rfl
  have hopen : ∀ w ∈ q.live, q.outcome? w.1 = some .waiting := by
    intro w hw
    obtain ⟨hw, hc⟩ := List.mem_filter.mp hw
    refine (ht.held w hw).resolve_right fun h => ?_
    rw [(q.isCancelled_iff w.1).mpr h] at hc
    cases hc
  rw [drain_eq]
  dsimp only
  rw [waiting_foldl_record]
  exact hlive.record_handlings b hopen

theorem submit (ht : Tracks q ws log) (r : Request) :
    Tracks (q.submit r).1 (ws ++ [(q.tickets.length, r)]) log := by
  have hlt : ∀ {id x}, q.outcome? id = some x → id < q.tickets.length :=
    fun h => (List.getElem?_eq_some_iff.mp h).1
  have hkeep : ∀ {id x}, q.outcome? id = some x → (q.submit r).1.outcome? id = some x := by
    intro id x h
    rw [outcome?_submit, if_neg (Nat.ne_of_lt (hlt h)), h]
  refine ⟨?_, ?_, fun h hh => hkeep (ht.done h hh), ?_, ht.executed, ?_⟩
  -- the number of the new request is greater than all numbers so far, as these have tickets
  · rw [List.map_append, ← List.append_assoc, List.pairwise_append]
    refine ⟨ht.order, List.pairwise_singleton _ _, fun id hid n hn => ?_⟩
    obtain rfl := List.mem_singleton.mp hn
    rcases List.mem_append.mp hid with hid | hid
    · obtain ⟨h, hh, rfl⟩ := List.mem_map.mp hid
      exact hlt (ht.done h hh)
    · obtain ⟨w, hw, rfl⟩ := List.mem_map.mp hid
      exact (ht.held w hw).elim hlt hlt
  · intro w hw
    rcases List.mem_append.mp hw with hw | hw
    · exact (ht.held w hw).imp hkeep hkeep
    · obtain rfl := List.mem_singleton.mp hw
      rw [outcome?_submit, if_pos rfl]
      exact .inl rfl
  · intro id x hx hr
    rw [outcome?_submit] at hx
    split at hx
    · cases hx
      cases hr
    · exact ht.only id x hx hr
  · show (q.tickets ++ [Ticket.waiting]).countP _ = q.executed
    rw [List.countP_append, ht.results]
    rfl

theorem cancel (ht : Tracks q ws log) (id : Nat) : Tracks (q.cancel id).1 ws log := by
  unfold Queue.cancel
  split
  · next hw =>
    have hset : ∀ {i}, i ≠ id →
        Queue.outcome? { q with tickets := q.tickets.set id .cancelled } i = q.outcome? i :=
      fun hi => List.getElem?_set_ne (Ne.symm hi)
    have hself : Queue.outcome? { q with tickets := q.tickets.set id .cancelled } id
        = some .cancelled := List.getElem?_set_self (List.getElem?_eq_some_iff.mp hw).1
    refine ⟨ht.order, ?_, ?_, ?_, ht.executed, ?_⟩
    · intro w hw
      by_cases hi : w.1 = id
      · rw [hi]
        exact .inr hself
      · rw [hset hi]
        exact ht.held w hw
    · intro h hh
      rw [hset (ht.ne_of_waiting hw hh)]
      exact ht.done h hh
    · intro i x hx hr
      by_cases hi : i = id
      · rw [hi, hself] at hx
        cases hx
        cases hr
      · rw [hset hi] at hx
        exact ht.only i x hx hr
    · show (q.tickets.set id .cancelled).countP _ = q.executed
      rw [countP_set_waiting hw, ht.results]
      rfl
  · exact ht
  · exact ht

theorem live_cancel (ht : Tracks q q.waiting log) (id : Nat) :
    (q.cancel id).1.live = q.live.filter fun w => w.1 != id := by
  unfold live
  rw [waiting_cancel, List.filter_filter]
  refine List.filter_congr fun w hw => ?_
  rw [isCancelled_cancel]
  by_cases hi : w.1 = id
  · have hflag : (q.cancel id).2 = true := by
      unfold Queue.cancel
      rcases ht.held w hw with h | h <;> rw [← hi, h]
    rw [hflag, hi, beq_self_eq_true, bne_self_eq_false, Bool.and_true, Bool.or_true]
    rfl
  · rw [beq_eq_false_iff_ne.mpr hi, bne_iff_ne.mpr hi, Bool.false_and, Bool.or_false,
      Bool.true_and]

end Tracks

end Queue
end Organism
