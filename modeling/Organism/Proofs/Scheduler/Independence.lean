import Organism.Proofs.Command.Independence
import Organism.Proofs.Scheduler.Turns

/-!
# Requests in a row

Requests are submitted in batches, each of which is carried out in one tick.  The daemons leave the
healths alone meanwhile.

* `Scheduler.Undisturbed`     the daemons of a tick leave the healths as they are;
* `Queue.chain_handlings`     what is known of each request, of all that are carried out in a row;
* `chain_callAll`             the same of all batches, tick by tick;
* `requests_independent`      **each health depends on the requests for its organ alone**.
-/

namespace Organism

attribute [local instance] Rounding.binary64

variable {R : List Request → Body → Body → Prop}

/-- a relation between the bodies before some requests and after them, which can be put together and
does not depend on notes -/
structure Chained (R : List Request → Body → Body → Prop) : Prop where
  nil : ∀ b, R [] b b
  append : ∀ {rs rs' b b' c}, R rs b b' → R rs' b' c → R (rs ++ rs') b c
  note : ∀ {rs b c} level source text, R rs b c → R rs b (c.note level source text)

theorem Body.chained_turned : Chained Body.Turned where
  nil _ := turned_nil fun _ => rfl
  append h h' := h.trans h'
  note _ _ _ h := h

theorem Body.chained_updated : Chained Body.Updated where
  nil _ := updated_nil (fun _ => rfl) rfl
  append h h' := h.trans h'
  note {_ _ c} _ _ _ h :=
    ⟨h.whole, fun hw hb => narrow_aware c _ rfl rfl rfl (h.aware hw hb), h.still⟩

theorem Queue.chain_handlings {handle : Request → Act CommandResult} (hR : Chained R)
    {ws : List (Nat × Request)} (hws : ∀ w ∈ ws, ∀ b, R [w.2] b ((handle w.2).run b).2) (b : Body) :
    R (ws.map (·.2)) b (bodyAfter b (handlings handle ws b)) := by
  induction ws generalizing b with
  | nil => exact hR.nil b
  | cons w ws ih =>
    obtain ⟨hw, hws⟩ := List.forall_mem_cons.mp hws
    have hnext : R [w.2] b (handling handle w b).next := by
      unfold Handling.next
      split
      · exact hw b
      · exact hR.note _ _ _ (hw b)
    exact hR.append hnext (ih hws _)

namespace Scheduler

variable {s : Scheduler}

/-- the daemons that are due in the next tick leave all healths as they are -/
def Undisturbed (s : Scheduler) : Prop :=
  ∀ k, s.beforeCommands.topology.health? k = s.body.topology.health? k

theorem called_submit (s : Scheduler) (rs : List Request) (calls : List Call) :
    s.called (rs.map .submit ++ calls) = (s.callAll (rs.map .submit)).called calls := by
  induction rs generalizing s with
  | nil => rfl
  | cons r rs ih => exact ih (s.submit r).1

/-- **What is known of each request and of the daemons of each tick, of all batches.** -/
theorem chain_callAll (hR : Chained R) {batches : List (List Request)} (hq : s.queue.live = [])
    (hr : ∀ r ∈ batches.flatten, ∀ setup b, R [r] b ((Command.handle setup r).run b).2)
    (hu : ∀ u ∈ s.called (Call.firm batches), R [] u.body u.beforeCommands) :
    R batches.flatten s.body (s.callAll (Call.firm batches)).body := by
  induction batches generalizing s with
  | nil => exact hR.nil s.body
  | cons rs batches ih =>
    obtain ⟨q, hsubmit, hlive⟩ := s.callAll_submit rs
    rw [hq, List.map_nil, List.nil_append] at hlive
    let u : Scheduler := { s with queue := q }
    have hcalls : Call.firm (rs :: batches) = rs.map .submit ++ (.step :: Call.firm batches) := by
      show rs.map .submit ++ [.step] ++ Call.firm batches = _
      rw [List.append_assoc]
      rfl
    have hcalled : s.called (Call.firm (rs :: batches)) =
        u :: u.step.called (Call.firm batches) := by
      rw [hcalls, called_submit, hsubmit]
      rfl
    have hafter : s.callAll (Call.firm (rs :: batches)) =
        u.step.callAll (Call.firm batches) := by
      rw [hcalls, callAll_append, hsubmit]
      rfl
    rw [hcalled] at hu
    obtain ⟨hdaemons, hu⟩ := List.forall_mem_cons.mp hu
    rw [List.flatten_cons] at hr ⊢
    obtain ⟨hrs, hr⟩ := List.forall_mem_append.mp hr
    have hbatch : R rs u.beforeCommands u.step.body := by
      rw [body_step_eq]
      have hws : ∀ w ∈ u.queue.live, ∀ b, R [w.2] b ((Command.handle u.setup w.2).run b).2 :=
        fun w hw b => hrs w.2 (hlive ▸ List.mem_map_of_mem hw) u.setup b
      have hchain := Queue.chain_handlings hR hws u.beforeCommands
      rw [show u.queue.live.map (·.2) = rs from hlive] at hchain
      exact hchain
    rw [hafter]
    exact hR.append (hR.append hdaemons hbatch) (ih (live_step u) hr hu)

theorem foldl_turn (k : OrganKind) (rs : List Request) (h : Number) :
    rs.foldl (Request.turn k) h =
      (rs.filter (Request.concerns k)).foldl (fun h r => r.alter h) h :=
  List.foldl_filter.symm

/-- **Requests for different organs do not interact.**  All organs are there, nothing waits, and
requests of any kind but loads are submitted in batches, while the daemons leave the healths as they
are.  Then the health of each organ is in the end what the requests for damage and recovery of this
organ make of it one after the other; and another order of the requests, in other batches, in which
those for each organ come in the same order, leads to the same healths, and also to the same
awareness, be it up to date from the start or not touched by the daemons. -/
theorem requests_independent (hw : s.body.topology.Whole) (hq : s.queue.live = [])
    {batches : List (List Request)} (hr : ∀ r ∈ batches.flatten, r.Gentle)
    (hu : ∀ u ∈ s.called (Call.firm batches), u.Undisturbed) :
    let final := (s.callAll (Call.firm batches)).body
    (∀ k, final.topology.health? k = (s.body.topology.health? k).map fun h =>
      (batches.flatten.filter (Request.concerns k)).foldl (fun h r => r.alter h) h) ∧
    ∀ batches' : List (List Request), batches'.flatten.Perm batches.flatten →
      (∀ k, batches'.flatten.filter (Request.concerns k) =
        batches.flatten.filter (Request.concerns k)) →
      (∀ u ∈ s.called (Call.firm batches'), u.Undisturbed) →
      let final' := (s.callAll (Call.firm batches')).body
      (∀ k, final'.topology.health? k = final.topology.health? k) ∧
      ((s.Coherent ∨ ∀ u ∈ s.called (Call.firm batches) ++ s.called (Call.firm batches'),
          u.beforeCommands.bus.awareness = u.body.bus.awareness) →
        final'.bus.awareness = final.bus.awareness) := by
  have hturned : ∀ {bs : List (List Request)}, (∀ r ∈ bs.flatten, r.Gentle) →
      (∀ u ∈ s.called (Call.firm bs), u.Undisturbed) →
      s.body.Turned bs.flatten (s.callAll (Call.firm bs)).body := fun hr hu =>
    chain_callAll Body.chained_turned hq
      (fun r hmem setup b => Command.turned_handle setup (hr r hmem) b)
      fun u hmem => Body.turned_nil (hu u hmem)
  have hupdated : ∀ {bs : List (List Request)}, (∀ r ∈ bs.flatten, r.Gentle) →
      (∀ u ∈ s.called (Call.firm bs), u.Undisturbed) →
      (∀ u ∈ s.called (Call.firm bs), u.beforeCommands.bus.awareness = u.body.bus.awareness) →
      s.body.Updated bs.flatten (s.callAll (Call.firm bs)).body := fun hr hu ha =>
    chain_callAll Body.chained_updated hq
      (fun r hmem setup b => Command.updated_handle setup (hr r hmem) b)
      fun u hmem => Body.updated_nil (hu u hmem) (ha u hmem)
  intro final
  obtain ⟨hwhole, hfinal⟩ := hturned hr hu hw
  have hhealth : ∀ k, final.topology.health? k = (s.body.topology.health? k).map fun h =>
      (batches.flatten.filter (Request.concerns k)).foldl (fun h r => r.alter h) h := by
    intro k
    rw [hfinal k]
    exact congrArg (fun f => Option.map f _) (funext fun h => foldl_turn k _ h)
  refine ⟨hhealth, fun batches' hperm hfilter hu' => ?_⟩
  intro final'
  have hr' : ∀ r ∈ batches'.flatten, r.Gentle := fun r hmem => hr r (hperm.mem_iff.mp hmem)
  obtain ⟨-, hfinal'⟩ := hturned hr' hu' hw
  have hsame : ∀ k, final'.topology.health? k = final.topology.health? k := by
    intro k
    rw [hfinal' k, hhealth k]
    refine congrArg (fun f => Option.map f _) (funext fun h => ?_)
    rw [foldl_turn, hfilter]
  have haware : final.Aware → final'.Aware → final'.bus.awareness = final.bus.awareness := by
    intro h h'
    have heq := Topology.awareness_congr hwhole hsame
    rw [h.aware, h'.aware] at heq
    exact Except.ok.inj heq
  refine ⟨hsame, fun hcase => ?_⟩
  rcases hcase with hcoherent | hkept
  · exact haware (hcoherent.applyAll _).body.isAware (hcoherent.applyAll _).body.isAware
  · obtain ⟨hkept, hkept'⟩ := List.forall_mem_append.mp hkept
    have h := hupdated hr hu hkept
    have h' := hupdated hr' hu' hkept'
    by_cases hany : ∃ r ∈ batches.flatten, r.refreshes = true
    · have hany' : ∃ r ∈ batches'.flatten, r.refreshes = true := by
        obtain ⟨r, hmem, hrefresh⟩ := hany
        exact ⟨r, hperm.mem_iff.mpr hmem, hrefresh⟩
      exact haware (h.aware hw (.inr hany)) (h'.aware hw (.inr hany'))
    · have hnone : ∀ r ∈ batches.flatten, r.refreshes = false := fun r hmem =>
        Bool.eq_false_iff.mpr fun hrefresh => hany ⟨r, hmem, hrefresh⟩
      exact (h'.still fun r hmem => hnone r (hperm.mem_iff.mp hmem)).trans (h.still hnone).symm

theorem undisturbed_of_due (h : s.due = []) : s.Undisturbed := by
  have hbefore : s.beforeCommands = s.opened := by
    unfold beforeCommands
    rw [h]
    rfl
  intro k
  rw [hbefore, Body.topology_of_core (core_opened s)]

/-- two organs, one of which is damaged beyond 0 before it recovers, in two ticks or in one -/
theorem requests_independent_organs :
    let s : Scheduler :=
      { setup := ⟨.standard, .standard, .ofString "state", true⟩
        body :=
          { topology := .sample 1, senses := .script (fun _ f => .ok f.nominal) 0
            dice := .scripted [] }
        daemons := []
        snapshot := .take (.sample 1) {} 0
        tickInterval := .none }
    let hurt : Request :=
      { operation := .damage, organ := some .cortex, amount := some (.finite 2) }
    let heal : Request :=
      { operation := .heal, organ := some .cortex, amount := some (.finite (-1 / 4)) }
    let other : Request :=
      { operation := .damage, organ := some .memory, amount := some (.finite (1 / 2)) }
    let batches := [[hurt, other], [heal]]
    let batches' := [[hurt, heal, other]]
    s.body.topology.Whole ∧ s.queue.live = [] ∧ (∀ r ∈ batches.flatten, r.Gentle) ∧
      (∀ u ∈ s.called (Call.firm batches), u.Undisturbed) ∧
      (s.callAll (Call.firm batches)).body.topology.health? .cortex = some (.finite (1 / 4)) ∧
      (s.callAll (Call.firm batches')).body.topology.health? .cortex =
        (s.callAll (Call.firm batches)).body.topology.health? .cortex ∧
      (s.callAll (Call.firm batches')).body.bus.awareness =
        (s.callAll (Call.firm batches)).body.bus.awareness := by
  intro s hurt heal other batches batches'
  have hw : s.body.topology.Whole := Topology.sample_whole Number.inUnit_one
  have hhurt : Request.ofLine "damage cortex 2" = .ok hurt := by decide +kernel
  have hheal : Request.ofLine "heal cortex -0.25" = .ok heal := by decide +kernel
  have hother : Request.ofLine "damage memory 0.5" = .ok other := by decide +kernel
  have hgentle : ∀ r ∈ batches.flatten, r.Gentle := by
    have hdamage : Operation.damage ≠ .load := by decide
    have hrecovery : Operation.heal ≠ .load := by decide
    show ∀ r ∈ [hurt, other, heal], r.Gentle
    simp only [List.forall_mem_cons, List.not_mem_nil, false_implies, implies_true, and_true]
    exact ⟨⟨Request.accepted_ofLine hhurt, hdamage⟩, ⟨Request.accepted_ofLine hother, hdamage⟩,
      ⟨Request.accepted_ofLine hheal, hrecovery⟩⟩
  have hdue : ∀ u ∈ s.called (Call.firm batches), u.due.isEmpty = true := by decide +kernel
  have hdue' : ∀ u ∈ s.called (Call.firm batches'), u.due.isEmpty = true := by decide +kernel
  have hu : ∀ u ∈ s.called (Call.firm batches), u.Undisturbed := fun u hmem =>
    undisturbed_of_due (List.isEmpty_iff.mp (hdue u hmem))
  have hu' : ∀ u ∈ s.called (Call.firm batches'), u.Undisturbed := fun u hmem =>
    undisturbed_of_due (List.isEmpty_iff.mp (hdue' u hmem))
  have hkept : ∀ u ∈ s.called (Call.firm batches) ++ s.called (Call.firm batches'),
      u.beforeCommands.bus.awareness = u.body.bus.awareness := by decide +kernel
  obtain ⟨hhealth, horder⟩ := requests_independent hw rfl hgentle hu
  have hperm : batches'.flatten.Perm batches.flatten := by
    show [hurt, heal, other].Perm [hurt, other, heal]
    exact .cons hurt (.swap other heal [])
  have hfilter : ∀ k, batches'.flatten.filter (Request.concerns k) =
      batches.flatten.filter (Request.concerns k) := by
    intro k
    cases k <;> decide +kernel
  obtain ⟨hsame, haware⟩ := horder batches' hperm hfilter hu'
  refine ⟨hw, rfl, hgentle, hu, (hhealth .cortex).trans ?_, hsame .cortex, haware (.inr hkept)⟩
  decide +kernel

end Scheduler
end Organism
