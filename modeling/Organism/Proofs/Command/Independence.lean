import Organism.Proofs.Command.Coherence
import Organism.Proofs.Command.Effect

/-!
# Commands on different organs

Damage and recovery change the health of one organ, and no other command but a load changes any.
What several commands make of the health of an organ is therefore what those make of it that concern
the organ, in their order.

* `Request.concerns`   the request changes the health of this organ;
* `Request.alter`      what it makes of the health;
* `Body.Turned`        the healths of a body after some requests, each for itself;
* `Body.Updated`       its awareness after them, which is that of the healths if any of them asks;
* `turned_handle`, `updated_handle`   **one request that is carried out and reported**.
-/

namespace Organism

attribute [local instance] Rounding.binary64

open Act

def Topology.health? (t : Topology) (k : OrganKind) : Option Number :=
  (t.organ? k).map (·.health)

theorem Topology.Whole.of_health? {t t' : Topology} (h : t.Whole)
    (hh : ∀ k, t'.health? k = t.health? k) : t'.Whole := by
  apply whole_of_organ?
  intro k
  obtain ⟨o, ho, hu⟩ := h.organ? k
  have hk := hh k
  unfold health? at hk
  rw [ho] at hk
  obtain ⟨p, hp, hhealth⟩ := Option.map_eq_some_iff.mp hk
  exact ⟨p, hp, hhealth ▸ hu⟩

namespace Request

/-- the request changes the health of this organ -/
def concerns (k : OrganKind) (r : Request) : Bool := r.operation.needsOrgan && r.organ == some k

def alter (r : Request) (h : Number) : Number :=
  match r.operation, r.amount with
  | .damage, some x => (h - x.abs).toUnit
  | .heal, some x => (h + x.abs).toUnit
  | _, _ => h

def turn (k : OrganKind) (h : Number) (r : Request) : Number :=
  if r.concerns k then r.alter h else h

/-- the request brings the awareness up to date -/
def refreshes (r : Request) : Bool := Part.awareness ∈ r.operation.parts

/-- the request is all right, and is not one to load a state -/
structure Gentle (r : Request) : Prop where
  accepted : r.Accepted
  keeps : r.operation ≠ .load

theorem turn_of_not_needsOrgan {r : Request} (h : r.operation.needsOrgan = false) (k : OrganKind)
    (x : Number) : r.turn k x = x := by
  unfold turn concerns
  rw [h]
  rfl

end Request

namespace Body

/-! ## healths -/

/-- after the requests all organs are there, and the health of each is what they made of it -/
def Turned (rs : List Request) (b b' : Body) : Prop :=
  b.topology.Whole → b'.topology.Whole ∧
    ∀ k, b'.topology.health? k = (b.topology.health? k).map (rs.foldl (Request.turn k))

variable {rs rs' : List Request} {b b' c : Body}

theorem turned_nil (h : ∀ k, b'.topology.health? k = b.topology.health? k) : Turned [] b b' :=
  fun hw => ⟨hw.of_health? h, fun k => (h k).trans Option.map_id'.symm⟩

theorem Turned.trans (h : Turned rs b b') (h' : Turned rs' b' c) : Turned (rs ++ rs') b c := by
  intro hw
  obtain ⟨hw', hb⟩ := h hw
  obtain ⟨hw'', hc⟩ := h' hw'
  refine ⟨hw'', fun k => ?_⟩
  rw [hc, hb, Option.map_map]
  refine congrArg (fun f => Option.map f _) (funext fun x => ?_)
  exact List.foldl_append.symm

/-! ## the awareness -/

/-- after the requests the awareness is that of the healths, if it was so before or a request asked
for it; and if none did, it is as it was -/
structure Updated (rs : List Request) (b b' : Body) : Prop where
  whole : b.topology.Whole → b'.topology.Whole
  aware : b.topology.Whole → (b.Aware ∨ ∃ r ∈ rs, r.refreshes = true) → b'.Aware
  still : (∀ r ∈ rs, r.refreshes = false) → b'.bus.awareness = b.bus.awareness

theorem updated_nil (h : ∀ k, b'.topology.health? k = b.topology.health? k)
    (ha : b'.bus.awareness = b.bus.awareness) : Updated [] b b' where
  whole hw := hw.of_health? h
  aware hw hb := by
    rcases hb with hb | ⟨r, hr, -⟩
    · refine ⟨hw.of_health? h, ?_⟩
      rw [ha, Topology.awareness_congr hw h]
      exact hb.aware
    · cases hr
  still _ := ha

theorem Updated.trans (h : Updated rs b b') (h' : Updated rs' b' c) :
    Updated (rs ++ rs') b c where
  whole hw := h'.whole (h.whole hw)
  aware hw hb := by
    refine h'.aware (h.whole hw) ?_
    rcases hb with hb | ⟨r, hr, hrefresh⟩
    · exact .inl (h.aware hw (.inl hb))
    · rcases List.mem_append.mp hr with hr | hr
      · exact .inl (h.aware hw (.inr ⟨r, hr, hrefresh⟩))
      · exact .inr ⟨r, hr, hrefresh⟩
  still hrs := by
    obtain ⟨hfst, hsnd⟩ := List.forall_mem_append.mp hrs
    exact (h'.still hsnd).trans (h.still hfst)

end Body

namespace Command

variable {setup : Setup} {r : Request} {b : Body}

/-! ## requests that are carried out -/

theorem effect_handle (setup : Setup) (hw : b.topology.Whole) (hr : r.Accepted)
    (hop : r.operation.needsOrgan = true) :
    Effect setup r b ((handle setup r).run b).2 := by
  have h : Leads (fun c => c = b) (handle setup r) (fun _ => Effect setup r b) fun _ _ => False :=
    leads_handle (unreported_needsOrgan hw hr hop) (fun _ _ _ _ h => h.1.publish _)
      (fun _ _ _ _ _ _ _ _ h => h.elim) fun _ _ _ h => h
  have hafter := h.after b rfl
  rcases hrun : (handle setup r).run b with ⟨e | result, b'⟩
  · rw [hrun] at hafter
    exact hafter.elim
  · rw [hrun] at hafter
    exact hafter

theorem health?_alters {t t' : Topology} {k : OrganKind} {f : Number → Number}
    (h : t.Alters k f t') (j : OrganKind) :
    t'.health? j = (t.health? j).map fun x => if j = k then f x else x := by
  unfold Topology.health?
  rw [h.organs j]
  cases t.organ? j with
  | none => split <;> rfl
  | some o => split <;> rfl

theorem Effect.alters {c : Body} (h : Effect setup r b c) (hop : r.operation.needsOrgan = true) :
    ∃ k, r.organ = some k ∧ b.topology.Alters k r.alter c.topology := by
  unfold Request.alter
  cases ho : r.operation with
  | damage =>
    obtain ⟨k, x, hk, hx, ht⟩ := h.damage ho
    rw [hx]
    exact ⟨k, hk, ht⟩
  | heal =>
    obtain ⟨k, x, hk, hx, ht⟩ := h.heal ho
    rw [hx]
    exact ⟨k, hk, ht⟩
  | _ =>
    rw [ho] at hop
    cases hop

/-- **A request makes of the health of each organ what it makes of it alone.** -/
theorem turned_handle (setup : Setup) (hr : r.Gentle) (b : Body) :
    b.Turned [r] ((handle setup r).run b).2 := by
  intro hw
  have hcourse := (touches_handle setup r).course b
  refine ⟨hcourse.whole hw, fun k => ?_⟩
  show _ = (b.topology.health? k).map fun x => r.turn k x
  cases hop : r.operation.needsOrgan with
  | true =>
    obtain ⟨j, hj, ht⟩ := (effect_handle setup hw hr.accepted hop).alters hop
    rw [health?_alters ht k]
    unfold Request.turn Request.concerns
    rw [hop, hj, Bool.true_and]
    refine congrArg (fun f => Option.map f _) (funext fun x => ?_)
    by_cases hk : k = j
    · rw [if_pos hk, if_pos (by rw [hk, beq_self_eq_true])]
    · rw [if_neg hk, if_neg fun h => hk (Option.some.inj (eq_of_beq h)).symm]
  | false =>
    have htopology : ((handle setup r).run b).2.topology = b.topology := by
      have hload := hr.keeps
      refine hcourse.topology ?_ ?_ <;>
        · cases ho : r.operation <;> simp_all [Operation.parts, Operation.needsOrgan]
    rw [htopology]
    simp only [Request.turn_of_not_needsOrgan hop]
    exact Option.map_id'.symm

/-! ## the awareness -/

theorem leads_query (setup : Setup) (ho : r.operation = .status ∨ r.operation = .awareness) :
    Leads (fun c => c.topology.Whole) (perform setup r) (fun _ => Body.Aware)
      fun _ => Body.Aware := by
  have hrefresh : Leads (fun c => c.topology.Whole) refreshAwareness (fun _ => Body.Aware)
      fun _ => Body.Aware := leads_refresh Body.stages_aware
  unfold perform
  refine leads_bind (Q := fun _ c => c.topology.Whole) (leads_get fun _ h => h) fun _ => ?_
  rcases ho with ho | ho
  · rw [ho]
    unfold Query.status
    refine leads_bind hrefresh fun _ => ?_
    refine leads_bind (Q := fun _ => Body.Aware) (leads_get fun _ h => h) fun _ => ?_
    exact leads_bind (Q := fun _ => Body.Aware) (leads_ofExcept (fun _ _ _ h => h) fun _ _ _ h => h)
      fun _ => leads_pure fun _ h => h
  · rw [ho]
    exact leads_bind hrefresh fun _ => leads_pure fun _ h => h

/-- **A request that asks for the awareness leaves that of the healths behind.** -/
theorem aware_handle (setup : Setup) (hw : b.topology.Whole) (hr : r.Gentle)
    (hrefresh : r.refreshes = true) : ((handle setup r).run b).2.Aware := by
  have hcourse := (touches_handle setup r).course b
  cases hop : r.operation.needsOrgan with
  | true => exact ⟨hcourse.whole hw, (effect_handle setup hw hr.accepted hop).awareness⟩
  | false =>
    have ho : r.operation = .status ∨ r.operation = .awareness := by
      have hload := hr.keeps
      unfold Request.refreshes at hrefresh
      cases ho : r.operation <;> simp_all [Operation.parts, Operation.needsOrgan]
    have h : Leads (fun c => c.topology.Whole) (handle setup r) (fun _ => Body.Aware)
        fun _ => Body.Aware := by
      refine leads_handle (leads_query setup ho) ?_ ?_ fun _ _ _ h => h
      · exact fun _ c _ _ h => Body.narrow_aware c _ rfl rfl rfl h
      · exact fun _ c _ _ _ _ _ _ h => Body.narrow_aware c _ rfl rfl rfl h
    have hafter := h.after b hw
    rcases hrun : (handle setup r).run b with ⟨e | result, b'⟩ <;>
      · rw [hrun] at hafter
        exact hafter

theorem updated_handle (setup : Setup) (hr : r.Gentle) (b : Body) :
    b.Updated [r] ((handle setup r).run b).2 where
  whole hw := ((touches_handle setup r).course b).whole hw
  aware hw hb := by
    rcases hb with hb | ⟨r', hr', hrefresh⟩
    · exact (keeps_handle Body.stages_aware setup r).body hb
    · obtain rfl := List.mem_singleton.mp hr'
      exact aware_handle setup hw hr hrefresh
  still hrs := by
    have hrefresh := hrs r (List.mem_singleton_self r)
    refine ((touches_handle setup r).course b).awareness fun hmem => ?_
    unfold Request.refreshes at hrefresh
    rcases List.mem_cons.mp hmem with h | hmem
    · cases h
    rcases List.mem_cons.mp hmem with h | hmem
    · cases h
    · exact absurd hmem (of_decide_eq_false hrefresh)

end Command
end Organism
