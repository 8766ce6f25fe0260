import Organism.Daemon
import Organism.Proofs.Anatomy.Placement
import Organism.Proofs.Command.Effect
import Organism.Proofs.Health.Worst

/-!
# All reports name the same worst tier

The command `status` and the command `alerts` report the worst tier of the organs, and the status
daemon the tier of the lowest health.  These are one and the same.

* `mem_alarming`, `alarming_eq_nil_iff`   the organs that `alerts` lists;
* `Overview.Status`, `Overview.Alerts`, `Overview.Pulse`   what each of the three reports says, of a
                        given topology and a given worst tier;
* `told_status`, `told_alerts`, `leads_pulse`   **each report says so of the tier of the lowest health**;
* `reports_agree`       all of it, for any healths.
-/

namespace Organism

attribute [local instance] Rounding.binary64

open Act

/-! ## the organs that are listed -/

namespace Query

variable {t : Topology}

theorem mem_alarming {o : Organ} : o ∈ alarming t ↔ o ∈ t.organs ∧ o.tier ≠ .ok := by
  unfold alarming Tier.isAlert
  simp

theorem alarming_kinds_nodup (t : Topology) : ((alarming t).map (·.kind)).Nodup := by
  have hsub : ((alarming t).map (·.kind)).Sublist (t.organs.map (·.kind)) :=
    List.Sublist.map _ List.filter_sublist
  exact hsub.nodup t.organs_kinds_nodup

theorem alarming_eq_nil_iff (hd : t.Distinct) (hu : t.Each Number.InUnit)
    (hne : t.organList ≠ []) : alarming t = [] ↔ Tier.ofNumber t.minHealth = .ok := by
  rw [Topology.ofNumber_minHealth_eq_ok hd hu hne, List.eq_nil_iff_forall_not_mem]
  simp only [mem_alarming, not_and, not_not]

def calm : String := "Alerts:\n (no active alerts; all organs healthy)"

theorem linesText_ne_calm (o : Organ) (ls : List String) :
    linesText ("Alerts:" :: alertLine o :: ls) ≠ calm := by
  intro h
  have hline : ∃ s, alertLine o = " - " ++ s := by
    unfold alertLine
    simp only [String.append_assoc]
    exact ⟨_, rfl⟩
  obtain ⟨s, hs⟩ := hline
  have hchar := congrArg (fun text => text.toList[9]?) h
  rw [hs] at hchar
  unfold linesText calm at hchar
  simp [String.intercalate_cons_cons] at hchar

end Query

/-! ## the three reports -/

namespace Overview

structure Status (t : Topology) (worst : Tier) (result : CommandResult) : Prop where
  ok : result.ok = true
  label : result.data.lookup "health_label" = some (.text worst.healthLabel)
  message : ∃ score : Number, result.message =
    s!"{t.describe} :: health {t.minHealth.fixed 2} ({worst.healthLabel}) " ++
      s!":: awareness {score.fixed 2}"

structure Alerts (t : Topology) (worst : Tier) (result : CommandResult) : Prop where
  ok : result.ok = true
  overall : result.data.lookup "overall" = some (.text worst.healthLabel)
  entries : ∃ entries, result.data.lookup "alerts" = some (.record entries) ∧
    (∀ name v, (name, v) ∈ entries ↔
      ∃ k o, t.organ? k = some o ∧ o.tier ≠ .ok ∧ name = k.label ∧ v = .text o.tier.healthLabel)
  lines : worst ≠ .ok → ∃ os : List Organ, (∀ o, o ∈ os ↔ o ∈ t.organs ∧ o.tier ≠ .ok) ∧
    (os.map (·.kind)).Nodup ∧ result.message = Query.linesText
      ("Alerts:" :: (os.map Query.alertLine ++ [s!"overall: {worst.healthLabel}"]))
  calm : result.message = Query.calm ↔ worst = .ok

def Pulse (worst : Tier) (b : Body) : Prop :=
  ∃ p, b.bus.pending.getLast? = some p ∧ p.kind = .status ∧ ∃ awareness : Number,
    p.text =
      s!"{b.topology.describe} :: min health {b.topology.minHealth.fixed 2} ({worst.healthLabel}) " ++
        s!":: awareness {awareness.fixed 2} ({(Tier.ofNumber awareness).awarenessLabel})"

end Overview

namespace Command

variable {setup : Setup} {r : Request} {b : Body}

/-- **The command `status` names the tier of the lowest health.** -/
theorem told_status (setup : Setup) (hw : b.topology.Whole) (hd : b.topology.Distinct)
    (hr : r.operation = .status) :
    ∃ result b', (handle setup r).run b = (.ok result, b') ∧
      Overview.Status b.topology (Tier.ofNumber b.topology.minHealth) result := by
  obtain ⟨o, ho, -⟩ := hw.organ? .cortex
  have hne : b.topology.organList ≠ [] := List.ne_nil_of_mem (Topology.mem_of_organ? ho)
  have hworst := Topology.worstTier_eq hd hw.inUnit hne
  have hperform : Leads (fun c => c = b) (perform setup r)
      (fun result _ => Overview.Status b.topology (Tier.ofNumber b.topology.minHealth) result)
      fun _ _ => False := by
    unfold perform
    refine leads_bind (Q := fun _ c => c = b) (leads_get fun _ h => h) fun _ => ?_
    rw [hr]
    unfold Query.status
    refine leads_bind (refresh_whole hw) fun score => ?_
    refine leads_bind (Q := fun c _ => c.topology = b.topology) (leads_get ?_) fun c => ?_
    · rintro c ⟨-, rfl⟩
      rfl
    refine ⟨fun c' hc => ?_⟩
    have htier : c.topology.worstTier = .ok (Tier.ofNumber b.topology.minHealth) := by
      rw [hc, hworst]
    rw [htier, hc]
    exact ⟨rfl, rfl, score, rfl⟩
  refine (leads_handle (F := fun _ _ => False) hperform ?_ ?_ ?_).run_ok rfl
  · exact fun _ _ _ _ h => h
  · exact fun _ _ _ _ _ _ _ _ h => h.elim
  · exact fun _ _ _ h => h.elim

/-- **The command `alerts` names the tier of the lowest health, and lists the organs that are in
another tier than the best one.** -/
theorem told_alerts (setup : Setup) (hd : b.topology.Distinct) (hu : b.topology.Each Number.InUnit)
    (hne : b.topology.organList ≠ []) (hr : r.operation = .alerts) :
    ∃ result b', (handle setup r).run b = (.ok result, b') ∧
      Overview.Alerts b.topology (Tier.ofNumber b.topology.minHealth) result := by
  have hworst := Topology.worstTier_eq hd hu hne
  have hnil := Query.alarming_eq_nil_iff hd hu hne
  generalize Tier.ofNumber b.topology.minHealth = worst at hworst hnil ⊢
  have hquery : ∃ result, Query.alerts b.topology = .ok result ∧
      Overview.Alerts b.topology worst result := by
    unfold Query.alerts
    rw [hworst]
    refine ⟨_, rfl, rfl, rfl, ⟨_, rfl, fun name v => ?_⟩, fun hbad => ?_, ?_⟩
    · rw [List.mem_map]
      constructor
      · rintro ⟨o, ho, heq⟩
        obtain ⟨hmem, htier⟩ := Query.mem_alarming.mp ho
        obtain ⟨k, hk⟩ := Topology.mem_organs.mp hmem
        cases heq
        exact ⟨k, o, hk, htier, by rw [Topology.kind_of_organ? hk], rfl⟩
      · rintro ⟨k, o, hk, htier, rfl, rfl⟩
        refine ⟨o, Query.mem_alarming.mpr ⟨Topology.mem_organs.mpr ⟨k, hk⟩, htier⟩, ?_⟩
        rw [Topology.kind_of_organ? hk]
    · have hlisted : (Query.alarming b.topology).isEmpty = false := by
        rw [List.isEmpty_eq_false_iff]
        exact mt hnil.mp hbad
      refine ⟨Query.alarming b.topology, fun o => Query.mem_alarming,
        Query.alarming_kinds_nodup b.topology, ?_⟩
      show Query.linesText ("Alerts:" :: if _ then _ else _) = _
      rw [hlisted]
      rfl
    · show Query.linesText ("Alerts:" :: if _ then _ else _) = _ ↔ _
      rw [← hnil]
      cases Query.alarming b.topology with
      | nil => exact ⟨fun _ => rfl, fun _ => rfl⟩
      | cons o os => exact ⟨fun h => absurd h (Query.linesText_ne_calm o _), nofun⟩
  obtain ⟨result, hresult, htells⟩ := hquery
  have hperform : (perform setup r).run b = (.ok result, b) := by
    unfold perform
    refine (run_bind_ok rfl).trans ?_
    rw [hr]
    dsimp only
    rw [hresult]
    rfl
  exact ⟨result, _, run_tryCatch_ok (run_bind_ok hperform), htells⟩

end Command

namespace Duty

/-- **The pulse of the status daemon names the tier of the lowest health that the daemon leaves.** -/
theorem leads_pulse (setup : Setup) (tick : Nat) :
    Leads (fun _ => True) (status setup tick)
      (fun _ c => Overview.Pulse (Tier.ofNumber c.topology.minHealth) c) fun _ _ => True := by
  unfold status
  refine leads_bind leads_true fun _ => ?_
  refine leads_bind leads_true fun cpu => leads_bind leads_true fun memory => ?_
  refine leads_bind leads_true fun io => leads_bind leads_true fun cpu => ?_
  refine leads_bind leads_true fun memory => leads_bind leads_true fun io => ?_
  refine leads_bind leads_true fun _ => leads_bind leads_true fun awareness => ?_
  refine leads_bind leads_true fun alerts => leads_bind leads_true fun _ => ?_
  refine leads_bind (Q := fun c c' => c' = c) (leads_get fun _ _ => rfl) fun c => ?_
  refine leads_update ?_
  rintro c' rfl
  refine ⟨c'.bus.stamp (statusMessage c'.topology awareness), ?_, rfl, awareness, rfl⟩
  show (c'.bus.pending ++ [c'.bus.stamp (statusMessage c'.topology awareness)]).getLast? = _
  exact List.getLast?_concat

end Duty

namespace Body

/-- **All reports name the same worst tier.**  On any topology that has organs, with any healths,
the worst of their tiers is the tier of the lowest health.  The command `alerts` names it, lists
exactly the organs whose tier is not the best one, and says that there are none exactly if the worst
tier is the best one; the pulse of a run of the status daemon that left these healths names it; and
so does the command `status`, if there are all organs. -/
theorem reports_agree (setup : Setup) {b : Body} (hd : b.topology.Distinct)
    (hu : b.topology.Each Number.InUnit) (hne : b.topology.organList ≠ []) :
    let worst := Tier.ofNumber b.topology.minHealth
    b.topology.worstTier = .ok worst ∧
      (∀ r : Request, r.operation = .alerts → ∃ result b',
        (Command.handle setup r).run b = (.ok result, b') ∧
          Overview.Alerts b.topology worst result) ∧
      (∀ (setup' : Setup) (tick : Nat) (b₀ : Body),
        (Duty.status setup' tick).run b₀ = (.ok (), b) → Overview.Pulse worst b) ∧
      ((∀ k, b.topology.has k = true) → ∀ r : Request, r.operation = .status → ∃ result b',
        (Command.handle setup r).run b = (.ok result, b') ∧
          Overview.Status b.topology worst result) := by
  intro worst
  refine ⟨Topology.worstTier_eq hd hu hne, ?_, ?_, ?_⟩
  · intro r hr
    exact Command.told_alerts setup hd hu hne hr
  · intro setup' tick b₀ hrun
    have hend := (Duty.leads_pulse setup' tick).after b₀ trivial
    rw [hrun] at hend
    exact hend
  · intro hall r hr
    exact Command.told_status setup ⟨hall, hu⟩ hd hr

/-- one organ is impaired, one is critical and one is well; none of them could be read -/
theorem reports_agree_mixed :
    let setup : Setup := ⟨.standard, .standard, .ofString "state", true⟩
    let levels : OrganKind → Number
      | .cortex => .finite (1 / 2)
      | .memory => .finite (1 / 5)
      | .ioBridge => 1
    let b₀ : Body := {
      topology := (Topology.sample 1).mapOrgans fun o => { o with health := levels o.kind }
      senses := .script (fun _ f => .error (.unavailable f.organ.label "")) 0
      dice := .scripted [] }
    let b := ((Duty.status setup 7).run b₀).2
    b.topology.Distinct ∧ b.topology.Each Number.InUnit ∧ b.topology.organList ≠ [] ∧
      Overview.Pulse .critical b ∧
      (∃ result b', (Command.handle setup { operation := .alerts }).run b = (.ok result, b') ∧
        Overview.Alerts b.topology .critical result) ∧
      ∃ result b', (Command.handle setup { operation := .status }).run b = (.ok result, b') ∧
        Overview.Status b.topology .critical result := by
  intro setup levels b₀ b
  have hrun : ((Duty.status setup 7).run b₀).1.isOk = true := by decide +kernel
  have hhealths : b.topology.organList.map (fun o => (o.kind, o.health)) =
      [(.cortex, levels .cortex), (.memory, levels .memory), (.ioBridge, levels .ioBridge)] := by
    decide +kernel
  have hkinds : b.topology.organList.map (·.kind) = [.cortex, .memory, .ioBridge] := by
    have h := congrArg (List.map Prod.fst) hhealths
    rwa [List.map_map] at h
  have hd : b.topology.Distinct := by
    unfold Topology.Distinct
    rw [hkinds]
    decide
  have hne : b.topology.organList ≠ [] := by
    intro h
    rw [h] at hkinds
    cases hkinds
  have hlevels : ∀ k, (levels k).InUnit := by
    intro k
    cases k with
    | cortex => exact ⟨1 / 2, rfl, by norm_num, by norm_num⟩
    | memory => exact ⟨1 / 5, rfl, by norm_num, by norm_num⟩
    | ioBridge => exact Number.inUnit_one
  have hu : b.topology.Each Number.InUnit := by
    intro k o ho
    have hmem : (o.kind, o.health) ∈ b.topology.organList.map (fun o => (o.kind, o.health)) :=
      List.mem_map_of_mem (Topology.mem_of_organ? ho)
    rw [hhealths] at hmem
    simp only [List.mem_cons, Prod.mk.injEq, List.not_mem_nil, or_false] at hmem
    rcases hmem with ⟨-, h⟩ | ⟨-, h⟩ | ⟨-, h⟩
    · exact h ▸ hlevels .cortex
    · exact h ▸ hlevels .memory
    · exact h ▸ hlevels .ioBridge
  have hall : ∀ k, b.topology.has k = true := by
    intro k
    cases k <;> decide +kernel
  have hworst : Tier.ofNumber b.topology.minHealth = .critical := by decide +kernel
  obtain ⟨-, halerts, hpulse, hstatus⟩ := reports_agree setup hd hu hne
  rw [hworst] at halerts hpulse hstatus
  obtain ⟨⟨⟩, hok⟩ := ok_of_isOk hrun
  exact ⟨hd, hu, hne, hpulse setup 7 b₀ (Prod.ext hok rfl), halerts _ rfl, hstatus hall _ rfl⟩

end Body
end Organism
