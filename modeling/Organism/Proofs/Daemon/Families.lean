import Organism.Proofs.Body.Blind
import Organism.Proofs.Body.Frame
import Organism.Proofs.Daemon.Crash
import Organism.Proofs.Health.Exact
import Organism.Proofs.Settings.Accepted

/-!
# Families of readings fail one by one

The status daemon takes three readings and applies them.  One that is unavailable, or not finite, is
found out when it is taken or when it is applied; either way it is reported, and the organs of the
others get their next healths all the same.

* `Body.Orderly`, `Body.Good`   a family that is unavailable or can be read; one that is finite
                                besides;
* `Body.usable`                 what is left of a reading after it was taken and applied;
* `Body.Missed`                 the report on one family;
* `Body.Progress`               how far a run of the status daemon has come;
* `leads_sensed`, `leads_used`  **one family taken, and applied**;
* `families_independent`        **what a run leaves behind, family by family**;
* `not_all_independent`         a count too large for a number keeps another organ from its reading.
-/

namespace Organism

attribute [local instance] Rounding.binary64

open Act Body

/-! ## what becomes of a reading -/

namespace Body

def Good (b : Body) (k : OrganKind) : Prop := ∃ r, b.upcoming k = .ok r ∧ r.Finite

/-- the next reading is unavailable, or is one of the organ, with numbers as its signals -/
def Orderly (b : Body) (k : OrganKind) : Prop :=
  (∃ e, b.upcoming k = .error e ∧ IsUnavailable e) ∨
    ∃ r, b.upcoming k = .ok r ∧ r.organ = k ∧ r.Numeric

def usable (l : Limits) (b : Body) (k : OrganKind) : Option Reading :=
  match b.upcoming k with
  | .ok r => if (r.penalties l k).isOk then some r else none
  | .error _ => none

section
variable {l : Limits} (hl : l.Accepted) {b : Body} {k : OrganKind} (hk : b.Orderly k)
include hl hk

theorem usable_eq_some_iff {r : Reading} :
    b.usable l k = some r ↔ b.upcoming k = .ok r ∧ r.Finite := by
  unfold usable
  rcases hk with ⟨e, he, -⟩ | ⟨r', hr', rfl, hn⟩
  · rw [he]
    exact ⟨nofun, nofun⟩
  · rw [hr']
    dsimp only
    constructor
    · intro h
      split at h
      · next hok =>
        cases h
        obtain ⟨ps, hps⟩ := ok_of_isOk hok
        exact ⟨rfl, Reading.finite_of_penalties hps⟩
      · cases h
    · rintro ⟨h, hf⟩
      cases h
      obtain ⟨most, -, hpenalties⟩ := hl.charging.penalties
      obtain ⟨found, hfound, -⟩ := hpenalties r hf
      rw [hfound]
      rfl

theorem usable_eq_none_iff : b.usable l k = none ↔ ¬ b.Good k := by
  rw [Option.eq_none_iff_forall_ne_some]
  unfold Good
  rw [not_exists]
  exact forall_congr' fun r => not_congr (usable_eq_some_iff hl hk)

end

/-! ## reports -/

def warnings (ms : List Message) : List (List (String × Value)) :=
  (ms.filter (·.kind == .warning)).map (·.payload)

theorem warnings_append (ms ns : List Message) :
    warnings (ms ++ ns) = warnings ms ++ warnings ns := by
  unfold warnings
  rw [List.filter_append, List.map_append]

def named (k : OrganKind) : List (String × Value) := [("organ", .text k.label)]

structure Missed (k : OrganKind) (b b' : Body) : Prop where
  posted : ∃ m, Posted [m] b b' ∧ warnings [m] = [named k]
  topology : b'.topology = b.topology
  senses : b'.senses = b.senses
  readings : b'.readings = b.readings

end Body

namespace Duty

variable {α : Type} {act : Act α} {b b' : Body} {k : OrganKind}

theorem run_attempt_ok {x : α} (h : act.run b = (.ok x, b')) :
    (attempt k act).run b = (.ok (some x), b') := run_tryCatch_ok (run_bind_ok h)

theorem run_attempt_unavailable {e : Fault} (h : act.run b = (.error e, b'))
    (he : IsUnavailable e) : ∃ c, (attempt k act).run b = (.ok none, c) ∧ Missed k b' c := by
  obtain ⟨organ, reason, rfl⟩ := he
  refine ⟨_, run_tryCatch_error (run_bind_error h), ?_⟩
  exact ⟨⟨_, rfl, rfl⟩, rfl, rfl, rfl⟩

theorem run_sense (f : Family) (b : Body) :
    (sense f).run b = ((b.senses.read f).1, { b with senses := (b.senses.read f).2 }) := by
  refine (run_bind_ok (f := fun c : Body => _) rfl).trans ?_
  exact (run_bind_ok (f := fun _ : Unit => _) rfl).trans (run_ofExcept _ _)

section
variable {setup : Setup} {r : Reading}

theorem run_feel_ok {t : Topology} {change : HealthChange}
    (h : b.topology.feel setup.limits k r = .ok (t, change)) :
    ∃ text, (feel setup k r).run b =
      (.ok (), { b with topology := t }.note .debug .daemons text) :=
  ⟨_, run_bind_ok (run_onTopology_ok (f := fun t => t.feel setup.limits k r) h)⟩

theorem run_feel_error {e : Fault} (h : b.topology.feel setup.limits k r = .error e) :
    (feel setup k r).run b = (.error e, b) :=
  run_bind_error (run_onTopology_error (f := fun t => t.feel setup.limits k r) h)

theorem run_apply {felt : Option Unit} (hk : b.topology.has k = true)
    (h : (attempt k (feel setup k r)).run b = (.ok felt, b')) :
    (apply setup k (some r)).run b = (.ok (felt.map fun _ => r), b') := by
  refine (run_bind_ok (f := fun c : Body => _) rfl).trans ?_
  rw [if_pos hk]
  exact run_bind_ok h

end

end Duty

/-! ## how far a run has come -/

namespace Body

variable {l : Limits} {b c c' : Body} {done reported : List OrganKind} {rs : Option Readings}
  {k : OrganKind}

/-- one health after its reading: the next one, or the old one if there is no reading to use -/
def Felt (l : Limits) (b : Body) (k : OrganKind) (h h' : Number) : Prop :=
  match b.usable l k with
  | some r => l.next k r h = .ok h'
  | none => h' = h

theorem Felt.next (hl : l.Accepted) (hk : b.Orderly k) {h h' : Number} (hf : Felt l b k h h') :
    (∀ r, b.upcoming k = .ok r → r.Finite → l.next k r h = .ok h') ∧ (¬ b.Good k → h' = h) := by
  unfold Felt at hf
  refine ⟨fun r hr hfin => ?_, fun hbad => ?_⟩
  · rwa [(usable_eq_some_iff hl hk).mpr ⟨hr, hfin⟩] at hf
  · rwa [(usable_eq_none_iff hl hk).mpr hbad] at hf

/-- the readings of some organs have been applied and families reported; and what is remembered -/
structure Progress (l : Limits) (b : Body) (done reported : List OrganKind)
    (readings : Option Readings) (c : Body) : Prop where
  organs : ∀ k o, b.topology.organ? k = some o → ∃ o', c.topology.organ? k = some o' ∧
    if k ∈ done then Felt l b k o.health o'.health else o'.health = o.health
  posted : ∃ ms, Posted ms b c ∧ warnings ms = reported.map named
  readings : c.readings = readings

theorem progress_refl (l : Limits) (b : Body) : Progress l b [] [] b.readings b where
  organs := fun _ o ho => ⟨o, ho, rfl⟩
  posted := ⟨[], rfl, rfl⟩
  readings := rfl

theorem Progress.post (h : Progress l b done reported rs c) {ms : List Message}
    (more : List OrganKind) (hm : Posted ms c c') (hw : warnings ms = more.map named)
    (ht : ∀ k, (c'.topology.organ? k).map (·.health) = (c.topology.organ? k).map (·.health))
    (hr : c'.readings = c.readings) : Progress l b done (reported ++ more) rs c' := by
  refine ⟨fun k o ho => ?_, ?_, hr.trans h.readings⟩
  · obtain ⟨o', ho', hfelt⟩ := h.organs k o ho
    have hk := ht k
    rw [ho', Option.map_some] at hk
    obtain ⟨p, hp, hph⟩ := Option.map_eq_some_iff.mp hk
    refine ⟨p, hp, ?_⟩
    rwa [hph]
  · obtain ⟨ns, hns, hwn⟩ := h.posted
    exact ⟨ns ++ ms, hns.trans hm, by rw [warnings_append, hwn, hw, List.map_append]⟩

theorem Progress.quiet (h : Progress l b done reported rs c) (ms : List Message)
    (hm : Posted ms c c') (hw : warnings ms = [])
    (ht : ∀ k, (c'.topology.organ? k).map (·.health) = (c.topology.organ? k).map (·.health))
    (hr : c'.readings = c.readings) : Progress l b done reported rs c' := by
  have hpost := h.post [] hm hw ht hr
  rwa [List.append_nil] at hpost

theorem Progress.missed (h : Progress l b done reported rs c) (hm : Missed k c c') :
    Progress l b done (reported ++ [k]) rs c' := by
  obtain ⟨m, hpost, hw⟩ := hm.posted
  exact h.post [k] hpost hw (fun _ => by rw [hm.topology]) hm.readings

theorem Progress.felt (h : Progress l b done reported rs c) (hk : k ∉ done) {o : Organ} {x : Number}
    (ho : c.topology.organ? k = some o) (hx : Felt l b k o.health x) :
    Progress l b (done ++ [k]) reported rs
      { c with topology := c.topology.replace { o with health := x } } := by
  refine ⟨fun j p hp => ?_, h.posted, h.readings⟩
  have hok : o.kind = k := Topology.kind_of_organ? ho
  obtain ⟨p', hp', hfelt⟩ := h.organs j p hp
  show ∃ o', (c.topology.replace { o with health := x }).organ? j = some o' ∧ _
  rw [Topology.organ?_replace, hp']
  show ∃ o', (if j = o.kind then some { o with health := x } else some p') = some o' ∧ _
  rw [hok]
  by_cases hj : j = k
  · subst hj
    obtain rfl : o = p' := Option.some.inj (ho.symm.trans hp')
    rw [if_neg hk] at hfelt
    refine ⟨_, if_pos rfl, ?_⟩
    rw [if_pos (by simp), ← hfelt]
    exact hx
  · refine ⟨_, if_neg hj, ?_⟩
    simpa [hj] using hfelt

theorem Progress.unfelt (h : Progress l b done reported rs c) (hk : k ∉ done)
    (hnone : b.usable l k = none) : Progress l b (done ++ [k]) reported rs c := by
  refine ⟨fun j p hp => ?_, h.posted, h.readings⟩
  obtain ⟨p', hp', hfelt⟩ := h.organs j p hp
  refine ⟨p', hp', ?_⟩
  by_cases hj : j = k
  · subst hj
    rw [if_neg hk] at hfelt
    rw [if_pos (by simp), Felt, hnone]
    exact hfelt
  · simpa [hj] using hfelt

end Body

/-! ## the run -/

namespace Body

def isUnread (b : Body) (k : OrganKind) : Bool := !(b.upcoming k).isOk

def isSpoiled (l : Limits) (b : Body) (k : OrganKind) : Bool :=
  (b.upcoming k).isOk && (b.usable l k).isNone

/-- the organs whose families are reported in a run, in the order of the reports -/
def reports (l : Limits) (b : Body) : List OrganKind :=
  (Named.all (α := OrganKind)).filter b.isUnread ++ Named.all.filter (b.isSpoiled l)

variable {l : Limits} {b : Body} {k : OrganKind} {r : Reading} {e : Fault}

theorem isUnread_of_ok (h : b.upcoming k = .ok r) : b.isUnread k = false := by
  unfold isUnread
  rw [h]
  rfl

theorem isUnread_of_error (h : b.upcoming k = .error e) : b.isUnread k = true := by
  unfold isUnread
  rw [h]
  rfl

theorem usable_of_error (h : b.upcoming k = .error e) : b.usable l k = none := by
  unfold usable
  rw [h]

theorem usable_of_penalties {ps : List (String × Number)} (h : b.upcoming k = .ok r)
    (hps : r.penalties l k = .ok ps) : b.usable l k = some r := by
  unfold usable
  rw [h]
  dsimp only
  rw [hps]
  rfl

theorem usable_of_broken (h : b.upcoming k = .ok r) (he : r.penalties l k = .error e) :
    b.usable l k = none := by
  unfold usable
  rw [h]
  dsimp only
  rw [he]
  rfl

theorem isSpoiled_of_error (h : b.upcoming k = .error e) : b.isSpoiled l k = false := by
  unfold isSpoiled
  rw [h]
  rfl

theorem isSpoiled_of_usable (h : b.usable l k = some r) : b.isSpoiled l k = false := by
  unfold isSpoiled
  rw [h, Option.isNone_some, Bool.and_false]

theorem isSpoiled_of_ok (h : b.upcoming k = .ok r) (hn : b.usable l k = none) :
    b.isSpoiled l k = true := by
  unfold isSpoiled
  rw [h, hn]
  rfl

theorem reports_eq (l : Limits) (b : Body) :
    reports l b = [] ++ [OrganKind.cortex].filter b.isUnread ++
      [OrganKind.memory].filter b.isUnread ++ [OrganKind.ioBridge].filter b.isUnread ++
      [OrganKind.cortex].filter (b.isSpoiled l) ++ [OrganKind.memory].filter (b.isSpoiled l) ++
      [OrganKind.ioBridge].filter (b.isSpoiled l) := by
  show ([OrganKind.cortex] ++ [.memory] ++ [.ioBridge] : List OrganKind).filter b.isUnread ++
    ([OrganKind.cortex] ++ [.memory] ++ [.ioBridge] : List OrganKind).filter (b.isSpoiled l) = _
  simp only [List.filter_append, List.append_assoc, List.nil_append]

theorem mem_reports : k ∈ reports l b ↔ b.usable l k = none := by
  have hall : k ∈ Named.all (α := OrganKind) := by cases k <;> decide
  unfold reports
  rw [List.mem_append, List.mem_filter, List.mem_filter]
  cases h : b.upcoming k with
  | error e => simp [hall, isUnread_of_error h, usable_of_error h]
  | ok r =>
    cases hu : b.usable l k with
    | none => simp [hall, isSpoiled_of_ok h hu]
    | some r' => simp [isUnread_of_ok h, isSpoiled_of_usable hu]

theorem reports_nodup : (reports l b).Nodup := by
  have hall : (Named.all (α := OrganKind)).Nodup := by decide
  refine (hall.filter _).append (hall.filter _) fun k hk hk' => ?_
  have hunread : b.isUnread k = true := (List.mem_filter.mp hk).2
  have hspoiled : b.isSpoiled l k = true := (List.mem_filter.mp hk').2
  rw [isUnread, Bool.not_eq_true'] at hunread
  rw [isSpoiled, hunread, Bool.false_and] at hspoiled
  cases hspoiled

end Body

namespace Duty

section
variable {l : Limits} {b : Body} {done reported : List OrganKind} {rs : Option Readings}
  {k : OrganKind} (hk : b.Orderly k)
include hk

/-- **A reading is taken, or its family reported.** -/
theorem leads_sensed :
    Leads (fun c => Progress l b done reported rs c ∧
        c.senses = (b.senses.setLevel b.bus.simLevel).before k)
      (attempt k (sense k.family))
      (fun o c => (Progress l b done (reported ++ [k].filter b.isUnread) rs c ∧
        c.senses = (((b.senses.setLevel b.bus.simLevel).before k).read k.family).2) ∧
        o = (b.upcoming k).toOption)
      fun _ _ => False := by
  refine ⟨fun c => ?_⟩
  rintro ⟨hc, hs⟩
  let s := ((b.senses.setLevel b.bus.simLevel).before k).read k.family
  have hrun : (sense k.family).run c = (b.upcoming k, { c with senses := s.2 }) := by
    rw [run_sense, hs]
    rfl
  have hsensed : Progress l b done reported rs { c with senses := s.2 } :=
    hc.quiet [] rfl rfl (fun _ => rfl) rfl
  rcases hk with ⟨e, he, hu⟩ | ⟨r, hr, -, -⟩
  · rw [he] at hrun ⊢
    obtain ⟨c', hrun', hmissed⟩ := run_attempt_unavailable hrun hu
    rw [hrun', List.filter_cons_of_pos (isUnread_of_error he)]
    exact ⟨⟨hsensed.missed hmissed, hmissed.senses⟩, rfl⟩
  · rw [hr] at hrun ⊢
    rw [run_attempt_ok hrun, List.filter_cons_of_neg (Bool.eq_false_iff.mp (isUnread_of_ok hr)),
      List.filter_nil, List.append_nil]
    exact ⟨⟨hsensed, rfl⟩, rfl⟩

/-- **A reading is applied, or its family reported.** -/
theorem leads_used {setup : Setup} (hl : setup.limits.Accepted) (h64 : setup.limits.Is64)
    (hb : b.Savable) (hdone : k ∉ done) :
    Leads (Progress setup.limits b done reported rs)
      (apply setup k (b.upcoming k).toOption)
      (fun o c => Progress setup.limits b (done ++ [k])
        (reported ++ [k].filter (b.isSpoiled setup.limits)) rs c ∧ o = b.usable setup.limits k)
      fun _ _ => False := by
  refine ⟨fun c hc => ?_⟩
  rcases hk with ⟨e, he, -⟩ | ⟨r, hr, rfl, hn⟩
  · rw [he, List.filter_cons_of_neg (Bool.eq_false_iff.mp (isSpoiled_of_error he)),
      List.filter_nil, List.append_nil]
    exact ⟨hc.unfelt hdone (usable_of_error he), (usable_of_error he).symm⟩
  obtain ⟨p, hp, -⟩ := hb.whole.organ? r.organ
  obtain ⟨o, ho, hsame⟩ := hc.organs r.organ p hp
  rw [if_neg hdone] at hsame
  have hh : o.health.IsHealth := hsame ▸ hb.stored r.organ p hp
  have hhas : c.topology.has r.organ = true := Topology.has_iff_exists.mpr ⟨o, ho⟩
  rw [hr]
  rcases penalties_cases hl hn with ⟨ps, hps⟩ | ⟨e, he, hu⟩
  · have husable : b.usable setup.limits r.organ = some r := usable_of_penalties hr hps
    obtain ⟨x, hx, -, hfeel⟩ := feel_exact h64 hl.stepped ho hh hps
    obtain ⟨text, hrun⟩ := run_feel_ok hfeel
    rw [show (apply setup r.organ (.ok r : Except Fault Reading).toOption).run c = _ from
      run_apply hhas (run_attempt_ok hrun),
      List.filter_cons_of_neg (Bool.eq_false_iff.mp (isSpoiled_of_usable husable)),
      List.filter_nil, List.append_nil]
    have hfelt : Felt setup.limits b r.organ o.health x := by
      unfold Felt
      rw [husable]
      exact hx
    exact ⟨(hc.felt hdone ho hfelt).quiet [] rfl rfl (fun _ => rfl) rfl, husable.symm⟩
  · have hnone : b.usable setup.limits r.organ = none := usable_of_broken hr he
    have hfeel : c.topology.feel setup.limits r.organ r = .error e := by
      unfold Topology.feel
      rw [Topology.organ_eq ho]
      show (setup.limits.next r.organ r o.health >>= _) = _
      unfold Limits.next
      rw [he]
      rfl
    obtain ⟨c', hrun, hmissed⟩ := run_attempt_unavailable (run_feel_error hfeel) hu
    rw [show (apply setup r.organ (.ok r : Except Fault Reading).toOption).run c = _ from
      run_apply hhas hrun, List.filter_cons_of_pos (isSpoiled_of_ok hr hnone)]
    exact ⟨(hc.unfelt hdone hnone).missed hmissed, hnone.symm⟩

end

section
variable {l : Limits} {b : Body} {done reported : List OrganKind} {rs : Option Readings}
  {E : Fault → Body → Prop}

theorem leads_remembered (tick : Nat) (cpu memory io : Option Reading) :
    Leads (Progress l b done reported rs) (remember tick cpu memory io)
      (fun _ => Progress l b done reported
        (if cpu.isSome && memory.isSome && io.isSome then some { tick, cpu, memory, io } else rs))
      E := by
  refine leads_ite (fun h => leads_update fun c hc => ?_) fun h => leads_pure fun c hc => ?_
  · rw [if_pos h]
    exact ⟨hc.organs, hc.posted, rfl⟩
  · rw [if_neg h]
    exact hc

theorem leads_refreshed (hb : b.topology.Whole) :
    Leads (Progress l b done reported rs) refreshAwareness (fun _ => Progress l b done reported rs)
      E := by
  unfold refreshAwareness
  refine leads_bind (Q := fun c c' => c = c' ∧ Progress l b done reported rs c')
    (leads_get fun _ h => ⟨rfl, h⟩) fun c => ?_
  refine leads_bind (Q := fun _ => Progress l b done reported rs) (leads_ofExcept ?_ ?_) fun x => ?_
  · exact fun _ _ _ h => h.2
  · rintro e he _ ⟨rfl, hc⟩
    have there : ∀ k, ∃ o, c.topology.organ? k = some o := by
      intro k
      obtain ⟨p, hp, -⟩ := hb.organ? k
      obtain ⟨o, ho, -⟩ := hc.organs k p hp
      exact ⟨o, ho⟩
    obtain ⟨cortex, hcortex⟩ := there .cortex
    obtain ⟨memory, hmemory⟩ := there .memory
    obtain ⟨io, hio⟩ := there .ioBridge
    rw [Topology.awareness_eq hcortex hmemory hio] at he
    cases he
  · refine leads_bind (Q := fun _ => Progress l b done reported rs) (leads_update fun c hc => ?_)
      fun _ => leads_pure fun _ h => h
    exact hc.quiet [] rfl rfl (fun _ => rfl) rfl

theorem leads_told (awareness : Number) :
    Leads (Progress l b done reported rs) (do
      let alerts ← Act.evaluate
      alerts.forM fun a => Act.publish (alertMessage a)
      Act.publish (statusMessage (← get).topology awareness))
      (fun _ => Progress l b done reported rs) E := by
  have hpublish : ∀ m : Message, warnings [m] = [] →
      Leads (Progress l b done reported rs) (Act.publish m)
        (fun _ => Progress l b done reported rs) E :=
    fun m hm => leads_update fun c hc => hc.quiet [m] rfl hm (fun _ => rfl) rfl
  have hevaluate : Leads (Progress l b done reported rs) Act.evaluate
      (fun _ => Progress l b done reported rs) E := by
    refine ⟨fun c hc => ?_⟩
    show Progress l b done reported rs c.evaluate.1
    refine hc.quiet [] rfl rfl (fun k => ?_) rfl
    show (c.topology.evaluate.1.organ? k).map _ = _
    rw [Topology.organ?_evaluate, Option.map_map]
    rfl
  refine leads_bind hevaluate fun alerts => ?_
  have halerts : Leads (Progress l b done reported rs)
      (alerts.forM fun a => Act.publish (alertMessage a))
      (fun _ => Progress l b done reported rs) E := by
    induction alerts with
    | nil => exact leads_pure fun _ h => h
    | cons a alerts ih =>
      show Leads _ (Act.publish (alertMessage a) >>= fun _ => alerts.forM _) _ _
      exact leads_bind (hpublish _ rfl) fun _ => ih
  refine leads_bind halerts fun _ => ?_
  exact leads_bind (Q := fun _ => Progress l b done reported rs) (leads_get fun _ h => h)
    fun c => hpublish _ rfl

end

def rememberedOf (l : Limits) (b : Body) (tick : Nat) : Option Readings :=
  let cpu := b.usable l .cortex
  let memory := b.usable l .memory
  let io := b.usable l .ioBridge
  if cpu.isSome && memory.isSome && io.isSome then some { tick, cpu, memory, io } else b.readings

section
variable {l : Limits} (hl : l.Accepted) {b : Body} (hk : ∀ k, b.Orderly k)
include hl hk

theorem rememberedOf_good {cpu memory io : Reading} (hcpu : b.upcoming .cortex = .ok cpu)
    (hmemory : b.upcoming .memory = .ok memory) (hio : b.upcoming .ioBridge = .ok io)
    (hcpuf : cpu.Finite) (hmemoryf : memory.Finite) (hiof : io.Finite) (tick : Nat) :
    rememberedOf l b tick = some ⟨tick, some cpu, some memory, some io⟩ := by
  unfold rememberedOf
  rw [(usable_eq_some_iff hl (hk .cortex)).mpr ⟨hcpu, hcpuf⟩,
    (usable_eq_some_iff hl (hk .memory)).mpr ⟨hmemory, hmemoryf⟩,
    (usable_eq_some_iff hl (hk .ioBridge)).mpr ⟨hio, hiof⟩]
  rfl

theorem rememberedOf_bad {k : OrganKind} (hbad : ¬ b.Good k) (tick : Nat) :
    rememberedOf l b tick = b.readings := by
  have hnone := (usable_eq_none_iff hl (hk k)).mpr hbad
  unfold rememberedOf
  dsimp only
  cases k <;> simp [hnone]

end

/-- **A run of the status daemon applies each reading that can be used, and reports the others.** -/
theorem leads_families {setup : Setup} (hl : setup.limits.Accepted) (h64 : setup.limits.Is64)
    {b : Body} (hb : b.Savable) (hk : ∀ k, b.Orderly k) (tick : Nat) :
    Leads (fun c => c = b) (status setup tick)
      (fun _ => Progress setup.limits b [.cortex, .memory, .ioBridge] (reports setup.limits b)
        (rememberedOf setup.limits b tick))
      fun _ _ => False := by
  unfold status
  refine leads_bind (Q := fun _ c => Progress setup.limits b [] [] b.readings c ∧
    c.senses = (b.senses.setLevel b.bus.simLevel).before .cortex) (leads_update ?_) fun _ => ?_
  · rintro c rfl
    exact ⟨(progress_refl _ c).quiet [] rfl rfl (fun _ => rfl) rfl, rfl⟩
  refine leads_bind (leads_sensed (hk .cortex)) fun cpu => leads_assume ?_
  rintro rfl
  refine leads_bind (leads_sensed (hk .memory)) fun memory => leads_assume ?_
  rintro rfl
  refine leads_bind (leads_sensed (hk .ioBridge)) fun io => leads_assume ?_
  rintro rfl
  refine Leads.mono_start (P := Progress setup.limits b [] _ b.readings) ?_ fun _ h => h.1
  refine leads_bind (leads_used (hk .cortex) hl h64 hb (by decide)) fun cpu => leads_assume ?_
  rintro rfl
  refine leads_bind (leads_used (hk .memory) hl h64 hb (by decide)) fun memory => leads_assume ?_
  rintro rfl
  refine leads_bind (leads_used (hk .ioBridge) hl h64 hb (by decide)) fun io => leads_assume ?_
  rintro rfl
  rw [← reports_eq]
  refine leads_bind (leads_remembered tick _ _ _) fun _ => ?_
  exact leads_bind (leads_refreshed hb.whole) fun awareness => leads_told awareness

theorem warnings_stampAll (n : Nat) (tick : Int) (ms : List Message) :
    ((Bus.stampAll n tick ms).filter (·.kind == .warning)).map (·.payload) = warnings ms := by
  unfold warnings
  conv_rhs => rw [← Bus.toMessage_stampAll n tick ms]
  rw [List.filter_map, List.map_map]
  rfl

/-- **Families fail independently.**  After a run of the status daemon, each organ whose reading was
good has the next health, and every other organ the health that it had; each family that was not
good is named by one warning; and the readings are remembered if all of them were good. -/
theorem families_independent {setup : Setup} (hl : Settings.checkHealth setup.limits = .ok ())
    (hp : ∃ entries, setup.limits.maxPenalties = .map entries ∧ ∀ e ∈ entries, e.2.IsNumeric)
    (h64 : setup.limits.Is64) {b : Body} (hb : b.Savable) (hk : ∀ k, b.Orderly k) (tick : Nat) :
    ∃ b', (status setup tick).run b = (.ok (), b') ∧
      (∀ k o, b.topology.organ? k = some o → ∃ o', b'.topology.organ? k = some o' ∧
        (∀ r, b.upcoming k = .ok r → r.Finite →
          setup.limits.next k r o.health = .ok o'.health) ∧
        (¬ b.Good k → o'.health = o.health)) ∧
      (∃ ps, ∃ ks : List OrganKind, b'.bus.pending = b.bus.pending ++ ps ∧ ks.Nodup ∧
        (∀ k, k ∈ ks ↔ ¬ b.Good k) ∧ (ps.filter (·.kind == .warning)).map (·.payload) =
          ks.map fun k => [("organ", .text k.label)]) ∧
      (∀ cpu memory io, b.upcoming .cortex = .ok cpu → b.upcoming .memory = .ok memory →
        b.upcoming .ioBridge = .ok io → cpu.Finite → memory.Finite → io.Finite →
        b'.readings = some ⟨tick, some cpu, some memory, some io⟩) ∧
      ((∃ k, ¬ b.Good k) → b'.readings = b.readings) := by
  have hstepped := Settings.stepped_of_checkHealth hl
  have hacc : setup.limits.Accepted := ⟨hstepped.maxStep, hstepped.recoveryStep, hp⟩
  have hrun := (leads_families hacc h64 hb hk tick).after b rfl
  rcases hr : (status setup tick).run b with ⟨e | ⟨⟩, b'⟩
  · rw [hr] at hrun
    exact hrun.elim
  rw [hr] at hrun
  have hprogress : Progress setup.limits b [.cortex, .memory, .ioBridge] (reports setup.limits b)
    (rememberedOf setup.limits b tick) b' := hrun
  refine ⟨b', rfl, fun k o ho => ?_, ?_, ?_, ?_⟩
  · obtain ⟨o', ho', hfelt⟩ := hprogress.organs k o ho
    rw [if_pos (by cases k <;> decide)] at hfelt
    exact ⟨o', ho', hfelt.next hacc (hk k)⟩
  · obtain ⟨ms, hms, hw⟩ := hprogress.posted
    refine ⟨_, reports setup.limits b, Bus.pending_of_mail hms, reports_nodup, fun k => ?_, ?_⟩
    · rw [mem_reports, usable_eq_none_iff hacc (hk k)]
    · rw [warnings_stampAll, hw]
      rfl
  · intro cpu memory io hcpu hmemory hio hcpuf hmemoryf hiof
    rw [hprogress.readings]
    exact rememberedOf_good hacc hk hcpu hmemory hio hcpuf hmemoryf hiof tick
  · rintro ⟨k, hbad⟩
    rw [hprogress.readings]
    exact rememberedOf_bad hacc hk hbad tick

theorem standard_limits : Settings.checkHealth Limits.standard = .ok () ∧ Limits.standard.Is64 := by
  have h : (Settings.checkHealth Limits.standard).isOk = true := by decide +kernel
  obtain ⟨⟨⟩, h⟩ := ok_of_isOk h
  refine ⟨h, ?_, ?_⟩
  · rintro _ ⟨⟩
    exact Number.is64_round _
  · rintro _ ⟨⟩
    exact Number.is64_round _

theorem savable_sample {senses : Senses} {dice : Dice} :
    Savable { topology := .sample 1, senses, dice } := by
  refine ⟨Topology.sample_whole Number.inUnit_one, fun k o ho => ?_⟩
  rw [Topology.sample_health o (Topology.mem_of_organ? ho)]
  exact ⟨1, rfl, zero_le_one, le_refl 1, Binary64.representable_one⟩

/-- the first family is unavailable, the second not finite, and the third is good -/
theorem families_independent_mixed :
    let setup : Setup := ⟨.standard, .standard, .ofString "state", true⟩
    let b : Body := {
      topology := .sample 1
      senses := .script (fun _ f =>
        match f with
        | .cpu => .error (.unavailable "cortex" "no counters")
        | .memory => .ok (.memory { MemoryReading.nominal with ramUsed := .real .nan })
        | .io => .ok (.io .nominal)) 0
      dice := .scripted [] }
    ∃ b', (status setup 7).run b = (.ok (), b') ∧ b'.readings = b.readings ∧
      (∃ o, b'.topology.organ? .ioBridge = some o ∧
        setup.limits.next .ioBridge (.io .nominal) 1 = .ok o.health) ∧
      ∃ o, b'.topology.organ? .memory = some o ∧ o.health = 1 := by
  intro setup b
  have hk : ∀ k, b.Orderly k := by
    intro k
    cases k with
    | cortex => exact .inl ⟨_, rfl, _, _, rfl⟩
    | memory =>
      exact .inr ⟨_, rfl, rfl, numeric_of_forall ⟨⟨_, rfl⟩, ⟨_, rfl⟩, ⟨_, rfl⟩, _, rfl⟩⟩
    | ioBridge => exact .inr ⟨_, rfl, rfl, nominal_numeric .io⟩
  have hio : (Reading.io .nominal).Finite := by decide +kernel
  have hmemory : ¬ b.Good .memory := by
    rintro ⟨r, hr, hf⟩
    cases hr
    obtain ⟨x, hx, hxf⟩ := hf _ (.head _)
    cases hx
    cases hxf
  obtain ⟨hl, h64⟩ := standard_limits
  have hl : Settings.checkHealth setup.limits = .ok () := hl
  obtain ⟨b', hrun, horgans, -, -, hreadings⟩ :=
    families_independent hl ⟨[], rfl, List.forall_mem_nil _⟩ h64 savable_sample hk 7
  obtain ⟨o, ho, hgood, -⟩ := horgans .ioBridge _ rfl
  obtain ⟨o', ho', -, hbad⟩ := horgans .memory _ rfl
  exact ⟨b', hrun, hreadings ⟨_, hmemory⟩, ⟨o, ho, hgood _ rfl hio⟩, o', ho', hbad hmemory⟩

/-- every value is a number proper, but for the count of throttling events, which is whole -/
def Typed (r : Reading) : Prop :=
  ∀ p ∈ r.fields, if p.1 = "throttling_events" then ∃ n, p.2 = .whole n
    else ∃ x : Number, p.2 = .real x

theorem typed_nominal (f : Family) : Typed f.nominal := by
  intro p hp
  cases f <;>
    · simp only [Family.nominal, Reading.fields, List.mem_cons, List.not_mem_nil, or_false] at hp
      rcases hp with rfl | rfl | rfl | rfl | rfl <;> exact ⟨_, rfl⟩

/-- a count that is too large for a number keeps the next organ from its reading -/
theorem not_all_independent :
    ¬ ∀ (setup : Setup) (b : Body) (tick : Nat), Settings.checkHealth setup.limits = .ok () →
      (∃ entries, setup.limits.maxPenalties = .map entries ∧ ∀ e ∈ entries, e.2.IsNumeric) →
      setup.limits.Is64 → b.Savable →
      (∀ k, (∃ e, b.upcoming k = .error e ∧ IsUnavailable e) ∨
        ∃ r, b.upcoming k = .ok r ∧ r.organ = k ∧ Typed r) →
      ∀ k o r, b.topology.organ? k = some o → b.upcoming k = .ok r → r.Finite →
        ∃ o', ((status setup tick).run b).2.topology.organ? k = some o' ∧
          setup.limits.next k r o.health = .ok o'.health := by
  intro hall
  let setup : Setup := ⟨.standard, .standard, .ofString "state", true⟩
  let cpu : CpuReading := { CpuReading.nominal with throttling := .whole (10 ^ 400) }
  let memory : MemoryReading := { MemoryReading.nominal with ramUsed := .real (.finite 1) }
  let b : Body := {
    topology := .sample 1
    senses := .script (fun _ f =>
      match f with
      | .cpu => .ok (.cpu cpu)
      | .memory => .ok (.memory memory)
      | .io => .ok (.io .nominal)) 0
    dice := .scripted [] }
  have hk : ∀ k, (∃ e, b.upcoming k = .error e ∧ IsUnavailable e) ∨
      ∃ r, b.upcoming k = .ok r ∧ r.organ = k ∧ Typed r := by
    intro k
    refine .inr ?_
    cases k with
    | cortex =>
      refine ⟨_, rfl, rfl, fun p hp => ?_⟩
      simp only [Reading.fields, List.mem_cons, List.not_mem_nil, or_false] at hp
      rcases hp with rfl | rfl | rfl | rfl | rfl <;> exact ⟨_, rfl⟩
    | memory =>
      refine ⟨_, rfl, rfl, fun p hp => ?_⟩
      simp only [Reading.fields, List.mem_cons, List.not_mem_nil, or_false] at hp
      rcases hp with rfl | rfl | rfl | rfl <;> exact ⟨_, rfl⟩
    | ioBridge => exact ⟨_, rfl, rfl, typed_nominal .io⟩
  have hmemory : (Reading.memory memory).Finite := by decide +kernel
  obtain ⟨hl, h64⟩ := standard_limits
  obtain ⟨o, ho, hnext⟩ := hall setup b 1 hl ⟨[], rfl, List.forall_mem_nil _⟩ h64 savable_sample hk
    .memory _ _ rfl rfl hmemory
  have hold : (((status setup 1).run b).2.topology.organ? .memory).map (·.health) = some 1 := by
    decide +kernel
  have hlower : (setup.limits.next .memory (.memory memory) 1).toOption ≠ some 1 := by
    decide +kernel
  rw [ho, Option.map_some] at hold
  apply hlower
  rw [show setup.limits.next .memory (.memory memory) 1 = .ok o.health from hnext]
  exact hold

end Duty
end Organism
