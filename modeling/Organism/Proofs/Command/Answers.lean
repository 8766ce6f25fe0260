import Organism.Proofs.Command.Effect
import Organism.Proofs.Command.Saving

/-!
# Which requests are answered

A request is answered with a result, also when it fails, unless it is to save to or load from a path
that holds a character that no path can hold.  That fault is found where nobody expects it.

* `Command.Pathless`      the request saves to or loads from such a path;
* `Command.Usable`        there is a file to load from that can be used, or none at all;
* `answers_loadState`, `answers_saveState`   the faults of loading and saving;
* `answers_perform`       **the faults of each operation are to be expected, or of such a path**;
* `requests_answered`     **all other requests are answered, truly if they save or load**;
* `not_all_answered`      a request that is not.
-/

namespace Organism

attribute [local instance] Rounding.binary64

open Act

namespace Topology

theorem Whole.worstTier_ok {t : Topology} (h : t.Whole) : ∃ s, t.worstTier = .ok s := by
  obtain ⟨o, ho, -⟩ := h.organ? .cortex
  have hm : o.tier ∈ t.tiers.map (·.2) := by
    unfold tiers
    rw [List.map_map]
    exact List.mem_map.mpr ⟨o, mem_organs.mpr ⟨.cortex, ho⟩, rfl⟩
  unfold worstTier
  split
  · next hn =>
    rw [hn] at hm
    cases hm
  · exact ⟨_, rfl⟩

end Topology

namespace Command

/-- the request saves to or loads from a path that no system takes -/
def Pathless (setup : Setup) (r : Request) : Prop :=
  (r.operation = .save ∨ r.operation = .load) ∧ (statePath setup r).hasNul = true

/-- the fault is to be expected, or is that of a path that no system takes -/
def Forgiven (setup : Setup) (r : Request) (e : Fault) : Prop :=
  e.isExpected = true ∨ e = .file .nulInPath ∧ Pathless setup r

/-- healths can be loaded from the file, or there is no file -/
def Usable (path : FilePath) (b : Body) : Prop :=
  (∃ first second, b.files.read path = .error (.os .notFound first second)) ∨
    ∃ bytes loaded, b.files.read path = .ok bytes ∧ b.topology.loadBytes bytes = .ok loaded

variable {setup : Setup} {r : Request} {b : Body}

/-! ## storage -/

theorem answers_saveState (setup : Setup) (hr : r.operation = .save) :
    Leads (fun c => c = b) (saveState (statePath setup r)) (fun _ _ => True)
      fun e _ => Forgiven setup r e := by
  unfold saveState
  refine leads_bind (Q := fun _ _ => True) (leads_get fun _ _ => trivial) fun d => ?_
  dsimp only
  refine leads_bind (Q := fun _ _ => True) (leads_update fun _ _ => trivial) fun _ => ?_
  split
  · exact leads_update fun _ _ => trivial
  · next h => exact leads_throw fun _ _ => .inr ⟨rfl, .inl hr, FileSystem.replace_nul h⟩
  · exact leads_throw fun _ _ => .inl rfl

theorem answers_loadState (setup : Setup) (hr : r.operation = .load) :
    Leads (fun c => c = b) (loadState (statePath setup r))
      (fun _ _ => Usable (statePath setup r) b)
      fun e _ => Forgiven setup r e ∧ ¬ Usable (statePath setup r) b := by
  unfold loadState
  refine leads_bind (Q := fun d c => c = b ∧ d = b) (leads_get fun c h => ⟨h, h⟩) fun d =>
    leads_assume ?_
  rintro rfl
  split
  · next h =>
    refine leads_throw fun _ _ => ⟨.inr ⟨rfl, .inr hr, FileSystem.read_nul_iff.mp h⟩, ?_⟩
    unfold Usable
    rw [h]
    simp
  · next first second h =>
    refine leads_bind (leads_update fun _ _ => ?_) fun _ => leads_pure fun _ h => h
    exact .inl ⟨first, second, h⟩
  · next e hne hos h =>
    refine leads_throw fun _ _ => ⟨.inl rfl, ?_⟩
    unfold Usable
    rw [h]
    rintro (⟨first, second, hf⟩ | ⟨bytes, loaded, hf, -⟩)
    · cases hf
      exact hos first second rfl
    · cases hf
  · next bytes h =>
    refine leads_bind (Q := fun _ _ => Usable (statePath setup r) d) ?_ fun _ =>
      leads_bind (leads_update fun _ h => h) fun _ => leads_pure fun _ h => h
    refine leads_onTopology ?_ ?_
    · rintro c rfl t m hm
      cases hl : c.topology.loadBytes bytes with
      | error e =>
        rw [hl] at hm
        cases hm
      | ok loaded => exact .inr ⟨bytes, loaded, h, hl⟩
    · rintro c rfl e hm
      cases hl : c.topology.loadBytes bytes with
      | error cause =>
        rw [hl] at hm
        cases hm
        refine ⟨.inl rfl, ?_⟩
        rintro (⟨first, second, hf⟩ | ⟨bytes', loaded, hf, hl'⟩)
        · rw [h] at hf
          cases hf
        · rw [h] at hf
          cases hf
          rw [hl] at hl'
          cases hl'
      | ok loaded =>
        rw [hl] at hm
        cases hm

theorem Filled.whole {path : FilePath} {t' : Topology} (h : Filled path b t')
    (hw : b.topology.Whole) : t'.Whole := by
  rcases h with rfl | ⟨bytes, m, -, hl⟩
  · exact hw
  · exact hw.loaded hl

theorem answers_load (setup : Setup) (hr : r.operation = .load) (hw : b.topology.Whole) :
    Leads (fun c => c = b) (load setup r)
      (fun result _ => result.ok = true ∧ Usable (statePath setup r) b)
      fun e _ => Forgiven setup r e ∧ ¬ Usable (statePath setup r) b := by
  have hstate := (answers_loadState (b := b) setup hr).and (effect_loadState (statePath setup r) b)
  unfold load
  dsimp only
  refine leads_bind (hstate.weaken (fun _ h => ⟨h, h⟩) (fun _ _ h => h) fun _ _ h => h.1)
    fun values => ?_
  refine leads_bind (Q := fun _ _ => Usable (statePath setup r) b) ⟨?_⟩ fun x => ?_
  · rintro c ⟨hu, t', journal, ht, rfl⟩
    have hr := refresh_whole (b := { b with topology := t', journal }) (ht.whole hw)
    exact (hr.weaken (fun _ h => h) (fun _ _ _ => hu) fun _ _ h => h.elim).after _ rfl
  · split
    · exact leads_pure fun _ h => ⟨rfl, h⟩
    · exact leads_pure fun _ h => ⟨rfl, h⟩

/-! ## operations -/

/-- **The faults of each operation are to be expected, or those of a path that no system takes.** -/
theorem answers_perform (setup : Setup) (hw : b.topology.Whole) (hr : r.Accepted) :
    Leads (fun c => c = b) (perform setup r) (fun _ _ => True) fun e _ => Forgiven setup r e := by
  cases hop : r.operation.needsOrgan with
  | true =>
    exact (unreported_needsOrgan hw hr hop).weaken (fun _ h => h) (fun _ _ _ => trivial)
      fun _ _ h => h.elim
  | false =>
    have refreshed : Leads (fun c => c = b) refreshAwareness
        (fun _ c => c.topology = b.topology) fun e _ => Forgiven setup r e := by
      refine (refresh_whole hw).weaken (fun _ h => h) ?_ fun _ _ h => h.elim
      rintro x c ⟨-, rfl⟩
      rfl
    have told : ∀ result : CommandResult, Leads (fun c => c = b) (pure result)
        (fun _ _ => True) fun e _ => Forgiven setup r e := fun _ => leads_pure fun _ _ => trivial
    obtain ⟨worst, hworst⟩ := hw.worstTier_ok
    unfold perform
    refine leads_bind (Q := fun d c => c = b ∧ d = b) (leads_get fun c h => ⟨h, h⟩) fun d =>
      leads_assume ?_
    rintro rfl
    cases ho : r.operation with
    | help => exact told _
    | status =>
      unfold Query.status
      refine leads_bind refreshed fun score => ?_
      refine leads_bind (Q := fun c _ => c.topology = d.topology) (leads_get fun _ h => h)
        fun c => ⟨fun b' hc => ?_⟩
      rw [hc, hworst]
      trivial
    | topology => exact told _
    | nodes => exact told _
    | organs => exact told _
    | peripherals => exact told _
    | health => exact told _
    | alerts =>
      refine leads_ofExcept (fun _ _ _ _ => trivial) fun e he _ _ => ?_
      rcases error_of_bind he with he | ⟨s, -, he⟩
      · rw [hworst] at he
        cases he
      · cases he
    | awareness => exact leads_bind refreshed fun _ => leads_pure fun _ _ => trivial
    | metrics => exact told _
    | capabilities => exact told _
    | memory => exact told _
    | damage =>
      rw [ho] at hop
      cases hop
    | heal =>
      rw [ho] at hop
      cases hop
    | setSim =>
      unfold setSim
      dsimp only
      split
      · exact leads_throw fun _ _ => .inl rfl
      · exact leads_bind (Q := fun _ _ => True) (leads_update fun _ _ => trivial)
          fun _ => leads_pure fun _ _ => trivial
    | setLogs =>
      unfold setLogs
      dsimp only
      split
      · exact leads_throw fun _ _ => .inl rfl
      · exact leads_bind (Q := fun _ _ => True) (leads_update fun _ _ => trivial)
          fun _ => leads_pure fun _ _ => trivial
    | save =>
      unfold save
      exact leads_bind (answers_saveState setup ho) fun _ => leads_pure fun _ _ => trivial
    | load =>
      exact (answers_load setup ho hw).weaken (fun _ h => h) (fun _ _ _ => trivial)
        fun _ _ h => h.1

/-! ## requests -/

theorem answers_handle (setup : Setup) (hw : b.topology.Whole) (hr : r.Accepted) :
    Leads (fun c => c = b) (handle setup r) (fun _ _ => True)
      fun e _ => e = .file .nulInPath ∧ Pathless setup r := by
  refine leads_handle (answers_perform setup hw hr) (fun _ _ _ _ _ => trivial)
    (fun _ _ _ _ _ _ _ _ _ => trivial) fun e c he hf => ?_
  rcases hf with h | h
  · rw [he] at h
    cases h
  · exact h

theorem answers_handle_load (setup : Setup) (hop : r.operation = .load) (hw : b.topology.Whole) :
    Leads (fun c => c = b) (handle setup r)
      (fun result _ => result.ok = true ↔ Usable (statePath setup r) b)
      fun _ _ => ¬ Usable (statePath setup r) b := by
  refine leads_handle (Q := fun result _ => result.ok = true ∧ Usable (statePath setup r) b)
    (E := fun _ _ => ¬ Usable (statePath setup r) b) ?_ ?_ ?_ ?_
  · unfold perform
    refine leads_bind (Q := fun _ c => c = b) (leads_get fun _ h => h) fun _ => ?_
    rw [hop]
    exact (answers_load setup hop hw).mono_fault fun _ _ h => h.2
  · exact fun result c _ _ h => ⟨fun _ => h.2, fun _ => h.1⟩
  · exact fun e c _ _ _ _ _ _ h => ⟨nofun, fun hu => absurd hu h⟩
  · exact fun _ _ _ h => h

theorem breaks_off (setup : Setup) (hop : r.operation = .load)
    (hnul : (statePath setup r).hasNul = true) :
    Leads (fun c => c = b) (handle setup r) (fun _ _ => False)
      fun e c => e = .file .nulInPath ∧ c = b := by
  refine leads_handle (Q := fun _ _ => False) (E := fun e c => e = .file .nulInPath ∧ c = b) ?_
    (fun _ _ _ _ h => h) ?_ fun _ _ _ h => h
  · unfold perform
    refine leads_bind (Q := fun _ c => c = b) (leads_get fun _ h => h) fun _ => ?_
    rw [hop]
    unfold load
    refine leads_bind (Q := fun _ _ => False) ?_ fun _ => ⟨fun _ h => h.elim⟩
    unfold loadState
    refine leads_bind (Q := fun d c => c = b ∧ d = b) (leads_get fun c h => ⟨h, h⟩) fun d =>
      leads_assume ?_
    rintro rfl
    rw [FileSystem.read_nul_iff.mpr hnul]
    exact leads_throw fun _ h => ⟨rfl, h⟩
  · rintro e c _ _ _ _ _ he ⟨rfl, -⟩
    cases he

/-- **Every request is answered, unless it saves to or loads from a path that no system takes.**  An
accepted request to a body with all its organs ends with a result, and if it saves or loads, the
result tells whether it did; with such a path a load breaks off without a result, and a save does so
or reports a failure. -/
theorem requests_answered (setup : Setup) (hw : b.topology.Whole) (hr : r.Accepted) :
    (¬ Pathless setup r → ∃ result b', (handle setup r).run b = (.ok result, b')) ∧
    (Pathless setup r →
      (r.operation = .load → (handle setup r).run b = (.error (.file .nulInPath), b)) ∧
      (r.operation = .save → ((handle setup r).run b).1 = .error (.file .nulInPath) ∨
        ∃ result b', (handle setup r).run b = (.ok result, b') ∧ result.ok = false)) ∧
    ∀ result b', (handle setup r).run b = (.ok result, b') →
      (r.operation = .save → Wrote setup r b result b') ∧
      (r.operation = .load → (result.ok = true ↔ Usable (statePath setup r) b)) := by
  have hanswer := (answers_handle setup hw hr).after b rfl
  have hwrote := fun hop => (leads_save setup (r := r) hop b).after b rfl
  refine ⟨fun hpath => ?_, fun hpath => ⟨fun hop => ?_, fun hop => ?_⟩, ?_⟩
  · rcases hrun : (handle setup r).run b with ⟨e | result, b'⟩
    · rw [hrun] at hanswer
      exact absurd hanswer.2 hpath
    · exact ⟨result, b', rfl⟩
  · have h := (breaks_off (b := b) setup hop hpath.2).after b rfl
    rcases hrun : (handle setup r).run b with ⟨e | result, b'⟩
    · rw [hrun] at h
      obtain ⟨rfl, rfl⟩ := h
      rfl
    · rw [hrun] at h
      exact h.elim
  · have h := hwrote hop
    rcases hrun : (handle setup r).run b with ⟨e | result, b'⟩
    · rw [hrun] at hanswer
      obtain ⟨rfl, -⟩ := hanswer
      exact .inl rfl
    · rw [hrun] at h
      rcases h with ⟨-, hread, -⟩ | ⟨hok, -⟩
      · rw [FileSystem.read_nul_iff.mpr hpath.2] at hread
        cases hread
      · exact .inr ⟨result, b', rfl, hok⟩
  · intro result b' hrun
    refine ⟨fun hop => ?_, fun hop => ?_⟩
    · have h := hwrote hop
      rw [hrun] at h
      exact h
    · have h := (answers_handle_load setup hop hw).after b rfl
      rw [hrun] at h
      exact h

/-- a save below a file, which is no folder, is answered with a failure -/
theorem requests_answered_below :
    let b : Body :=
      { topology := .sample 1, senses := .script (fun _ f => .ok f.nominal) 0, dice := .scripted []
        files := ⟨[], [(["state"], .file [])]⟩ }
    let setup : Setup := ⟨.standard, .standard, .ofString "state", true⟩
    let r : Request := { operation := .save, path := some "state/now" }
    b.topology.Whole ∧ r.Accepted ∧ ¬ Pathless setup r ∧
      ∃ result b', (handle setup r).run b = (.ok result, b') ∧ Wrote setup r b result b' := by
  intro b setup r
  have hw : b.topology.Whole := Topology.sample_whole Number.inUnit_one
  have hr : r.Accepted := by
    refine ⟨⟨.text "save", .none, .none, .none, .text "state/now"⟩, nofun, ?_⟩
    decide +kernel
  have hpath : ¬ Pathless setup r := by
    rintro ⟨-, hnul⟩
    exact absurd hnul (by decide +kernel)
  obtain ⟨hanswer, -, htrue⟩ := requests_answered (b := b) setup hw hr
  obtain ⟨result, b', hrun⟩ := hanswer hpath
  exact ⟨hw, hr, hpath, result, b', hrun, (htrue result b' hrun).1 rfl⟩

/-- a path with a zero character is accepted in a request, and its load breaks off -/
theorem not_all_answered :
    ¬ ∀ (setup : Setup) (r : Request) (b : Body), b.topology.Whole → r.Accepted →
      ∃ result b', (handle setup r).run b = (.ok result, b') := by
  intro h
  let b : Body :=
    { topology := .sample 1, senses := .script (fun _ f => .ok f.nominal) 0, dice := .scripted [] }
  let setup : Setup := ⟨.standard, .standard, .ofString "state", true⟩
  let r : Request := { operation := .load, path := some "a\x00b" }
  have hr : r.Accepted := by
    refine ⟨⟨.text "load", .none, .none, .none, .text "a\x00b"⟩, nofun, ?_⟩
    decide +kernel
  have hcrash : ((handle setup r).run b).1.isOk = false := by decide +kernel
  obtain ⟨result, b', hrun⟩ := h setup r b (Topology.sample_whole Number.inUnit_one) hr
  rw [hrun] at hcrash
  cases hcrash

end Command
end Organism
