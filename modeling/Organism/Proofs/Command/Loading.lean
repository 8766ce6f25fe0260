import Organism.Proofs.Command.Answers

/-!
# Two ways to take healths from a file

Before the first tick healths are restored from a file, and a failure is only noted.  Later a command
loads them, and a failure is its result.

* `storage_loadState`        loading fails as storage does, unless no system takes the path;
* `restore_of_error`, …      what each of the two ways makes of the end of loading;
* `restore_agrees_load`      **both lead to the same organs and the same awareness**, and one tells
                             that healths were taken over exactly if the other does.
-/

namespace Organism

attribute [local instance] Rounding.binary64

open Act

theorem Act.isExpected_of_storage {e : Fault} (h : isStorageFault e = true) :
    e.isExpected = true := by
  cases e with
  | malformed => rfl
  | notWritten => rfl
  | notRead => rfl
  | _ => cases h

namespace Command

variable {setup : Setup} {r : Request} {path : FilePath} {b c : Body} {e : Fault}

/-! ## loading -/

theorem storage_loadState (hn : path.hasNul = false) (b : Body) :
    Leads (fun c => c = b) (loadState path)
      (fun _ c => ∃ t' journal, Filled path b t' ∧ c = { b with topology := t', journal := journal })
      fun e c => isStorageFault e = true ∧ c = b := by
  have hfault : Leads (fun _ => True) (loadState path) (fun _ _ => True)
      fun e _ => isStorageFault e = true := by
    unfold loadState
    refine leads_bind (Q := fun _ _ => True) (leads_get fun _ h => h) fun d => ?_
    split
    · next h =>
      rw [FileSystem.read_nul_iff.mp h] at hn
      cases hn
    · exact leads_bind (leads_update fun _ h => h) fun _ => leads_pure fun _ h => h
    · exact leads_throw fun _ _ => rfl
    · refine leads_bind (Q := fun _ _ => True) (leads_onTopology (fun _ h _ _ _ => h) ?_) fun _ =>
        leads_bind (leads_update fun _ h => h) fun _ => leads_pure fun _ h => h
      intro d' _ e' h
      cases hl : d'.topology.loadBytes _ with
      | error cause =>
        rw [hl] at h
        cases h
        rfl
      | ok loaded =>
        rw [hl] at h
        cases h
  exact ((effect_loadState path b).and hfault).weaken (fun _ h => ⟨h, trivial⟩) (fun _ _ h => h.1)
    fun _ _ h => ⟨h.2, h.1⟩

/-! ## what is made of a failure -/

theorem restore_of_error (h : (loadState path).run b = (.error e, b))
    (he : isStorageFault e = true) :
    (restore path).run b = (.ok false,
      b.note .warning .shell s!"Failed to restore state from {path.text}: {e.message}") := by
  have htake : (takeOver path).run b = (.error e, b) := run_bind_error h
  refine (run_tryCatch_error htake).trans ?_
  rw [if_pos he]
  rfl

theorem perform_load (hop : r.operation = .load) (b : Body) :
    (perform setup r).run b = (load setup r).run b := by
  unfold perform
  rw [run_bind_ok (a := get) rfl, hop]

theorem handle_load_of_error (setup : Setup) (hop : r.operation = .load)
    (h : (loadState (statePath setup r)).run b = (.error e, b)) (he : isStorageFault e = true) :
    (handle setup r).run b = (.ok (.failure r.operation e),
      (b.note .warning .commands s!"Command {r.operation.label} failed: {e.message}").publish
        (report r.operation s!"{r.operation.label} failed: {e.message}"
          [("error", .text e.label)])) := by
  have hload : (perform setup r).run b = (.error e, b) :=
    (perform_load hop b).trans (run_bind_error h)
  have hexecute : (execute setup r).run b = (.error e, b) := run_bind_error hload
  refine (run_tryCatch_error hexecute).trans ?_
  rw [if_pos (isExpected_of_storage he)]
  rfl

/-! ## what is made of a success -/

section
variable {values : Option (List (OrganKind × Number))}

theorem restore_of_ok (h : (loadState path).run b = (.ok values, c)) (hw : c.topology.Whole) :
    ∃ x, refreshAwareness.run c = (.ok x, { c with bus := { c.bus with awareness := x } }) ∧
      (restore path).run b =
        (.ok values.isSome, { c with bus := { c.bus with awareness := x } }) := by
  have hr := (refresh_whole hw).after c rfl
  rcases hrun : refreshAwareness.run c with ⟨e | x, c'⟩
  · rw [hrun] at hr
    exact hr.elim
  · rw [hrun] at hr
    obtain ⟨-, rfl⟩ := hr
    have htake : (takeOver path).run b = _ := (run_bind_ok h).trans (run_bind_ok hrun)
    exact ⟨x, rfl, run_tryCatch_ok htake⟩

def Tells (values : Option (List (OrganKind × Number))) (result : CommandResult) : Prop :=
  result.ok = true ∧ result.data.lookup "loaded" = some (.flag values.isSome)

theorem handle_load_of_ok (setup : Setup) (hop : r.operation = .load)
    (h : (loadState (statePath setup r)).run b = (.ok values, c)) {x : Number} {c' : Body}
    (hx : refreshAwareness.run c = (.ok x, c')) :
    ∃ result, Tells values result ∧
      (handle setup r).run b = (.ok result, c'.publish (report r.operation result.message [])) := by
  have hload : ∃ result, Tells values result ∧ (load setup r).run b = (.ok result, c') := by
    unfold load
    dsimp only
    cases values with
    | none =>
      refine ⟨_, ⟨rfl, ?_⟩, (run_bind_ok h).trans (run_bind_ok hx)⟩
      rfl
    | some values =>
      refine ⟨_, ⟨rfl, ?_⟩, (run_bind_ok h).trans (run_bind_ok hx)⟩
      rfl
  obtain ⟨result, hresult, hload⟩ := hload
  have hexecute : (execute setup r).run b = (.ok result, _) :=
    run_bind_ok ((perform_load hop b).trans hload)
  exact ⟨result, hresult, run_tryCatch_ok hexecute⟩

end

/-! ## both ways -/

/-- **Restoring and loading take the same from a file.**  Whatever files there are, a path that a
system can take is restored from before the first tick as it is loaded from by a command: the organs
are the same after both, with healths and observed tiers, and so is the awareness; and healths were
taken over by the one exactly if the result of the other says so. -/
theorem restore_agrees_load (setup : Setup) {path : String} (hop : r.operation = .load)
    (hr : r.path = some path) (hempty : path ≠ "") (hnul : '\x00' ∉ path.toList)
    (hw : b.topology.Whole) :
    ∃ taken result b₁ b₂, (restore (.ofString path)).run b = (.ok taken, b₁) ∧
      (handle setup r).run b = (.ok result, b₂) ∧
      b₁.topology = b₂.topology ∧ b₁.bus.awareness = b₂.bus.awareness ∧
      (taken = true ↔
        result.ok = true ∧ result.data.lookup "loaded" = some (.flag true)) := by
  have hpath : statePath setup r = .ofString path := by
    have he : path.isEmpty = false := by simpa using hempty
    unfold statePath
    rw [hr]
    dsimp only
    rw [he]
    rfl
  have hn : (FilePath.ofString path).hasNul = false :=
    Bool.eq_false_iff.mpr fun h => hnul (FilePath.mem_of_hasNul h)
  have hend := (storage_loadState hn b).after b rfl
  rcases hload : (loadState (.ofString path)).run b with ⟨e | values, c⟩
  · rw [hload] at hend
    obtain ⟨he, rfl⟩ := hend
    have h₁ := restore_of_error hload he
    have h₂ := handle_load_of_error setup hop (hpath ▸ hload) he
    exact ⟨_, _, _, _, h₁, h₂, rfl, rfl, nofun, fun h => nomatch h.1⟩
  · rw [hload] at hend
    obtain ⟨t', journal, hfilled, rfl⟩ := hend
    obtain ⟨x, hx, h₁⟩ := restore_of_ok hload (hfilled.whole hw)
    obtain ⟨result, ⟨hok, hflag⟩, h₂⟩ := handle_load_of_ok setup hop (hpath ▸ hload) hx
    refine ⟨_, _, _, _, h₁, h₂, rfl, rfl, fun h => ⟨hok, ?_⟩, fun h => ?_⟩
    · rw [hflag, h]
    · rw [hflag] at h
      exact Value.flag.inj (Option.some.inj h.2)

/-- a file that names one organ, at the end of a path with detours -/
theorem restore_agrees_load_partial :
    let b : Body :=
      { topology := .sample 1, senses := .script (fun _ f => .ok f.nominal) 0, dice := .scripted []
        files := ⟨[], [(["old"], .folder), (["state"], .file (Utf8.encode "memory=0.5\n".toList))]⟩ }
    let setup : Setup := ⟨.standard, .standard, .ofString "other", true⟩
    let r : Request := { operation := .load, path := some "old/.././state" }
    b.topology.Whole ∧ ((restore (.ofString "old/.././state")).run b).1.toOption = some true ∧
      ∃ taken result b₁ b₂, (restore (.ofString "old/.././state")).run b = (.ok taken, b₁) ∧
        (handle setup r).run b = (.ok result, b₂) ∧
        b₁.topology = b₂.topology ∧ b₁.bus.awareness = b₂.bus.awareness ∧
        (taken = true ↔
          result.ok = true ∧ result.data.lookup "loaded" = some (.flag true)) := by
  intro b setup r
  have hw : b.topology.Whole := Topology.sample_whole Number.inUnit_one
  refine ⟨hw, by decide +kernel, ?_⟩
  exact restore_agrees_load setup rfl rfl (by decide) (by decide) hw

end Command
end Organism
