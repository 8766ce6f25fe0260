import Organism.Proofs.Command.Saving
import Organism.Proofs.Scheduler.Turns

/-!
# What is saved is taken back

A command saves the healths at some point of a run.  As long as nobody writes the file again, a
command takes them back later, and so does another organism before its first tick.

* `Turn.Overwrites`       the turn changes what is read at the path;
* `Genuine.saved`         a command that saves with success leaves the healths in the file;
* `Genuine.read_kept`     **no other turn changes what is read at the path**;
* `Genuine.loaded`        a command that loads takes over what is there;
* `Path.holding`          the file holds the saved healths on the whole way;
* `saved_state_restored`  **saved healths are taken back exactly**, in both ways.
-/

namespace Organism

attribute [local instance] Rounding.binary64

open Act Body

/-! ## turns -/

/-- a state is saved where the path leads, or someone else changes what is read there -/
def Turn.Overwrites (setup : Setup) (path : FilePath) (x : Turn) : Prop :=
  (∃ r, x.request? = some r ∧ r.operation = .save ∧ x.succeeded = true ∧
      x.after.files.place? (Command.statePath setup r) = x.after.files.place? path) ∨
    (x.actor = .outside ∧ x.after.files.read path ≠ x.before.files.read path)

namespace Turn.Genuine

variable {setup : Setup} {x : Turn} {r : Request} {path : FilePath} {bytes : List UInt8}
  {s : Topology} (hx : x.Genuine setup)
include hx

theorem saved (hreq : x.request? = some r) (hr : r.operation = .save)
    (hok : x.succeeded = true) : x.before.Saved (Command.statePath setup r) x.after := by
  rcases hx.command_ends hreq (Command.leads_save setup hr x.before) rfl with
    ⟨result, hsucceeded, hw⟩ | ⟨e, b', hsucceeded, -⟩
  · rcases hw with ⟨-, hw⟩ | ⟨hf, -⟩
    · exact hw
    · rw [hsucceeded, hf] at hok
      cases hok
  · rw [hsucceeded] at hok
    cases hok

/-- **What is read at the path changes in no turn but those that overwrite it.** -/
theorem read_kept (hover : ¬ x.Overwrites setup path)
    (hread : x.before.files.read path = .ok bytes) : x.after.files.read path = .ok bytes := by
  have hkept : FileSystem.Keeps [] x.before.files x.after.files →
      x.after.files.read path = .ok bytes := fun hk =>
    FileSystem.read_keeps hk hread fun _ _ => List.not_mem_nil
  by_cases hw : x.actor.Writes
  · cases ha : x.actor with
    | command r outcome =>
      rw [ha] at hw
      have hreq : x.request? = some r := by
        unfold request?
        rw [ha]
      rcases hx.command_ends hreq (Command.leads_save setup hw x.before) rfl with
        ⟨result, hsucceeded, ⟨hok, -, place, hplace, hk⟩ | ⟨-, hk⟩⟩ | ⟨e, b', -, hk, hfiles, -⟩
      · refine FileSystem.read_keeps hk hread fun other hother hmem => hover (.inl ?_)
        obtain rfl := List.mem_singleton.mp hmem
        exact ⟨r, hreq, hw, hsucceeded.trans hok, hplace.trans hother.symm⟩
      · exact hkept hk
      · exact hkept (hfiles ▸ hk)
    | outside =>
      by_contra hne
      refine hover (.inr ⟨ha, fun he => hne ?_⟩)
      rw [he]
      exact hread
    | _ =>
      rw [ha] at hw
      exact hw.elim
  · obtain ⟨S, hc, hfiles, -⟩ := hx.course
    rw [hc.files fun hS => hw (hfiles hS)]
    exact hread

/-- **A command takes over the healths that a file holds.** -/
theorem loaded (hreq : x.request? = some r) (hr : r.operation = .load) (hs : s.Whole)
    (hnum : s.Each Number.IsHealth) (hb : Holding (Command.statePath setup r) s x.before) :
    x.succeeded = true ∧ Restored s x.after := by
  rcases hx.command_ends hreq (Command.leads_load setup hr hs hnum) hb with
    ⟨result, hsucceeded, hok, hres⟩ | ⟨e, b', -, hf, -⟩
  · exact ⟨hsucceeded.trans hok, hres⟩
  · exact hf.elim

theorem savable (hb : x.before.Savable) : x.after.Savable := by
  obtain ⟨S, hc, -, -⟩ := hx.course
  exact hb.course hc

end Turn.Genuine

namespace Path

variable {setup : Setup} {b b' : Body} {xs : List Turn} {path : FilePath} {s : Topology}

theorem savable (h : Path setup b xs b') (hb : b.Savable) : b'.Savable :=
  h.preserves (fun _ _ hx => hx.savable) hb

theorem holding (h : Path setup b xs b') (hxs : ∀ x ∈ xs, ¬ x.Overwrites setup path)
    (hb : b.Savable) (hread : b.files.read path = .ok (Utf8.encode (State.write s))) :
    Holding path s b' := by
  refine ⟨(h.savable hb).whole, ?_⟩
  exact h.preserves (P := fun b => b.files.read path = .ok (Utf8.encode (State.write s)))
    (fun x hmem hx => hx.read_kept (hxs x hmem)) hread

end Path

/-! ## runs -/

namespace Scheduler

variable {settings : Settings} {setup : Setup} {t : Topology} {senses : Senses}
  {files : FileSystem} {s : Scheduler}

/-- **Saved healths are taken back exactly.**  In a run of an organism with all organs, a command
saves the healths with success, and for some turns afterwards nobody writes the file again.  Then

* a command that loads from the same path succeeds, and
* a new organism with all organs, whatever its settings, takes them over before its first tick,

and in both cases the healths are the saved ones, and the awareness is the one of these healths. -/
theorem saved_state_restored (ht : t.Whole) (hnum : State.Storable t)
    (h : build settings setup t senses files = .ok s) {es : List Event} {pre mid post : List Turn}
    {x : Turn} {r : Request} (hturns : s.turns es = pre ++ x :: (mid ++ post))
    (hreq : x.request? = some r) (hr : r.operation = .save) (hsave : x.succeeded = true)
    (hmid : ∀ y ∈ mid, ¬ y.Overwrites setup (Command.statePath setup r)) :
    ∃ c m i, x.before.topology.healths = [(.cortex, c), (.memory, m), (.ioBridge, i)] ∧
      (∀ y post' r', post = y :: post' → y.request? = some r' → r'.operation = .load →
        Command.statePath setup r' = Command.statePath setup r →
          y.succeeded = true ∧ y.after.topology.healths = x.before.topology.healths ∧
            y.after.bus.awareness = awarenessOf c m i) ∧
      ∀ settings' setup' t' senses' s', t'.Whole →
        build settings' setup' t' senses' (Turn.bodyAfter x.after mid).files = .ok s' →
          let restored := s'.act (Act.restore (Command.statePath setup r))
          restored.1 = .ok true ∧
            restored.2.body.topology.healths = x.before.topology.healths ∧
            restored.2.body.bus.awareness = awarenessOf c m i := by
  obtain ⟨hsetup, htopology, -, -⟩ := build_parts h
  have hp := path_turns (build_standard h) es
  rw [hturns, hsetup] at hp
  obtain ⟨hpre, hx, hrest⟩ := hp.split_at
  obtain ⟨b, hway, hpost⟩ := hrest.split
  have hbefore : x.before.Savable := by
    refine hpre.savable ⟨?_, ?_⟩
    · rw [htopology]
      exact ht
    · rw [htopology]
      exact Topology.storable_iff_each.mp hnum
  obtain ⟨hread, -⟩ := hx.saved hreq hr hsave
  have hb : Holding (Command.statePath setup r) x.before.topology b :=
    hway.holding hmid (hx.savable hbefore) hread
  obtain ⟨c, m, i, hhealths, -⟩ := hbefore.whole.healths_eq
  have hend : ∀ {b' : Body}, Restored x.before.topology b' →
      b'.topology.healths = x.before.topology.healths ∧ b'.bus.awareness = awarenessOf c m i := by
    intro b' hres
    obtain ⟨c', m', i', he, ha⟩ := hres.awareness
    rw [hhealths] at he
    cases he
    exact ⟨hres.healths, ha⟩
  refine ⟨c, m, i, hhealths, ?_, ?_⟩
  · rintro y post' r' rfl hreq' hload hpath
    cases hpost with
    | cons hy _ =>
      rw [← hpath] at hb
      obtain ⟨hok, hres⟩ := hy.loaded hreq' hload hbefore.whole hbefore.stored hb
      exact ⟨hok, hend hres⟩
  · intro settings' setup' t' senses' s' ht' h' restored
    obtain ⟨-, htopology', hfiles', -⟩ := build_parts h'
    have hb' : Holding (Command.statePath setup r) x.before.topology s'.body := by
      refine ⟨htopology' ▸ ht', ?_⟩
      rw [hfiles', ← hway.end_eq]
      exact hb.file
    obtain ⟨hok, hres⟩ := run_restore hbefore.whole hbefore.stored hb'
    exact ⟨hok, hend hres⟩

/-- a damaged memory is saved, healed, and as it was saved once more -/
theorem saved_state_restored_memory :
    let events : List Event :=
      [.submit { operation := .damage, organ := some .memory, amount := some 0.25 },
        .submit { operation := .save },
        .submit { operation := .heal, organ := some .memory, amount := some 0.125 },
        .submit { operation := .load }, .step]
    ∃ s pre x y z, build .standard (setupOf .standard) (.sample 1)
        (.script (fun _ f => .ok f.nominal) 0) {} = .ok s ∧
      s.turns events = pre ++ x :: ([y] ++ [z]) ∧
      x.request? = some { operation := .save } ∧ x.succeeded = true ∧
      y.request? = some { operation := .heal, organ := some .memory, amount := some 0.125 } ∧
      z.request? = some { operation := .load } ∧ z.succeeded = true ∧
      z.after.topology.healths = x.before.topology.healths := by
  intro events
  have hrun : (build .standard (setupOf .standard) (.sample 1)
      (.script (fun _ f => .ok f.nominal) 0) {}).toOption.map (fun s =>
        (s.turns events).map fun x => (x.request?, x.succeeded)) =
      some [(none, false),
        (some { operation := .damage, organ := some .memory, amount := some 0.25 }, true),
        (some { operation := .save }, true),
        (some { operation := .heal, organ := some .memory, amount := some 0.125 }, true),
        (some { operation := .load }, true)] := by decide +kernel
  have hbuilt : (build .standard (setupOf .standard) (.sample 1)
      (.script (fun _ f => .ok f.nominal) 0) {}).isOk = true := by decide +kernel
  obtain ⟨s, h⟩ := ok_of_isOk hbuilt
  rw [h] at hrun
  have hmap := Option.some.inj hrun
  obtain ⟨a, l, hturns, -, hmap⟩ := List.map_eq_cons_iff.mp hmap
  obtain ⟨d, l, rfl, -, hmap⟩ := List.map_eq_cons_iff.mp hmap
  obtain ⟨x, l, rfl, hx, hmap⟩ := List.map_eq_cons_iff.mp hmap
  obtain ⟨y, l, rfl, hy, hmap⟩ := List.map_eq_cons_iff.mp hmap
  obtain ⟨z, l, rfl, hz, hmap⟩ := List.map_eq_cons_iff.mp hmap
  obtain rfl := List.map_eq_nil_iff.mp hmap
  obtain ⟨hxreq, hxok⟩ := Prod.mk.inj hx
  obtain ⟨hyreq, -⟩ := Prod.mk.inj hy
  obtain ⟨hzreq, -⟩ := Prod.mk.inj hz
  have hmid : ∀ u ∈ [y], ¬ u.Overwrites (setupOf .standard)
      (Command.statePath (setupOf .standard) { operation := .save }) := by
    intro u hu hover
    obtain rfl := List.mem_singleton.mp hu
    rcases hover with ⟨r, hr, hop, -⟩ | ⟨ha, -⟩
    · rw [hyreq] at hr
      cases hr
      cases hop
    · unfold Turn.request? at hyreq
      rw [ha] at hyreq
      cases hyreq
  have hnum : State.Storable (.sample 1) := Topology.storable_iff_each.mpr fun k o ho => by
    rw [Topology.sample_health o (Topology.mem_of_organ? ho)]
    exact ⟨1, rfl, zero_le_one, le_rfl, Binary64.representable_one⟩
  have hsplit : s.turns events = [a, d] ++ x :: ([y] ++ [z]) := hturns
  obtain ⟨c, m, i, -, hload, -⟩ :=
    saved_state_restored (Topology.sample_whole Number.inUnit_one) hnum h hsplit hxreq rfl hxok hmid
  obtain ⟨hok, hhealths, -⟩ := hload z [] _ rfl hzreq rfl rfl
  exact ⟨s, [a, d], x, y, z, h, hsplit, hxreq, hxok, hyreq, hzreq, hok, hhealths⟩

end Scheduler
end Organism
