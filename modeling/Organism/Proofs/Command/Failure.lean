import Organism.Command.Handle
import Organism.Proofs.Body.Act
import Organism.Proofs.Fallible
import Organism.Settings.Basic

/-!
# A command that fails changes nothing

Operations fail at various depths: before they begin, in the middle of writing a file, at the end of
reading one.  Whatever is a failure to be expected is found out before anything but files and notes
has been changed, and what fails later is no failure to be expected.

* `Body.Spared`          two bodies that differ in files and notes only;
* `Act.Spares`           an act that spares the body if it fails as is to be expected;
* `spares_saveState`, …  the acts that may fail so;
* `steady_refresh`       the acts that may not, whatever came before them;
* `spares_perform`       **what each operation does, by cases**;
* `leads_handle`         a request ends as its operation does, with a report;
* `failure_changes_nothing`  a request that fails leaves its report behind, and all else as it was.
-/

namespace Organism

/-- the second body has other files and notes, and nothing else -/
def Body.Spared (b b' : Body) : Prop := b' = { b with files := b'.files, journal := b'.journal }

theorem Body.spared_refl (b : Body) : b.Spared b := rfl

theorem Body.Spared.note {b b' : Body} (h : b.Spared b') (level : LogLevel) (source : LogSource)
    (text : String) : b.Spared (b'.note level source text) := by
  unfold Body.Spared at h ⊢
  rw [h]
  rfl

theorem Body.Spared.publish {b b' : Body} (h : b.Spared b') (m : Message) :
    (b.publish m).Spared (b'.publish m) := by
  unfold Body.Spared at h ⊢
  rw [h]
  rfl

/-! ## calculations -/

theorem Topology.organ_error {t : Topology} {k : OrganKind} {e : Fault}
    (h : t.organ k = .error e) : e.isExpected = false := by
  unfold organ at h
  split at h
  · cases h
  · cases h
    rfl

section
variable [Rounding]

theorem Topology.awareness_error {t : Topology} {e : Fault} (h : t.awareness = .error e) :
    e.isExpected = false := by
  rcases error_of_bind h with h | ⟨cortex, -, h⟩
  · exact organ_error h
  rcases error_of_bind h with h | ⟨memory, -, h⟩
  · exact organ_error h
  rcases error_of_bind h with h | ⟨io, -, h⟩
  · exact organ_error h
  · cases h

theorem Topology.worstTier_error {t : Topology} {e : Fault} (h : t.worstTier = .error e) :
    e.isExpected = false := by
  unfold worstTier at h
  split at h
  · cases h
    rfl
  · cases h

end

namespace Act

variable {α β : Type} {a : Act α} {b : Body} {P : Body → Prop} {Q : α → Body → Prop}

def Failed (b : Body) (e : Fault) (b' : Body) : Prop := e.isExpected = true → b.Spared b'

def Spares (b : Body) (a : Act α) (Q : α → Body → Prop) : Prop :=
  Leads (fun b' => b' = b) a Q (Failed b)

def Steady (a : Act α) : Prop :=
  Leads (fun _ => True) a (fun _ _ => True) fun e _ => e.isExpected = false

theorem failed_of_unexpected {e : Fault} (h : e.isExpected = false) (b' : Body) :
    Failed b e b' := by
  intro he
  rw [h] at he
  cases he

theorem Steady.leads (h : Steady a) : Leads P a (fun _ _ => True) (Failed b) :=
  h.weaken (fun _ _ => trivial) (fun _ _ h => h) fun _ b' he => failed_of_unexpected he b'

theorem steady_pure (x : α) : Steady (pure x) := leads_pure fun _ h => h

theorem Steady.bind {f : α → Act β} (ha : Steady a) (hf : ∀ x, Steady (f x)) :
    Steady (a >>= f) := leads_bind ha hf

theorem steady_get : Steady (get : Act Body) := leads_get fun _ h => h

theorem steady_update (f : Body → Body) : Steady (update f) := leads_update fun _ h => h

theorem steady_ofExcept {r : Except Fault α} (h : ∀ e, r = .error e → e.isExpected = false) :
    Steady (ofExcept r) := leads_ofExcept (fun _ _ _ h => h) fun e he _ _ => h e he

/-! ## acts that may fail as is to be expected -/

theorem spares_ofExcept (r : Except Fault α) :
    Spares b (ofExcept r) fun x b' => b' = b ∧ r = .ok x := by
  refine leads_ofExcept (fun x hx b' h => ⟨h, hx⟩) fun e _ b' h _ => ?_
  rw [h]
  exact b.spared_refl

theorem spares_throw (e : Fault) : Spares b (throw e : Act α) Q := by
  refine leads_throw fun b' h _ => ?_
  rw [h]
  exact b.spared_refl

theorem spares_onTopology (f : Topology → Except Fault (Topology × α)) :
    Spares b (onTopology f) fun _ _ => True := by
  refine leads_onTopology (fun _ _ _ _ _ => trivial) fun b' h e _ _ => ?_
  rw [h]
  exact b.spared_refl

section
variable [Rounding]

theorem steady_refresh : Steady refreshAwareness := by
  unfold refreshAwareness
  refine steady_get.bind fun b => ?_
  refine (steady_ofExcept fun e => Topology.awareness_error).bind fun x => ?_
  exact (steady_update _).bind fun _ => steady_pure _

theorem spares_saveState (path : FilePath) : Spares b (saveState path) fun _ _ => True := by
  unfold saveState
  refine leads_bind (Q := fun c b' => c = b ∧ b' = b) ?_ fun c => ?_
  · exact leads_get fun b' h => ⟨h, h⟩
  dsimp only
  refine leads_bind (Q := fun _ b' => b.Spared b') (leads_update ?_) fun _ => ?_
  · rintro b' ⟨rfl, rfl⟩
    rfl
  split
  · exact (steady_update _).leads
  · exact leads_throw fun b' _ => failed_of_unexpected rfl b'
  · exact leads_throw fun b' h _ => h

theorem spares_loadState (path : FilePath) : Spares b (loadState path) fun _ _ => True := by
  unfold loadState
  refine leads_bind (Q := fun c b' => b' = b) (leads_get fun _ h => h) fun c => ?_
  split
  · exact spares_throw _
  · exact ((steady_update _).bind fun _ => steady_pure _).leads
  · exact spares_throw _
  · refine leads_bind (spares_onTopology _) fun values => ?_
    exact ((steady_update _).bind fun _ => steady_pure _).leads

end
end Act

/-! ## operations -/

namespace Command

open Act

variable {b : Body}

def Honest (b : Body) (result : CommandResult) (b' : Body) : Prop := result.ok = false → b' = b

theorem honest_leads {α : Type} {a : Act α} {P : Body → Prop} {f : α → CommandResult}
    (hf : ∀ x, (f x).ok = true) (ha : Leads P a (fun _ _ => True) (Failed b)) :
    Leads P (f <$> a) (Honest b) (Failed b) := by
  refine leads_map (ha.mono_result fun x b' _ h => ?_)
  rw [hf x] at h
  cases h

theorem honest_pure {result : CommandResult} : Spares b (pure result) (Honest b) :=
  leads_pure fun _ h _ => h

theorem spares_setSim (r : Request) : Spares b (setSim r) (Honest b) := by
  unfold setSim
  dsimp only
  split
  · exact spares_throw _
  · exact honest_leads (fun _ => rfl) (steady_update _).leads

theorem spares_setLogs (r : Request) : Spares b (setLogs r) (Honest b) := by
  unfold setLogs
  dsimp only
  split
  · exact spares_throw _
  · exact honest_leads (fun _ => rfl) (steady_update _).leads

section
variable [Rounding]

theorem spares_change (r : Request) (verb : String)
    (f : Topology → OrganKind → Number → Except Fault (Topology × HealthChange)) :
    Spares b (change r verb f) (Honest b) := by
  unfold change
  refine leads_bind (spares_ofExcept _) fun target => leads_assume fun _ => ?_
  refine leads_bind (spares_onTopology _) fun c => ?_
  exact honest_leads (fun _ => rfl) steady_refresh.leads

theorem spares_save (setup : Setup) (r : Request) : Spares b (save setup r) (Honest b) := by
  unfold save
  dsimp only
  exact honest_leads (fun _ => rfl) (spares_saveState _)

theorem spares_load (setup : Setup) (r : Request) : Spares b (load setup r) (Honest b) := by
  unfold load
  dsimp only
  refine leads_bind (spares_loadState _) fun values => ?_
  cases values with
  | none => exact honest_leads (fun _ => rfl) steady_refresh.leads
  | some values => exact honest_leads (fun _ => rfl) steady_refresh.leads

theorem spares_status : Spares b Query.status (Honest b) := by
  unfold Query.status
  refine leads_bind (steady_refresh.leads (P := fun b' => b' = b)) fun score => ?_
  refine leads_bind (Q := fun _ _ => True) (leads_get fun _ h => h) fun c => ?_
  exact honest_leads (fun _ => rfl) (steady_ofExcept fun e => Topology.worstTier_error).leads

theorem spares_alerts (t : Topology) : Spares b (Act.ofExcept (Query.alerts t)) (Honest b) := by
  refine Leads.mono_result (spares_ofExcept _) ?_
  exact fun _ _ h _ => h.1

/-- **Each operation fails before it changes anything, or as nobody expects it to.** -/
theorem spares_perform (setup : Setup) (r : Request) : Spares b (perform setup r) (Honest b) := by
  unfold perform
  refine leads_bind (Q := fun _ b' => b' = b) (leads_get fun _ h => h) fun c => ?_
  cases r.operation with
  | help => exact honest_pure
  | status => exact spares_status
  | topology => exact honest_pure
  | nodes => exact honest_pure
  | organs => exact honest_pure
  | peripherals => exact honest_pure
  | health => exact honest_pure
  | alerts => exact spares_alerts _
  | awareness => exact honest_leads (fun _ => rfl) steady_refresh.leads
  | metrics => exact honest_pure
  | capabilities => exact honest_pure
  | memory => exact honest_pure
  | damage => exact spares_change r "damaged" Topology.damage
  | heal => exact spares_change r "healed" Topology.heal
  | setSim => exact spares_setSim r
  | setLogs => exact spares_setLogs r
  | save => exact spares_save setup r
  | load => exact spares_load setup r

/-! ## requests -/

/-- a request ends as its operation does, with a report; what is to be expected is a result -/
theorem leads_handle {setup : Setup} {r : Request} {P : Body → Prop}
    {Q R : CommandResult → Body → Prop} {E F : Fault → Body → Prop}
    (h : Leads P (perform setup r) Q E)
    (hok : ∀ result b text payload,
      Q result b → R result (b.publish (report r.operation text payload)))
    (hfail : ∀ e b level source note text payload, e.isExpected = true → E e b →
      R (.failure r.operation e)
        ((b.note level source note).publish (report r.operation text payload)))
    (hcrash : ∀ e b, e.isExpected = false → E e b → F e b) :
    Leads P (handle setup r) R F := by
  unfold handle
  refine leads_tryCatch (F := E) ?_ fun e => ?_
  · unfold execute
    refine leads_bind h fun result => ?_
    refine leads_bind (Q := fun _ => R result) (leads_update ?_) fun _ => leads_pure fun _ h => h
    exact fun b hb => hok result b _ _ hb
  · refine leads_ite (fun he => ?_) fun he => ?_
    · unfold fail
      refine leads_bind (Q := fun _ b' => ∃ b level source note,
        E e b ∧ b' = b.note level source note) (leads_update ?_) fun _ => ?_
      · exact fun b hb => ⟨b, _, _, _, hb, rfl⟩
      refine leads_bind (Q := fun _ => R (.failure r.operation e)) (leads_update ?_) fun _ =>
        leads_pure fun _ h => h
      rintro b' ⟨b, level, source, note, hb, rfl⟩
      exact hfail e b level source note _ _ he hb
    · exact leads_throw fun b hb => hcrash e b (Bool.eq_false_iff.mpr he) hb

def Declined (r : Request) (b : Body) (result : CommandResult) (b' : Body) : Prop :=
  result.ok = false → ∃ text payload, (b.publish (report r.operation text payload)).Spared b'

theorem declines_handle (setup : Setup) (r : Request) :
    Leads (fun b' => b' = b) (handle setup r) (Declined r b) fun e _ => e.isExpected = false := by
  refine leads_handle (spares_perform setup r) ?_ ?_ fun e b' he _ => he
  · intro result b' text payload h hok
    rw [h hok]
    exact ⟨text, payload, Body.spared_refl _⟩
  · intro e b' level source note text payload he h _
    exact ⟨text, payload, ((h he).note level source note).publish _⟩

/-- **A command that fails changes nothing.**  Whatever is requested of whatever body: a result that
reports a failure leaves all parts of the body as they were but for the bus, on which one more pulse
is pending, the report of the operation, and for files and notes; and what breaks off a command
without a result is never a failure that is to be expected. -/
theorem failure_changes_nothing (setup : Setup) (r : Request) (b : Body) :
    (∀ result b', (handle setup r).run b = (.ok result, b') → result.ok = false →
      ∃ m : Message, m.kind = .command ∧ ("op", .text r.operation.label) ∈ m.payload ∧
        b'.bus = b.bus.publish m ∧ b'.topology = b.topology ∧ b'.memory = b.memory ∧
        b'.registry = b.registry ∧
        b' = { b with bus := b'.bus, files := b'.files, journal := b'.journal }) ∧
    ∀ e b', (handle setup r).run b = (.error e, b') → e.isExpected = false := by
  have h := (declines_handle (b := b) setup r).after b rfl
  refine ⟨?_, ?_⟩
  · intro result b' hrun hok
    rw [hrun] at h
    obtain ⟨text, payload, hb'⟩ := h hok
    refine ⟨report r.operation text payload, rfl, List.mem_cons_self, ?_⟩
    rw [hb']
    exact ⟨rfl, rfl, rfl, rfl, rfl⟩
  · intro e b' hrun
    rw [hrun] at h
    exact h

end

attribute [local instance] Rounding.binary64

/-- a state file of which the second record is malformed -/
theorem failure_changes_nothing_malformed :
    let b : Body :=
      { topology := .sample 1, senses := .script (fun _ f => .ok f.nominal) 0, dice := .scripted []
        files := ⟨[], [(["state"], .file (Utf8.encode "cortex=0.5\nmemory=x\n".toList))]⟩ }
    let setup : Setup := ⟨.standard, .standard, .ofString "state", true⟩
    ∃ result b', (handle setup { operation := .load }).run b = (.ok result, b') ∧
      result.ok = false ∧ b'.topology = b.topology ∧
      ∃ m : Message, m.kind = .command ∧ b'.bus.pending = [b.bus.stamp m] := by
  intro b setup
  have hload :
      ((handle setup { operation := .load }).run b).1.toOption.map (·.ok) = some false := by
    decide +kernel
  rcases hrun : (handle setup { operation := .load }).run b with ⟨e | result, b'⟩
  · rw [hrun] at hload
    cases hload
  · rw [hrun] at hload
    have hok : result.ok = false := Option.some.inj hload
    obtain ⟨m, hm, -, hbus, ht, -⟩ := (failure_changes_nothing setup _ b).1 result b' hrun hok
    refine ⟨result, b', rfl, hok, ht, m, hm, ?_⟩
    rw [hbus]
    rfl

end Command
end Organism
