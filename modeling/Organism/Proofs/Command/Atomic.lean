import Organism.Proofs.Command.Effect
import Organism.Proofs.Health.Bounds

/-!
# Changes of healths that fail

A write of one health is the last thing that happens to it, and a file is looked through before the
first of its healths is written.  So neither leaves anything behind when it fails.  What is made of
several steps can: a recovery goes on to the next organ, and a command goes on to the awareness, and
either may find out only there that an organ is missing.

* `awareness_missing`    only a missing organ keeps the awareness from being calculated;
* `Command.OwnWrite`     what the operation of a request writes, before the awareness is refreshed;
* `change_breaks`, `load_breaks`   one operation after the other;
* `execute_breaks`       **a command on healths that fails has changed nothing, or an organ is
                         missing and its own write was made**;
* `mutations_atomic`     all operations on healths;
* `lone`, `not_all_atomic`   a body with a single organ, on which writes stay that others follow.
-/

namespace Organism

attribute [local instance] Rounding.binary64

/-! ## missing organs -/

namespace Topology

variable {t t' : Topology}

theorem organ_missing {k : OrganKind} {e : Fault} (h : t.organ k = .error e) :
    t.has k = false ∧ e = .noOrgan k := by
  unfold organ at h
  unfold has
  split at h
  · cases h
  · next ho =>
    cases h
    rw [ho]
    exact ⟨rfl, rfl⟩

theorem awareness_missing {e : Fault} (h : t.awareness = .error e) :
    ∃ k, t.has k = false ∧ e = .noOrgan k := by
  rcases error_of_bind h with h | ⟨cortex, -, h⟩
  · exact ⟨_, organ_missing h⟩
  rcases error_of_bind h with h | ⟨memory, -, h⟩
  · exact ⟨_, organ_missing h⟩
  rcases error_of_bind h with h | ⟨io, -, h⟩
  · exact ⟨_, organ_missing h⟩
  · cases h

theorem Loaded.has {s : State.Source} {m : List (OrganKind × Number)} (h : t.Loaded s t' m)
    (k : OrganKind) : t'.has k = t.has k := by
  unfold Topology.has
  by_cases hk : k ∈ m.map (·.1)
  · obtain ⟨e, he, rfl⟩ := List.mem_map.mp hk
    obtain ⟨o, ho, ho'⟩ := h.written e he
    rw [ho, ho']
    rfl
  · rw [h.others k hk]

end Topology

/-! ## commands -/

namespace Command

open Act

def Changed (f : Topology → OrganKind → Number → Except Fault (Topology × HealthChange))
    (r : Request) (b : Body) (t' : Topology) : Prop :=
  ∃ k x c, r.organ = some k ∧ r.amount = some x ∧ f b.topology k x = .ok (t', c)

/-- the topology with what the operation of a request writes into it -/
def OwnWrite (setup : Setup) (r : Request) (b : Body) (t' : Topology) : Prop :=
  match r.operation with
  | .damage => Changed Topology.damage r b t'
  | .heal => Changed Topology.heal r b t'
  | .load => Filled (statePath setup r) b t'
  | _ => False

/-- no organ has changed, or one of them is missing and `W` was written before that was found out -/
def Broken (W : Topology → Prop) (b : Body) (e : Fault) (b' : Body) : Prop :=
  b'.topology = b.topology ∨ ∃ k, b.topology.has k = false ∧ e = .noOrgan k ∧ W b'.topology

variable {setup : Setup} {r : Request} {b : Body}

theorem Filled.has {path : FilePath} {t' : Topology} (h : Filled path b t') (k : OrganKind) :
    t'.has k = b.topology.has k := by
  rcases h with rfl | ⟨bytes, m, -, hl⟩
  · rfl
  · exact hl.has k

theorem refresh_breaks {W : Topology → Prop} (hW : ∀ t', W t' → ∀ k, t'.has k = b.topology.has k) :
    Leads (fun c => W c.topology) refreshAwareness (fun _ _ => True) (Broken W b) := by
  unfold refreshAwareness
  refine leads_bind (Q := fun c c' => W c'.topology ∧ c'.topology = c.topology)
    (leads_get fun _ h => ⟨h, rfl⟩) fun c => ?_
  refine leads_bind (Q := fun _ _ => True) (leads_ofExcept (fun _ _ _ _ => trivial) ?_) fun x => ?_
  · rintro e he c' ⟨hc, ht⟩
    obtain ⟨k, hk, hek⟩ := Topology.awareness_missing he
    rw [← ht, hW _ hc] at hk
    exact .inr ⟨k, hk, hek, hc⟩
  · exact leads_bind (Q := fun _ _ => True) (leads_update fun _ h => h) fun _ =>
      leads_pure fun _ h => h

theorem change_breaks {verb : String}
    {f : Topology → OrganKind → Number → Except Fault (Topology × HealthChange)}
    (hf : ∀ t k x t' c, f t k x = .ok (t', c) → t.Written t') :
    Leads (fun c => c = b) (change r verb f) (fun _ _ => True) (Broken (Changed f r b) b) := by
  unfold change
  refine leads_bind (Q := fun p c => c = b ∧ r.organ = some p.1 ∧ r.amount = some p.2)
    (leads_ofExcept ?_ ?_) fun p => leads_assume fun ⟨hk, hx⟩ => ?_
  · rintro ⟨k, x⟩ hp c hc
    unfold target at hp
    split at hp
    · next hk hx =>
      cases hp
      exact ⟨hc, hk, hx⟩
    · cases hp
  · rintro e - c rfl
    exact .inl rfl
  refine leads_bind (Q := fun _ c => Changed f r b c.topology) (leads_onTopology ?_ ?_) fun d => ?_
  · rintro c rfl t' d h
    exact ⟨p.1, p.2, d, hk, hx, h⟩
  · rintro c rfl e -
    exact .inl rfl
  refine leads_bind (refresh_breaks ?_) fun _ => leads_pure fun _ h => h
  rintro t' ⟨k, x, d, -, -, h⟩ j
  exact (hf _ _ _ _ _ h).has j

theorem load_breaks :
    Leads (fun c => c = b) (load setup r) (fun _ _ => True)
      (Broken (Filled (statePath setup r) b) b) := by
  unfold load
  dsimp only
  refine leads_bind (Q := fun _ c => Filled (statePath setup r) b c.topology)
    ((effect_loadState _ b).weaken (fun _ h => h) ?_ ?_) fun values => ?_
  · rintro _ c ⟨t', journal, ht, rfl⟩
    exact ht
  · rintro e c rfl
    exact .inl rfl
  refine leads_bind (refresh_breaks fun t' ht => ht.has) fun _ => ?_
  split
  · exact leads_pure fun _ h => h
  · exact leads_pure fun _ h => h

/-- **A command on healths that fails has changed nothing, or an organ is missing and its own write
was made.** -/
theorem execute_breaks (setup : Setup) (hop : r.operation ∈ [Operation.damage, .heal, .load]) :
    Leads (fun c => c = b) (execute setup r) (fun _ _ => True)
      (Broken (OwnWrite setup r b) b) := by
  have hperform : Leads (fun c => c = b) (perform setup r) (fun _ _ => True)
      (Broken (OwnWrite setup r b) b) := by
    unfold perform
    refine leads_bind (Q := fun _ c => c = b) (leads_get fun _ h => h) fun _ => ?_
    unfold OwnWrite
    cases ho : r.operation with
    | damage => exact change_breaks fun _ _ _ _ _ => Topology.damage_written
    | heal => exact change_breaks fun _ _ _ _ _ => Topology.heal_written
    | load => exact load_breaks
    | _ =>
      rw [ho] at hop
      simp at hop
  unfold execute
  refine leads_bind hperform fun result => ?_
  refine leads_bind (Q := fun _ _ => True) (leads_update fun _ h => h) fun _ => ?_
  exact leads_pure fun _ h => h

end Command

/-! ## all operations -/

namespace Body

/-- **An operation on healths that fails leaves them as they were, but for the writes that it made
before it came to a missing organ.**  A write of one health and the loading of a source change
nothing when they fail.  A recovery of several organs changes nothing either, or one of the organs
is missing, and exactly those before it in the list have recovered.  A command changes nothing, or
the topology lacks an organ, which is what the fault says, and only the write of the command itself
was made. -/
theorem mutations_atomic {b : Body} (hu : b.topology.Each Number.InUnit) :
    (∀ w e, b.topology.perform w = .error e → b.undergo (.write w) = b) ∧
    (∀ s e, b.topology.loadSource s = .error e → b.undergo (.load s) = b) ∧
    (∀ v ks e, (∀ y, v = .real y → y.Is64) → (b.topology.recoverBy v ks).2 = .error e →
      b.undergo (.recover v ks) = b ∨
        ∃ done k rest cs, ks = done ++ k :: rest ∧ (∀ j ∈ done, b.topology.has j = true) ∧
          b.topology.has k = false ∧
          b.topology.recoverBy v done = ((b.undergo (.recover v ks)).topology, .ok cs)) ∧
    ∀ setup r e b', r.operation ∈ [Operation.damage, .heal, .load] →
      (Command.execute setup r).run b = (.error e, b') →
        b'.topology = b.topology ∨
          ∃ k, b.topology.has k = false ∧ e = .noOrgan k ∧
            Command.OwnWrite setup r b b'.topology := by
  refine ⟨?_, ?_, ?_, ?_⟩
  · intro w e h
    show b.takeTopology (b.topology.perform w) = b
    rw [h]
    rfl
  · intro s e h
    show b.takeTopology (b.topology.loadSource s) = b
    rw [h]
    rfl
  · intro v ks e h64 h
    obtain ⟨done, k, rest, cs, hks, hdone, hall, rfl | hk⟩ :=
      Topology.recoverBy_breaks hu (fun _ hx => Value.is64_toNumber h64 hx) h
    · refine .inl ?_
      have ht : (b.topology.recoverBy v ks).1 = b.topology := (congrArg Prod.fst hdone).symm
      show { b with topology := (b.topology.recoverBy v ks).1 } = b
      rw [ht]
    · exact .inr ⟨done, k, rest, cs, hks, hall, hk, hdone⟩
  · intro setup r e b' hop hrun
    have h := (Command.execute_breaks setup hop).after b rfl
    rw [hrun] at h
    exact h

/-! ## a single organ -/

def lone : Body where
  topology :=
    { nodeList := [{ id := 1, label := "core-0", organIds := [1] }]
      organList := [Organ.create 1 .cortex 1 [] (.finite (1 / 2))] }
  senses := .script (fun _ f => .ok f.nominal) 0
  dice := .scripted []

theorem lone_built :
    Topology.build [{ id := 1, label := "core-0" }]
      [Organ.create 1 .cortex 1 [] (.finite (1 / 2))] = .ok lone.topology := rfl

theorem lone_inUnit : lone.topology.Each Number.InUnit := by
  intro k o ho
  have hmem : o ∈ [Organ.create 1 .cortex 1 [] (.finite (1 / 2))] := Topology.mem_of_organ? ho
  rw [List.mem_singleton.mp hmem]
  exact ⟨1 / 2, rfl, by norm_num, by norm_num⟩

/-- the cortex recovers before the memory is found missing, and a command damages the cortex before
its awareness cannot be calculated -/
theorem mutations_atomic_lone :
    let setup : Setup := ⟨.standard, .standard, .ofString "state", true⟩
    let r : Request :=
      { operation := .damage, organ := some .cortex, amount := some (.finite (1 / 4)) }
    let v : Value := .real 1
    (∃ done k rest cs, [OrganKind.cortex, .memory] = done ++ k :: rest ∧
      (∀ j ∈ done, lone.topology.has j = true) ∧ lone.topology.has k = false ∧
      lone.topology.recoverBy v done =
        ((lone.undergo (.recover v [.cortex, .memory])).topology, .ok cs)) ∧
    ∃ e b', (Command.execute setup r).run lone = (.error e, b') ∧
      ∃ k, lone.topology.has k = false ∧ e = .noOrgan k ∧
        Command.OwnWrite setup r lone b'.topology := by
  intro setup r v
  obtain ⟨-, -, hrecover, hexecute⟩ := mutations_atomic lone_inUnit
  refine ⟨?_, ?_⟩
  · have hfails : (lone.topology.recoverBy v [.cortex, .memory]).2.isOk = false := by
      decide +kernel
    have hmoved : ((lone.undergo (.recover v [.cortex, .memory])).topology.organ? .cortex).map
        (·.health) ≠ (lone.topology.organ? .cortex).map (·.health) := by decide +kernel
    have h64 : ∀ y, Value.real 1 = .real y → y.Is64 := by
      intro y hy
      cases hy
      exact Number.is64_one
    cases h : (lone.topology.recoverBy v [.cortex, .memory]).2 with
    | ok cs =>
      rw [h] at hfails
      cases hfails
    | error e =>
      refine (hrecover v _ e h64 h).resolve_left fun hsame => hmoved ?_
      rw [hsame]
  · have hfails : ((Command.execute setup r).run lone).1.isOk = false := by decide +kernel
    have hmoved : (((Command.execute setup r).run lone).2.topology.organ? .cortex).map
        (·.health) ≠ (lone.topology.organ? .cortex).map (·.health) := by decide +kernel
    rcases hrun : (Command.execute setup r).run lone with ⟨e | result, b'⟩
    · refine ⟨e, b', rfl, (hexecute setup r e b' (by decide) hrun).resolve_left fun hsame => ?_⟩
      rw [hrun, hsame] at hmoved
      exact hmoved rfl
    · rw [hrun] at hfails
      cases hfails

/-- neither a recovery of several organs nor a command is undone when it comes to a missing organ -/
theorem not_all_atomic :
    (¬ ∀ (b : Body) nodes organs, Topology.build nodes organs = .ok b.topology →
        b.topology.Each Number.InUnit → ∀ v ks e, (∀ y, v = .real y → y.Is64) →
          (b.topology.recoverBy v ks).2 = .error e →
            (b.undergo (.recover v ks)).topology.healths = b.topology.healths) ∧
    ¬ ∀ (b : Body) nodes organs, Topology.build nodes organs = .ok b.topology →
        b.topology.Each Number.InUnit → ∀ setup r e b',
          r.operation ∈ [Operation.damage, .heal, .load] →
            (Command.execute setup r).run b = (.error e, b') →
              b'.topology.healths = b.topology.healths := by
  refine ⟨fun hall => ?_, fun hall => ?_⟩
  · have hmoved : (lone.undergo (.recover (.flag true) [.cortex, .memory])).topology.healths ≠
        lone.topology.healths := by decide +kernel
    have hfails : (lone.topology.recoverBy (.flag true) [.cortex, .memory]).2.isOk = false := by
      decide +kernel
    cases h : (lone.topology.recoverBy (.flag true) [.cortex, .memory]).2 with
    | ok cs =>
      rw [h] at hfails
      cases hfails
    | error e => exact hmoved (hall lone _ _ lone_built lone_inUnit _ _ e nofun h)
  · let setup : Setup := ⟨.standard, .standard, .ofString "state", true⟩
    let r : Request :=
      { operation := .damage, organ := some .cortex, amount := some (.finite (1 / 4)) }
    have hmoved : ((Command.execute setup r).run lone).2.topology.healths ≠
        lone.topology.healths := by decide +kernel
    have hfails : ((Command.execute setup r).run lone).1.isOk = false := by decide +kernel
    rcases hrun : (Command.execute setup r).run lone with ⟨e | result, b'⟩
    · rw [hrun] at hmoved
      exact hmoved (hall lone _ _ lone_built lone_inUnit setup r e b' (by decide) hrun)
    · rw [hrun] at hfails
      cases hfails

end Body
end Organism
