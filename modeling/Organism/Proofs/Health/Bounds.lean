import Organism.Proofs.Command.Frame
import Organism.Proofs.Daemon.Frame
import Organism.Proofs.Health.Edges

/-!
# Healths and awareness stay between 0 and 1

Whatever is done to a body, by whomever and with whatever numbers, its healths and its awareness are
finite numbers between 0 and 1, and what the operations report of their writes is true.

* `Write`, `Topology.perform`   the operations that write one health;
* `HealthChange.Reports`        a report agrees with the topologies before and after the write;
* `perform_ok`                  **a write that succeeds is reported truly**;
* `recover_reported`            a recovery of several organs, as far as it gets;
* `bounded_of_build`            new organs have healths between 0 and 1;
* `Deed`, `Body.undergo`        all that is done to a body, with no limits on the numbers;
* `healths_bounded`             all of it, after any deeds.
-/

namespace Organism

attribute [local instance] Rounding.binary64

/-! ## writes -/

inductive Write where
  | set (k : OrganKind) (v : Value)
  | add (k : OrganKind) (d : Value)
  | damage (k : OrganKind) (amount : Number)
  | heal (k : OrganKind) (amount : Number)
  | feel (l : Limits) (k : OrganKind) (r : Reading)

def Write.organ : Write → OrganKind
  | set k _ | add k _ | damage k _ | heal k _ | feel _ k _ => k

def Topology.perform (t : Topology) : Write → Except Fault (Topology × HealthChange)
  | .set k v => t.setHealthTo k v
  | .add k d => t.addHealthOf k d
  | .damage k x => t.damage k x
  | .heal k x => t.heal k x
  | .feel l k r => t.feel l k r

/-- the change is what happened between two topologies, and nothing else did -/
structure HealthChange.Reports (c : HealthChange) (t t' : Topology) : Prop where
  healths : ∃ o, t.organ? c.organ = some o ∧ o.health = c.previous ∧
    t'.organ? c.organ = some { o with health := c.health }
  crossed : c.crossed = true ↔ Tier.ofNumber c.previous ≠ Tier.ofNumber c.health
  others : ∀ k, k ≠ c.organ → t'.organ? k = t.organ? k

/-- changes one after the other, each of which happened -/
inductive Reported : Topology → List HealthChange → Topology → Prop
  | nil (t : Topology) : Reported t [] t
  | cons {t t₁ t' : Topology} {c : HealthChange} {cs : List HealthChange} :
    c.Reports t t₁ → Reported t₁ cs t' → Reported t (c :: cs) t'

namespace Topology

variable {t t' : Topology} {c : HealthChange}

theorem perform_write {w : Write} (h : t.perform w = .ok (t', c)) :
    ∃ o x, t.organ? w.organ = some o ∧ t.write o x = .ok (t', c) := by
  cases w with
  | set k v =>
    obtain ⟨o, ho, h⟩ := ok_of_bind h
    obtain ⟨x, -, h⟩ := ok_of_bind h
    exact ⟨o, x, organ?_of_organ ho, h⟩
  | add k d =>
    obtain ⟨o, ho, h⟩ := ok_of_bind h
    obtain ⟨x, -, h⟩ := ok_of_bind h
    exact ⟨o, _, organ?_of_organ ho, h⟩
  | damage k x =>
    obtain ⟨o, ho, h⟩ := ok_of_bind h
    exact ⟨o, _, organ?_of_organ ho, h⟩
  | heal k x =>
    obtain ⟨o, ho, h⟩ := ok_of_bind h
    exact ⟨o, _, organ?_of_organ ho, h⟩
  | feel l k r =>
    obtain ⟨p, -, h⟩ := ok_of_bind h
    obtain ⟨x, -, h⟩ := ok_of_bind h
    obtain ⟨o, ho, h⟩ := ok_of_bind h
    exact ⟨o, x, organ?_of_organ ho, h⟩

theorem write_reports {k : OrganKind} {o : Organ} {x : Number} (ho : t.organ? k = some o)
    (h : t.write o x = .ok (t', c)) : c.organ = k ∧ c.Reports t t' := by
  obtain ⟨-, e⟩ := write_eq_ok h
  cases e
  obtain rfl : o.kind = k := kind_of_organ? ho
  refine ⟨rfl, ⟨o, ho, rfl, ?_⟩, bne_iff_ne, ?_⟩
  · show (t.replace { o with health := x.toUnit }).organ? o.kind = _
    rw [organ?_replace, if_pos rfl, ho]
    rfl
  · intro j hj
    rw [organ?_replace]
    exact if_neg hj

/-- **A write that succeeds is reported truly.** -/
theorem perform_ok {w : Write} (h : t.perform w = .ok (t', c)) :
    c.organ = w.organ ∧ c.Reports t t' := by
  obtain ⟨o, x, ho, h⟩ := perform_write h
  exact write_reports ho h

theorem perform_written {w : Write} (h : t.perform w = .ok (t', c)) : t.Written t' := by
  obtain ⟨o, x, ho, h⟩ := perform_write h
  obtain ⟨-, e⟩ := write_eq_ok h
  cases e
  exact ⟨w.organ, o, x, ho, rfl⟩

theorem perform_set_iff (k : OrganKind) (x : Number) :
    (∃ r, t.perform (.set k (.real x)) = .ok r) ↔ t.has k = true ∧ x.isFinite = true := by
  constructor
  · rintro ⟨⟨t', c⟩, h⟩
    obtain ⟨o, ho, h⟩ := ok_of_bind h
    obtain ⟨y, hy, h⟩ := ok_of_bind h
    cases hy
    exact ⟨has_iff_exists.mpr ⟨o, organ?_of_organ ho⟩, (write_eq_ok h).1⟩
  · rintro ⟨hk, hx⟩
    obtain ⟨o, ho⟩ := has_iff_exists.mp hk
    refine ⟨(t.replace { o with health := x.toUnit }, changeOf o x), ?_⟩
    show t.organ k >>= (fun o => t.write o x) = _
    rw [organ_eq ho]
    exact write_eq t o hx

/-! ## several organs -/

/-- a recovery reports every change that it made; when it breaks off, the rest of the organs are as
they were after the last change -/
theorem recover_reported (t : Topology) (x : Number) (ks : List OrganKind) :
    ∃ cs, Reported t cs (t.recover x ks).1 ∧ cs.map (·.organ) <+: ks ∧
      ∀ cs', (t.recover x ks).2 = .ok cs' → cs' = cs ∧ cs.map (·.organ) = ks := by
  induction ks generalizing t with
  | nil =>
    refine ⟨[], .nil t, List.prefix_rfl, ?_⟩
    intro cs' h
    cases h
    exact ⟨rfl, rfl⟩
  | cons k ks ih =>
    unfold recover
    cases hk : t.heal k x with
    | error e =>
      refine ⟨[], .nil t, List.nil_prefix, ?_⟩
      intro cs' h
      cases h
    | ok r =>
      obtain ⟨t₁, c⟩ := r
      obtain ⟨hc, hr⟩ := perform_ok (w := .heal k x) hk
      obtain ⟨cs, hcs, hprefix, hall⟩ := ih t₁
      obtain rfl : c.organ = k := hc
      refine ⟨c :: cs, .cons hr hcs, (List.prefix_cons_inj c.organ).mpr hprefix, ?_⟩
      intro cs' h
      dsimp only at h
      cases hrest : (t₁.recover x ks).2 with
      | error e =>
        rw [hrest] at h
        cases h
      | ok ds =>
        rw [hrest] at h
        cases h
        obtain ⟨rfl, hks⟩ := hall ds hrest
        exact ⟨rfl, congrArg (c.organ :: ·) hks⟩

theorem recoverBy_reported (t : Topology) (v : Value) (ks : List OrganKind) :
    ∃ cs, Reported t cs (t.recoverBy v ks).1 ∧ cs.map (·.organ) <+: ks ∧
      ∀ cs', (t.recoverBy v ks).2 = .ok cs' → cs' = cs ∧ cs.map (·.organ) = ks := by
  unfold recoverBy
  split
  · next hks =>
    obtain rfl : ks = [] := List.isEmpty_iff.mp hks
    refine ⟨[], .nil t, List.prefix_rfl, ?_⟩
    intro cs' h
    cases h
    exact ⟨rfl, rfl⟩
  · cases v.toNumber with
    | error e =>
      refine ⟨[], .nil t, List.nil_prefix, ?_⟩
      intro cs' h
      cases h
    | ok x => exact recover_reported t x ks

end Topology

/-! ## deeds -/

/-- what is done to a body: writes of healths and of the awareness, evaluations of alerts, the
duties of daemons, commands, and whatever happens outside -/
inductive Deed where
  | write (w : Write)
  | recover (amount : Value) (ks : List OrganKind)
  | load (s : State.Source)
  | aware (x : Number)
  | evaluate
  | heartbeat
  | status (setup : Setup) (tick : Nat)
  | policy (setup : Setup)
  | simulation (setup : Setup)
  | command (setup : Setup) (r : Request)
  | restore (path : FilePath)
  | outside (files : FileSystem) (senses : Senses) (dice : Dice)

namespace Body

/-- the body after a deed, whatever fails in it -/
def undergo (b : Body) : Deed → Body
  | .write w => b.takeTopology (b.topology.perform w)
  | .recover v ks => { b with topology := (b.topology.recoverBy v ks).1 }
  | .load s => b.takeTopology (b.topology.loadSource s)
  | .aware x => b.setAwareness x
  | .evaluate => b.evaluate.1
  | .heartbeat => (Duty.heartbeat.run b).2
  | .status setup tick => ((Duty.status setup tick).run b).2
  | .policy setup => ((Duty.policy setup).run b).2
  | .simulation setup => ((Duty.simulation setup).run b).2
  | .command setup r => ((Command.handle setup r).run b).2
  | .restore path => ((Act.restore path).run b).2
  | .outside files senses dice => { b with files, senses, dice }

def undergoAll (b : Body) (ds : List Deed) : Body := ds.foldl undergo b

variable {b : Body}

theorem Bounded.takeTopology {ε α : Type} (h : b.Bounded) {r : Except ε (Topology × α)}
    (hr : ∀ t a, r = .ok (t, a) → t.Each Number.InUnit) : (b.takeTopology r).Bounded := by
  cases r with
  | error e => exact h
  | ok p => exact ⟨hr p.1 p.2 rfl, h.awareness⟩

/-- a body is bounded if each organ was created with a health that is one -/
theorem bounded_of_build {nodes : List Node} {organs : List Organ}
    (e : Topology.build nodes organs = .ok b.topology)
    (h : ∀ o ∈ organs, ∃ x : Number, x.toHealth = .ok o.health)
    (ha : b.bus.awareness.InUnit) : b.Bounded := by
  refine ⟨fun k o ho => ?_, ha⟩
  have hmem : o ∈ organs := Topology.build_organList e ▸ Topology.mem_of_organ? ho
  obtain ⟨x, hx⟩ := h o hmem
  rw [(Number.toHealth_eq_ok_iff.mp hx).2]
  exact Number.inUnit_toUnit x

/-- **No deed takes a health or the awareness out of the unit interval.** -/
theorem Bounded.undergo (h : b.Bounded) (d : Deed) : (b.undergo d).Bounded := by
  have hwritten : ∀ t t' : Topology, t.Written t' → t.Each Number.InUnit →
      t'.Each Number.InUnit := fun _ _ hw ht => ht.written Number.inUnit_toUnit hw
  cases d with
  | write w =>
    exact h.takeTopology fun t c hw => hwritten _ _ (Topology.perform_written hw) h.healths
  | recover v ks => exact ⟨Topology.recoverBy_preserves hwritten h.healths, h.awareness⟩
  | load s =>
    refine h.takeTopology fun t m hl => ?_
    rcases Topology.loadSource_cases b.topology s with ⟨e, he⟩ | ⟨t', m', hl', hloaded⟩
    · rw [he] at hl
      cases hl
    · rw [hl'] at hl
      cases hl
      exact h.healths.loaded (fun x _ => Number.inUnit_toUnit x) hloaded
  | aware x => exact h.change (.awareness b x)
  | evaluate => exact h.change (.evaluate b)
  | heartbeat => exact h.course (Duty.touches_heartbeat.course b)
  | status setup tick => exact h.course ((Duty.touches_status setup tick).course b)
  | policy setup => exact h.course ((Duty.touches_policy setup).course b)
  | simulation setup => exact h.course ((Duty.touches_simulation setup).course b)
  | command setup r => exact h.course ((Command.touches_handle setup r).course b)
  | restore path => exact h.course ((Act.touches_restore path).course b)
  | outside files senses dice => exact ⟨h.healths, h.awareness⟩

theorem Bounded.undergoAll (h : b.Bounded) (ds : List Deed) : (b.undergoAll ds).Bounded := by
  induction ds generalizing b with
  | nil => exact h
  | cons d ds ih => exact ih (h.undergo d)

/-- **Healths and awareness never leave the unit interval.**  After any deeds with any numbers,
every health and the awareness are exact values between 0 and 1; a write of one health is reported
with the health before and the one after, and crosses a bound of a tier exactly if the report says
so, or it fails and leaves the body as it was; a health is set to every finite number, and to no
other; and a recovery of several organs reports the changes that it made, one by one. -/
theorem healths_bounded (h : b.Bounded) (ds : List Deed) :
    let b' := b.undergoAll ds
    (∀ k o, b'.topology.organ? k = some o → o.health.InUnit) ∧ b'.bus.awareness.InUnit ∧
      (∀ w, (∃ t c, b'.topology.perform w = .ok (t, c) ∧
            b'.undergo (.write w) = { b' with topology := t } ∧ c.organ = w.organ ∧
            c.Reports b'.topology t) ∨
          ∃ e, b'.topology.perform w = .error e ∧ b'.undergo (.write w) = b') ∧
      (∀ k x, (∃ r, b'.topology.perform (.set k (.real x)) = .ok r) ↔
        b'.topology.has k = true ∧ x.isFinite = true) ∧
      ∀ v ks, ∃ cs, Reported b'.topology cs (b'.undergo (.recover v ks)).topology ∧
        cs.map (·.organ) <+: ks ∧
        ∀ cs', (b'.topology.recoverBy v ks).2 = .ok cs' → cs' = cs ∧ cs.map (·.organ) = ks := by
  intro b'
  have hb' : b'.Bounded := h.undergoAll ds
  refine ⟨hb'.healths, hb'.awareness, ?_, fun k x => Topology.perform_set_iff k x,
    fun v ks => Topology.recoverBy_reported b'.topology v ks⟩
  intro w
  cases hw : b'.topology.perform w with
  | error e =>
    refine .inr ⟨e, rfl, ?_⟩
    show b'.takeTopology (b'.topology.perform w) = b'
    rw [hw]
    rfl
  | ok r =>
    obtain ⟨hc, hr⟩ := Topology.perform_ok (c := r.2) hw
    refine .inl ⟨r.1, r.2, rfl, ?_, hc, hr⟩
    show b'.takeTopology (b'.topology.perform w) = _
    rw [hw]
    rfl

/-- numbers that are none, numbers beyond all bounds, and a simulation in between -/
theorem healths_bounded_extreme :
    let b : Body :=
      { topology := .sample 1, senses := .script (fun _ f => .ok f.nominal) 0
        dice := .scripted [] }
    let setup : Setup := ⟨.standard, .standard, .ofString "state", true⟩
    let ds : List Deed :=
      [.write (.set .cortex (.real .nan)), .write (.add .memory (.real (.infinite true))),
        .write (.damage .ioBridge (.finite (2 ^ 1023))), .aware .nan, .simulation setup, .evaluate]
    b.Bounded ∧ (b.undergoAll ds).bus.awareness.InUnit ∧
      ∀ k o, (b.undergoAll ds).topology.organ? k = some o → o.health.InUnit := by
  intro b setup ds
  have hb : b.Bounded := by
    refine ⟨fun k o ho => ?_, Number.inUnit_one⟩
    rw [Topology.sample_health o (Topology.mem_of_organ? ho)]
    exact Number.inUnit_one
  obtain ⟨hhealths, hawareness, -⟩ := healths_bounded hb ds
  exact ⟨hb, hawareness, hhealths⟩

end Body
end Organism
