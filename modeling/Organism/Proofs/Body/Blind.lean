import Organism.Body
import Organism.Proofs.Body.Act

/-!
# Acts that do not look at pulses

Two bodies are alike if they differ in nothing but their pulses and their notes.  A blind act does
not look at these: on bodies that are alike it has the same outcome, publishes the same messages and
leaves bodies that are alike.

* `Bus.post`, `Bus.mail`          messages published in a row, and what a bus holds of pulses;
* `Body.bare`, `Body.Alike`       a body without pulses and notes, and bodies that agree without;
* `Body.Joined`                   two bodies that came from two others by the same messages;
* `Act.Blind`                     on bodies that are alike the act does the same, and what it
                                  publishes is as asked for;
* `blind_bind`, …                 one rule for every way in which acts are put together;
* `Act.Says`                      a blind act of which every message has a property.
-/

namespace Organism

/-! ## mail -/

namespace Bus

def post (b : Bus) (ms : List Message) : Bus := ms.foldl publish b

/-- what a bus holds of pulses, on an otherwise new bus -/
def mail (b : Bus) : Bus where
  published := b.published
  tick := b.tick
  pending := b.pending
  inbox := b.inbox
  history := b.history
  capacity := b.capacity

def bare (b : Bus) : Bus := { b with published := 0, pending := [], inbox := [], history := [] }

def stampAll (published : Nat) (tick : Int) : List Message → List Pulse
  | [] => []
  | m :: ms => { m with id := published + 1, tick } :: stampAll (published + 1) tick ms

theorem toMessage_stampAll (n : Nat) (tick : Int) (ms : List Message) :
    (stampAll n tick ms).map (·.toMessage) = ms := by
  induction ms generalizing n with
  | nil => rfl
  | cons m ms ih => exact congrArg (m :: ·) (ih (n + 1))

theorem countP_stampAll (n : Nat) (tick : Int) (ms : List Message) (p : Message → Bool) :
    (stampAll n tick ms).countP (fun x => p x.toMessage) = ms.countP p := by
  have h := List.countP_map (p := p) (f := Pulse.toMessage) (l := stampAll n tick ms)
  rw [toMessage_stampAll] at h
  exact h.symm

theorem post_append (b : Bus) (ms ns : List Message) : b.post (ms ++ ns) = (b.post ms).post ns :=
  List.foldl_append

theorem mail_post (b : Bus) (ms : List Message) : (b.post ms).mail = b.mail.post ms := by
  induction ms generalizing b with
  | nil => rfl
  | cons m ms ih =>
    show ((b.publish m).post ms).mail = (b.mail.publish m).post ms
    rw [ih]
    rfl

variable {b c : Bus} {ms : List Message}

theorem published_of_mail (h : c.mail = (b.post ms).mail) :
    c.published = b.published + ms.length := by
  show c.mail.published = b.published + ms.length
  rw [h]
  show (b.post ms).published = _
  clear h
  induction ms generalizing b with
  | nil => rfl
  | cons m ms ih =>
    show ((b.publish m).post ms).published = _
    rw [ih, List.length_cons]
    show b.published + 1 + _ = _
    omega

theorem tick_of_mail (h : c.mail = (b.post ms).mail) : c.tick = b.tick := by
  show c.mail.tick = b.tick
  rw [h]
  show (b.post ms).tick = _
  clear h
  induction ms generalizing b with
  | nil => rfl
  | cons m ms ih => exact ih (b := b.publish m)

theorem pending_of_mail (h : c.mail = (b.post ms).mail) :
    c.pending = b.pending ++ stampAll b.published b.tick ms := by
  show c.mail.pending = _
  rw [h]
  show (b.post ms).pending = _
  clear h
  induction ms generalizing b with
  | nil => exact (List.append_nil _).symm
  | cons m ms ih =>
    show ((b.publish m).post ms).pending = _
    rw [ih]
    exact List.append_assoc _ _ _

end Bus

/-! ## bodies that are alike -/

namespace Body

def bare (b : Body) : Body :=
  { b with bus := b.bus.bare, journal := [], seen := [], console := [] }

/-- the bodies agree but for their pulses and their notes -/
def Alike (b c : Body) : Prop := b.bare = c.bare

/-- the second body has the mail of the first after some messages -/
def Posted (ms : List Message) (b b' : Body) : Prop := b'.bus.mail = (b.bus.post ms).mail

/-- two bodies, alike, that came from two others by the same messages -/
structure Joined (ms : List Message) (b c b' c' : Body) : Prop where
  alike : Alike b' c'
  left : Posted ms b b'
  right : Posted ms c c'

variable {b c b' c' b'' c'' : Body} {ms ns : List Message}

theorem Posted.trans (h : Posted ms b b') (h' : Posted ns b' b'') : Posted (ms ++ ns) b b'' := by
  unfold Posted at *
  rw [h', Bus.mail_post, h, ← Bus.mail_post, Bus.post_append]

theorem Joined.trans (h : Joined ms b c b' c') (h' : Joined ns b' c' b'' c'') :
    Joined (ms ++ ns) b c b'' c'' :=
  ⟨h'.alike, h.left.trans h'.left, h.right.trans h'.right⟩

theorem joined_nil (h : Alike b c) : Joined [] b c b c := ⟨h, rfl, rfl⟩

/-- what does not look at pulses and notes is the same for bodies that are alike -/
theorem Alike.congr {α : Type} (h : Alike b c) {f : Body → α} (hf : ∀ b, f b.bare = f b) :
    f b = f c := by
  rw [← hf b, ← hf c, h]

end Body

namespace Act

open Body

variable {α β : Type} {a : Act α} {S : Except Fault α → List Message → Prop}
  {T : Except Fault β → List Message → Prop}

/-! ## blind acts -/

/-- on bodies that are alike the act has the same outcome, publishes the same messages, as asked
for, and leaves bodies that are alike -/
structure Blind (S : Except Fault α → List Message → Prop) (a : Act α) : Prop where
  joined : ∀ b c, Alike b c → ∃ ms, S (a.run b).1 ms ∧ (a.run c).1 = (a.run b).1 ∧
    Joined ms b c (a.run b).2 (a.run c).2

theorem Blind.weaken {S' : Except Fault α → List Message → Prop} (h : Blind S a)
    (hS : ∀ r ms, S r ms → S' r ms) : Blind S' a := by
  refine ⟨fun b c hbc => ?_⟩
  obtain ⟨ms, hms, hr⟩ := h.joined b c hbc
  exact ⟨ms, hS _ _ hms, hr⟩

theorem blind_of_run {r : Body → Except Fault α} {f : Body → Body} (ha : ∀ b, a.run b = (r b, f b))
    (hr : ∀ b, r b.bare = r b) (hf : ∀ b, (f b.bare).bare = (f b).bare)
    (hm : ∀ b, (f b).bus.mail = b.bus.mail) (hS : ∀ b, S (r b) []) : Blind S a := by
  refine ⟨fun b c hbc => ⟨[], ?_, ?_, ?_, ?_, ?_⟩⟩
  · rw [ha]
    exact hS b
  · rw [ha, ha]
    exact (hbc.congr hr).symm
  · rw [ha, ha]
    exact hbc.congr (f := fun b => (f b).bare) hf
  · rw [ha]
    exact hm b
  · rw [ha]
    exact hm c

theorem blind_pure {x : α} (h : S (.ok x) []) : Blind S (pure x) :=
  blind_of_run (r := fun _ => .ok x) (f := id) (fun _ => rfl) (fun _ => rfl) (fun _ => rfl)
    (fun _ => rfl) fun _ => h

theorem blind_throw {e : Fault} (h : S (.error e) []) : Blind S (throw e : Act α) :=
  blind_of_run (r := fun _ => .error e) (f := id) (fun _ => rfl) (fun _ => rfl) (fun _ => rfl)
    (fun _ => rfl) fun _ => h

theorem blind_ofExcept {r : Except Fault α} (h : S r []) : Blind S (ofExcept r) := by
  cases r with
  | ok x => exact blind_pure h
  | error e => exact blind_throw h

theorem blind_update {f : Body → Body} {S : Except Fault Unit → List Message → Prop}
    (hf : ∀ b, (f b.bare).bare = (f b).bare) (hm : ∀ b, (f b).bus.mail = b.bus.mail)
    (h : S (.ok ()) []) : Blind S (update f) :=
  blind_of_run (r := fun _ => .ok ()) (fun _ => rfl) (fun _ => rfl) hf hm fun _ => h

theorem blind_publish {m : Message} {S : Except Fault Unit → List Message → Prop}
    (h : S (.ok ()) [m]) : Blind S (publish m) :=
  ⟨fun _ _ hbc => ⟨[m], h, rfl, hbc.congr (f := fun b => (b.publish m).bare) fun _ => rfl, rfl,
    rfl⟩⟩

theorem blind_bind {f : α → Act β} (ha : Blind S a)
    (hf : ∀ x ms, S (.ok x) ms → Blind (fun r ns => T r (ms ++ ns)) (f x))
    (he : ∀ e ms, S (.error e) ms → T (.error e) ms) : Blind T (a >>= f) := by
  refine ⟨fun b c hbc => ?_⟩
  obtain ⟨ms, hS, ho, hj⟩ := ha.joined b c hbc
  rcases hb : a.run b with ⟨r, b'⟩
  rcases hc : a.run c with ⟨r', c'⟩
  rw [hb] at hS ho hj
  rw [hc] at ho hj
  obtain rfl : r' = r := ho
  cases r' with
  | error e =>
    rw [run_bind_error hb, run_bind_error hc]
    exact ⟨ms, he e ms hS, rfl, hj⟩
  | ok x =>
    rw [run_bind_ok hb, run_bind_ok hc]
    obtain ⟨ns, hT, ho', hj'⟩ := (hf x ms hS).joined b' c' hj.alike
    exact ⟨ms ++ ns, hT, ho', hj.trans hj'⟩

theorem blind_get {f : Body → Act α} (hf : ∀ b, f b.bare = f b) (h : ∀ b, Blind S (f b)) :
    Blind S (get >>= f) := by
  refine ⟨fun b c hbc => ?_⟩
  have hb : (get >>= f).run b = (f b).run b := run_bind_ok rfl
  have hc : (get >>= f).run c = (f b).run c := (run_bind_ok rfl).trans (by rw [hbc.congr hf])
  rw [hb, hc]
  exact (h b).joined b c hbc

theorem blind_publish_pure {m : Message} {x : α} (h : S (.ok x) [m]) :
    Blind S (publish m >>= fun _ => pure x) := by
  refine blind_bind (S := fun r ms => r = .ok () ∧ ms = [m]) (blind_publish ⟨rfl, rfl⟩) ?_ ?_
  · rintro u ms ⟨-, rfl⟩
    exact blind_pure h
  · rintro e ms ⟨he, -⟩
    cases he

theorem blind_tryCatch {handler : Fault → Act α} {T : Except Fault α → List Message → Prop}
    (ha : Blind S a) (hok : ∀ x ms, S (.ok x) ms → T (.ok x) ms)
    (hh : ∀ e ms, S (.error e) ms → Blind (fun r ns => T r (ms ++ ns)) (handler e)) :
    Blind T (tryCatch a handler) := by
  refine ⟨fun b c hbc => ?_⟩
  obtain ⟨ms, hS, ho, hj⟩ := ha.joined b c hbc
  rcases hb : a.run b with ⟨r, b'⟩
  rcases hc : a.run c with ⟨r', c'⟩
  rw [hb] at hS ho hj
  rw [hc] at ho hj
  obtain rfl : r' = r := ho
  cases r' with
  | error e =>
    rw [run_tryCatch_error hb, run_tryCatch_error hc]
    obtain ⟨ns, hT, ho', hj'⟩ := (hh e ms hS).joined b' c' hj.alike
    exact ⟨ms ++ ns, hT, ho', hj.trans hj'⟩
  | ok x =>
    rw [run_tryCatch_ok hb, run_tryCatch_ok hc]
    exact ⟨ms, hok x ms hS, rfl, hj⟩

/-! ## what is said -/

/-- a blind act of which every message has a property -/
def Says (K : Message → Prop) (a : Act α) : Prop := Blind (fun _ ms => ∀ m ∈ ms, K m) a

section
variable {K : Message → Prop}

theorem says_of_run {r : Body → Except Fault α} {f : Body → Body}
    (ha : ∀ b, a.run b = (r b, f b)) (hr : ∀ b, r b.bare = r b)
    (hf : ∀ b, (f b.bare).bare = (f b).bare) (hm : ∀ b, (f b).bus.mail = b.bus.mail) :
    Says K a := blind_of_run ha hr hf hm fun _ => List.forall_mem_nil K

theorem says_pure (x : α) : Says K (pure x) := blind_pure (List.forall_mem_nil K)

theorem says_throw (e : Fault) : Says K (throw e : Act α) := blind_throw (List.forall_mem_nil K)

theorem says_ofExcept (r : Except Fault α) : Says K (ofExcept r) :=
  blind_ofExcept (List.forall_mem_nil K)

theorem says_update {f : Body → Body} (hf : ∀ b, (f b.bare).bare = (f b).bare)
    (hm : ∀ b, (f b).bus.mail = b.bus.mail) : Says K (update f) :=
  blind_update hf hm (List.forall_mem_nil K)

theorem says_note (level : LogLevel) (source : LogSource) (text : String) :
    Says K (note level source text) := says_update (fun _ => rfl) fun _ => rfl

theorem says_publish {m : Message} (h : K m) : Says K (publish m) :=
  blind_publish (List.forall_mem_singleton.mpr h)

theorem Says.bind {f : α → Act β} (ha : Says K a) (hf : ∀ x, Says K (f x)) : Says K (a >>= f) :=
  blind_bind ha
    (fun x _ hms => (hf x).weaken fun _ _ hns => List.forall_mem_append.mpr ⟨hms, hns⟩)
    fun _ _ hms => hms

theorem Says.map {f : α → β} (ha : Says K a) : Says K (f <$> a) := ha.bind fun _ => says_pure _

theorem says_get {f : Body → Act α} (hf : ∀ b, f b.bare = f b) (h : ∀ b, Says K (f b)) :
    Says K (get >>= f) := blind_get hf h

theorem Says.tryCatch {handler : Fault → Act α} (ha : Says K a) (hh : ∀ e, Says K (handler e)) :
    Says K (tryCatch a handler) :=
  blind_tryCatch ha (fun _ _ hms => hms)
    fun e _ hms => (hh e).weaken fun _ _ hns => List.forall_mem_append.mpr ⟨hms, hns⟩

theorem Says.ite {c : Prop} [Decidable c] {a' : Act α} (ha : Says K a) (ha' : Says K a') :
    Says K (if c then a else a') := by
  split
  · exact ha
  · exact ha'

theorem says_setSimLevel (level : SimLevel) :
    Says K (update fun b => b.setSimLevel level) := by
  refine says_update (fun b => ?_) fun b => ?_
  · unfold setSimLevel
    dsimp only
    split <;> split <;> rfl
  · unfold setSimLevel
    dsimp only
    split <;> rfl

theorem says_onTopology (f : Topology → Except Fault (Topology × α)) :
    Says K (onTopology f) := by
  unfold onTopology
  refine says_get (fun _ => rfl) fun b => ?_
  refine (says_ofExcept _).bind fun p => ?_
  refine Says.bind (says_update ?_ ?_) fun _ => says_pure _
  · exact fun _ => rfl
  · exact fun _ => rfl

section
variable [Rounding]

theorem says_refreshAwareness : Says K refreshAwareness := by
  unfold refreshAwareness
  refine says_get (fun _ => rfl) fun b => ?_
  refine (says_ofExcept _).bind fun x => ?_
  refine Says.bind (says_update ?_ ?_) fun _ => says_pure _
  · exact fun _ => rfl
  · exact fun _ => rfl

theorem says_evaluate : Says K evaluate :=
  says_of_run (r := fun b => .ok b.evaluate.2) (f := fun b => b.evaluate.1) (fun _ => rfl)
    (fun _ => rfl) (fun _ => rfl) fun _ => rfl

end

end
end Act
end Organism
