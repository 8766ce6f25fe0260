import Organism.Proofs.Body.Blind
import Organism.Proofs.Body.Frame

/-!
# Acts that do not look at notes

Notes are written for readers outside of the organism.  An act is discreet if it does not look at
them, and if it does not take back that someone asked for an end of the ticks.  It may ask for an
end itself.

* `Body.Same`            bodies that agree in all but their notes;
* `Same.advance`         they do so after the beginning of a tick as well;
* `Act.Discreet`         on such bodies the act does the same, and an end that was asked for stays so;
* `discreet_of_blind`    **a blind act that leaves the time alone is discreet**;
* `discreet_stop`        so is the act that asks for an end.
-/

namespace Organism

namespace Bus

theorem ext_mail {b c : Bus} (hbare : b.bare = c.bare) (hmail : b.mail = c.mail) : b = c := by
  have heta : ∀ b : Bus, b = { b.bare with
      published := b.mail.published, pending := b.mail.pending, inbox := b.mail.inbox
      history := b.mail.history } := fun _ => rfl
  rw [heta b, heta c, hbare, hmail]

end Bus

namespace Body

def unnoted (b : Body) : Body := { b with journal := [] }

/-- the bodies agree in all but their notes -/
def Same (b c : Body) : Prop := b.unnoted = c.unnoted

variable {b c d b' c' : Body}

theorem Same.symm (h : b.Same c) : c.Same b := Eq.symm h

theorem Same.trans (h : b.Same c) (h' : c.Same d) : b.Same d := Eq.trans h h'

/-- what does not look at notes is the same for bodies that agree in all else -/
theorem Same.congr {α : Type} (h : b.Same c) {f : Body → α} (hf : ∀ b, f b.unnoted = f b) :
    f b = f c := by
  rw [← hf b, ← hf c, h]

theorem unnoted_notify (b : Body) (shown : Observer × Pulse) :
    (b.unnoted.notify shown).unnoted = (b.notify shown).unnoted := by
  unfold notify
  split
  · rfl
  · rfl
  · split <;> rfl

theorem Same.foldl_notify (h : b.Same c) (shown : List (Observer × Pulse)) :
    (shown.foldl notify b).Same (shown.foldl notify c) := by
  induction shown generalizing b c with
  | nil => exact h
  | cons s shown ih =>
    have hs : (b.notify s).Same (c.notify s) :=
      h.congr (f := fun b => (b.notify s).unnoted) fun b => b.unnoted_notify s
    exact ih hs

theorem Same.advance (h : b.Same c) (tick : Int) : (b.advance tick).Same (c.advance tick) := by
  have hbus : b.bus = c.bus := h.congr fun _ => rfl
  have hbody : Same { b with bus := b.bus.advance tick } { c with bus := c.bus.advance tick } :=
    h.congr (f := fun b => unnoted { b with bus := b.bus.advance tick }) fun _ => rfl
  unfold Body.advance
  dsimp only
  rw [hbus] at hbody ⊢
  exact hbody.foldl_notify _

/-- bodies that are alike and have the same mail agree in all but notes and what was shown -/
theorem same_of_alike (h : Alike b c) (hmail : b.bus.mail = c.bus.mail) (hseen : b.seen = c.seen)
    (hconsole : b.console = c.console) : b.Same c := by
  have hbus : b.bus = c.bus := Bus.ext_mail (congrArg (fun b => b.bus) h) hmail
  calc b.unnoted = { b.bare with bus := b.bus, seen := b.seen, console := b.console } := rfl
    _ = { c.bare with bus := c.bus, seen := c.seen, console := c.console } := by
        rw [show b.bare = c.bare from h, hbus, hseen, hconsole]
    _ = c.unnoted := rfl

attribute [local instance] Rounding.binary64

theorem Course.untimed {S : List Part} (h : Course S b b') (hS : .time ∉ S) :
    b'.stopped = b.stopped ∧ b'.seen = b.seen ∧ b'.console = b.console := by
  have hsame : (b'.stopped, b'.seen, b'.console) = (b.stopped, b.seen, b.console) := by
    refine h.same (f := fun b => (b.stopped, b.seen, b.console)) ?_
    intro p hp c c' hc
    cases hc with
    | time => exact absurd hp hS
    | _ => rfl
  simpa using hsame

end Body

namespace Act

open Body

variable {α : Type} {a : Act α}

/-- on bodies that agree in all but their notes the act has the same outcome and leaves such bodies,
and an end that was asked for stays asked for -/
structure Discreet (a : Act α) : Prop where
  same : ∀ b c, b.Same c → (a.run b).1 = (a.run c).1 ∧ (a.run b).2.Same (a.run c).2
  firm : ∀ b, b.stopped = true → (a.run b).2.stopped = true

theorem discreet_pure (x : α) : Discreet (pure x) := ⟨fun _ _ h => ⟨rfl, h⟩, fun _ h => h⟩

theorem Discreet.ite {c : Prop} [Decidable c] {a' : Act α} (ha : Discreet a) (ha' : Discreet a') :
    Discreet (if c then a else a') := by
  split
  · exact ha
  · exact ha'

def stop : Act Unit := update fun b => { b with stopped := true }

theorem discreet_stop : Discreet stop :=
  ⟨fun _ _ h => ⟨rfl, h.congr (f := fun b => unnoted { b with stopped := true }) fun _ => rfl⟩,
    fun _ _ => rfl⟩

attribute [local instance] Rounding.binary64

/-- **A blind act that leaves the time alone is discreet.** -/
theorem discreet_of_blind {S : Except Fault α → List Message → Prop} {parts : List Part}
    (hb : Blind S a) (ht : Touches parts a) (htime : .time ∉ parts) : Discreet a := by
  have huntimed : ∀ b, (a.run b).2.stopped = b.stopped ∧ (a.run b).2.seen = b.seen ∧
      (a.run b).2.console = b.console := fun b => (ht.course b).untimed htime
  refine ⟨fun b c h => ?_, fun b h => (huntimed b).1.trans h⟩
  have halike : Alike b c := h.congr (f := bare) fun _ => rfl
  obtain ⟨ms, -, ho, hj⟩ := hb.joined b c halike
  obtain ⟨-, hseen, hconsole⟩ := huntimed b
  obtain ⟨-, hseen', hconsole'⟩ := huntimed c
  have hmail : (a.run b).2.bus.mail = (a.run c).2.bus.mail := by
    have hbus : b.bus = c.bus := h.congr fun _ => rfl
    rw [hj.left, hj.right, hbus]
  refine ⟨ho.symm, same_of_alike hj.alike hmail ?_ ?_⟩
  · rw [hseen, hseen']
    exact h.congr (f := fun b => b.seen) fun _ => rfl
  · rw [hconsole, hconsole']
    exact h.congr (f := fun b => b.console) fun _ => rfl

end Act
end Organism
