import Organism.Proofs.Body.Blind

/-!
# Pulses with other numbers

Where something more is published, all that comes after it has other numbers.

* `Pulse.content`       what stands on a pulse besides its number;
* `without`             pulses without those that have the numbers of some others;
* `Echo`                a list of pulses, next to one with extra pulses in between;
* `Echo.grow`           extra pulses with new numbers take nothing from the pulses before them;
* `echo_stampAll`       **messages that are published with and without others in their middle**.
-/

namespace Organism

def Pulse.content (p : Pulse) : Message × Int := (p.toMessage, p.tick)

namespace Bus

theorem content_stampAll (n : Nat) (tick : Int) (ms : List Message) :
    (stampAll n tick ms).map Pulse.content = ms.map fun m => (m, tick) := by
  induction ms generalizing n with
  | nil => rfl
  | cons m ms ih => exact congrArg ((m, tick) :: ·) (ih (n + 1))

theorem stampAll_append (n : Nat) (tick : Int) (ms ns : List Message) :
    stampAll n tick (ms ++ ns) = stampAll n tick ms ++ stampAll (n + ms.length) tick ns := by
  induction ms generalizing n with
  | nil => rfl
  | cons m ms ih =>
    rw [List.cons_append, stampAll, stampAll, ih, List.cons_append, List.length_cons,
      Nat.add_right_comm, Nat.add_assoc n]

theorem id_of_mem_stampAll {n : Nat} {tick : Int} {ms : List Message} {p : Pulse}
    (h : p ∈ stampAll n tick ms) : n < p.id ∧ p.id ≤ n + ms.length := by
  induction ms generalizing n with
  | nil => cases h
  | cons m ms ih =>
    rw [List.length_cons]
    rcases List.mem_cons.mp h with rfl | h
    · exact ⟨Nat.lt_succ_self n, by dsimp only; omega⟩
    · have := ih h
      omega

end Bus

/-! ## pulses left out -/

/-- the pulses that do not have the number of an extra one -/
def without (extra ps : List Pulse) : List Pulse := ps.filter fun p => p.id ∉ extra.map (·.id)

variable {extra more ps qs ps' qs' : List Pulse} {n n' : Nat}

theorem without_append (extra ps qs : List Pulse) :
    without extra (ps ++ qs) = without extra ps ++ without extra qs := List.filter_append ..

theorem without_of_disjoint (h : ∀ p ∈ ps, ∀ q ∈ extra, p.id ≠ q.id) : without extra ps = ps := by
  refine List.filter_eq_self.mpr fun p hp => decide_eq_true fun hmem => ?_
  obtain ⟨q, hq, hid⟩ := List.mem_map.mp hmem
  exact h p hp q hq hid.symm

theorem without_of_subset (h : ∀ p ∈ ps, p ∈ extra) : without extra ps = [] :=
  List.filter_eq_nil_iff.mpr fun p hp hnot =>
    of_decide_eq_true hnot (List.mem_map_of_mem (h p hp))

theorem without_append_of_disjoint (h : ∀ p ∈ ps, ∀ q ∈ more, p.id ≠ q.id) :
    without (extra ++ more) ps = without extra ps := by
  refine List.filter_congr fun p hp => decide_eq_decide.mpr (not_congr ?_)
  have hnot : p.id ∉ more.map (·.id) := by
    intro hmem
    obtain ⟨q, hq, hid⟩ := List.mem_map.mp hmem
    exact h p hp q hq hid.symm
  rw [List.map_append, List.mem_append, or_iff_left hnot]

/-! ## echoes -/

/-- the second list is the first with extra pulses in between and other numbers, none of them
greater than `n` -/
structure Echo (n : Nat) (extra ps qs : List Pulse) : Prop where
  extra_le : ∀ p ∈ extra, p.id ≤ n
  le : ∀ q ∈ qs, q.id ≤ n
  same : (without extra qs).map Pulse.content = ps.map Pulse.content

theorem echo_nil : Echo n [] [] [] where
  extra_le := List.forall_mem_nil _
  le := List.forall_mem_nil _
  same := rfl

theorem Echo.append (h : Echo n extra ps qs) (h' : Echo n extra ps' qs') :
    Echo n extra (ps ++ ps') (qs ++ qs') where
  extra_le := h.extra_le
  le := List.forall_mem_append.mpr ⟨h.le, h'.le⟩
  same := by rw [without_append, List.map_append, List.map_append, h.same, h'.same]

theorem Echo.grow (h : Echo n extra ps qs) (hn : n ≤ n')
    (hmore : ∀ p ∈ more, n < p.id ∧ p.id ≤ n') : Echo n' (extra ++ more) ps qs where
  extra_le := List.forall_mem_append.mpr
    ⟨fun p hp => Nat.le_trans (h.extra_le p hp) hn, fun p hp => (hmore p hp).2⟩
  le := fun q hq => Nat.le_trans (h.le q hq) hn
  same := by
    rw [without_append_of_disjoint, h.same]
    intro p hp q hq
    exact Nat.ne_of_lt (Nat.lt_of_le_of_lt (h.le p hp) (hmore q hq).1)

theorem id_of_extra (hextra : ∀ p ∈ extra, p.id ≤ n) {k : Nat} {tick : Int} {ns : List Message}
    {p : Pulse} (h : p ∈ extra ++ Bus.stampAll (n + k) tick ns) :
    p.id ≤ n ∨ n + k < p.id ∧ p.id ≤ n + k + ns.length :=
  (List.mem_append.mp h).imp (hextra p) Bus.id_of_mem_stampAll

/-- **Messages that are published with others in their middle, and without.** -/
theorem echo_stampAll (hextra : ∀ p ∈ extra, p.id ≤ n) (m : Nat) (tick : Int)
    (ms ns ks : List Message) :
    Echo (n + (ms ++ (ns ++ ks)).length) (extra ++ Bus.stampAll (n + ms.length) tick ns)
      (Bus.stampAll m tick (ms ++ ks)) (Bus.stampAll n tick (ms ++ (ns ++ ks))) where
  extra_le := by
    intro p hp
    have := id_of_extra hextra hp
    rw [List.length_append, List.length_append]
    omega
  le := fun q hq => (Bus.id_of_mem_stampAll hq).2
  same := by
    have hms : ∀ p ∈ Bus.stampAll n tick ms,
        ∀ q ∈ extra ++ Bus.stampAll (n + ms.length) tick ns, p.id ≠ q.id := by
      intro p hp q hq
      have := Bus.id_of_mem_stampAll hp
      have := id_of_extra hextra hq
      omega
    have hks : ∀ p ∈ Bus.stampAll (n + ms.length + ns.length) tick ks,
        ∀ q ∈ extra ++ Bus.stampAll (n + ms.length) tick ns, p.id ≠ q.id := by
      intro p hp q hq
      have := Bus.id_of_mem_stampAll hp
      have := id_of_extra hextra hq
      omega
    rw [Bus.stampAll_append, Bus.stampAll_append, without_append, without_append,
      without_of_disjoint hms, without_of_subset fun p hp => List.mem_append_right _ hp,
      without_of_disjoint hks, List.nil_append, List.map_append, Bus.content_stampAll,
      Bus.content_stampAll, Bus.content_stampAll, List.map_append]

end Organism
