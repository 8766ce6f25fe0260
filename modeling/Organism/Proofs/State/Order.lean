import Organism.Proofs.State.Remarks
import Mathlib.Data.List.Perm.Basic

/-!
# The order of the lines

What a text gives is what its records say, and they say it in any order: each is spelled for itself,
and that none repeats another is said of all of them at once.

* `records_joined`        the records of texts with line feeds between them;
* `Recorded.perm`         records in another order say the same;
* `restore_perm`          healths put into a topology in another order;
* `order_irrelevant`      **lines in another order give the same healths, and a load of them does
                          the same to every topology**.
-/

namespace Organism

open Text

namespace State

def joined (ls : List (List Char)) : List Char := ['\n'].intercalate ls

/-- **Joined texts are read one after the other**, whatever breaks they hold themselves. -/
theorem records_joined (ls : List (List Char)) : records (joined ls) = ls.flatMap records := by
  induction ls with
  | nil => exact records_nil
  | cons l ls ih =>
    cases ls with
    | nil => simp [joined, List.intercalate]
    | cons k ls =>
      have hj : joined (l :: k :: ls) = l ++ '\n' :: joined (k :: ls) := by
        simp [joined, List.intercalate_cons_cons]
      rw [hj, records_newline, ih, List.flatMap_cons (x := l)]

theorem lookup_perm {m m' : List (OrganKind × Number)} (h : m.Perm m') (hn : (m.map (·.1)).Nodup)
    (k : OrganKind) : m.lookup k = m'.lookup k := by
  have hp : (m.map (·.1)).Perm (m'.map (·.1)) := h.map _
  by_cases hk : k ∈ m.map (·.1)
  · obtain ⟨e, he, rfl⟩ := List.mem_map.mp hk
    rw [Topology.lookup_eq_some hn he,
      Topology.lookup_eq_some (hp.nodup_iff.mp hn) (h.mem_iff.mp he)]
  · rw [Topology.lookup_eq_none hk, Topology.lookup_eq_none (mt hp.mem_iff.mpr hk)]

attribute [local instance] Rounding.binary64

/-- **Records in another order say the same.** -/
theorem Recorded.perm {ls : List Line} {rs ss : List (List Char)} (h : Recorded ls rs)
    (hp : ss.Perm rs) : ∃ ms, Recorded ms ss ∧ (entries ms).Perm (entries ls) := by
  obtain ⟨ms, hm, hl⟩ := List.perm_comp_forall₂ hp h.lines.flip
  have he : (entries ms).Perm (entries ls) := hl.filterMap _
  refine ⟨ms, ⟨hm.flip, ?_, ?_⟩, he⟩
  · rw [hl.count_eq]
    exact h.version
  · rw [(he.map _).nodup_iff]
    exact h.organs

/-- **Texts with the same records are both refused or both read, with the same healths.** -/
theorem parse_perm {x y : List Char} (h : (records x).Perm (records y)) :
    (∃ e e', parse x = .error e ∧ parse y = .error e') ∨
    ∃ m m', parse x = .ok m ∧ parse y = .ok m' ∧ m.Perm m' ∧ (m.map (·.1)).Nodup := by
  have hread {x y : List Char} {m : List (OrganKind × Number)} (h : (records x).Perm (records y))
      (hy : parse y = .ok m) : ∃ n, parse x = .ok n ∧ n.Perm m := by
    obtain ⟨ls, hr, rfl⟩ := parse_iff_records.mp hy
    obtain ⟨ms, hs, he⟩ := hr.perm h
    exact ⟨entries ms, parse_iff_records.mpr ⟨ms, hs, rfl⟩, he⟩
  cases hx : parse x with
  | ok m =>
    obtain ⟨m', hy, hm⟩ := hread h.symm hx
    exact .inr ⟨m, m', rfl, hy, hm.symm, (parse_spec hx).2⟩
  | error e =>
    cases hy : parse y with
    | error e' => exact .inl ⟨e, e', rfl, rfl⟩
    | ok m' =>
      obtain ⟨m, hm, -⟩ := hread h hy
      rw [hx] at hm
      cases hm

end State

namespace Topology

attribute [local instance] Rounding.binary64

/-- healths in another order are put into a topology exactly if these are, with the same effect -/
theorem restore_perm {m m' : List (OrganKind × Number)} (h : m.Perm m') (hn : (m.map (·.1)).Nodup)
    (t : Topology) : (t.restore m).toOption = (t.restore m').toOption := by
  have hn' : (m'.map (·.1)).Nodup := (h.map _).nodup_iff.mp hn
  by_cases hm : ∀ e ∈ m, t.has e.1 = true
  · have hm' : ∀ e ∈ m', t.has e.1 = true := fun e he => hm e (h.mem_iff.mpr he)
    have hr : restored m = restored m' := by
      funext o
      unfold restored
      rw [State.lookup_perm h hn]
    rw [restore_of_has hn hm, restore_of_has hn' hm', hr]
  · push Not at hm
    obtain ⟨e, he, hf⟩ := hm
    have hf : t.has e.1 = false := Bool.eq_false_iff.mpr hf
    obtain ⟨ks, -, hr⟩ := restore_of_not_has he hf
    obtain ⟨ks', -, hr'⟩ := restore_of_not_has (h.mem_iff.mp he) hf
    rw [hr, hr']
    rfl

theorem load_topology (t : Topology) (x : List Char) :
    (t.load x).toOption.map (·.1) =
      (State.parse x).toOption.bind fun m => (t.restore m).toOption := by
  unfold load loadParsed
  cases State.parse x with
  | error e => rfl
  | ok m =>
    show ((t.restore m).bind fun t' => Except.ok (t', m)).toOption.map (·.1) = (t.restore m).toOption
    cases t.restore m <;> rfl

theorem load_perm {x y : List Char} (h : (State.records x).Perm (State.records y)) (t : Topology) :
    (t.load x).toOption.map (·.1) = (t.load y).toOption.map (·.1) := by
  rw [load_topology, load_topology]
  rcases State.parse_perm h with ⟨e, e', hx, hy⟩ | ⟨m, m', hx, hy, hm, hn⟩
  · rw [hx, hy]
    rfl
  · rw [hx, hy]
    exact restore_perm hm hn t

theorem loadSteps_topology {t : Topology} (h : t.Distinct) (x : List Char) :
    (t.loadSteps (State.parse x)).1 = ((t.load x).toOption.map (·.1)).getD t := by
  have hs : t.loadSteps (State.parse x) = _ := loadSteps_source h (.text x)
  rw [hs, loadSource]
  cases t.load x <;> rfl

end Topology

namespace State

attribute [local instance] Rounding.binary64

/-- **The order of the lines does not matter.**  Texts with the same lines in another order are both
read or both refused, give the same healths, and are loaded with the same effect, which is none if
the load fails. -/
theorem order_irrelevant {xs ys : List (List Char)} (h : xs.Perm ys) :
    ((∃ m, parse (joined xs) = .ok m) ↔ ∃ m, parse (joined ys) = .ok m) ∧
    (∀ m m', parse (joined xs) = .ok m → parse (joined ys) = .ok m' →
      m.Perm m' ∧ ∀ k, m.lookup k = m'.lookup k) ∧
    ∀ t : Topology,
      (t.load (joined xs)).toOption.map (·.1) = (t.load (joined ys)).toOption.map (·.1) ∧
      (t.Distinct →
        (t.loadSteps (parse (joined xs))).1 = (t.loadSteps (parse (joined ys))).1) := by
  have hp : (records (joined xs)).Perm (records (joined ys)) := by
    rw [records_joined, records_joined]
    exact h.flatMap_right _
  refine ⟨?_, ?_, fun t => ⟨Topology.load_perm hp t, fun hd => ?_⟩⟩
  · rcases parse_perm hp with ⟨e, e', hx, hy⟩ | ⟨m, m', hx, hy, -⟩ <;> simp [hx, hy]
  · intro m m' hm hm'
    rcases parse_perm hp with ⟨e, e', hx, -⟩ | ⟨n, n', hx, hy, hn, hd⟩
    · rw [hx] at hm
      cases hm
    · rw [hx] at hm
      rw [hy] at hm'
      cases hm
      cases hm'
      exact ⟨hn, lookup_perm hn hd⟩
  · rw [Topology.loadSteps_topology hd, Topology.loadSteps_topology hd, Topology.load_perm hp]

/-- the version after a health and before another -/
theorem order_irrelevant_version :
    ["cortex=0.5".toList, "version=1".toList].Perm ["version=1".toList, "cortex=0.5".toList] ∧
    parse (joined ["cortex=0.5".toList, "version=1".toList]) = .ok [(.cortex, .finite (1 / 2))] ∧
    ∃ m, parse (joined ["version=1".toList, "cortex=0.5".toList]) = .ok m := by
  have hp : ["cortex=0.5".toList, "version=1".toList].Perm
      ["version=1".toList, "cortex=0.5".toList] := .swap ..
  have hx : parse (joined ["cortex=0.5".toList, "version=1".toList])
      = .ok [(.cortex, .finite (1 / 2))] := by
    decide +kernel
  exact ⟨hp, hx, (order_irrelevant hp).1.mp ⟨_, hx⟩⟩

end State
end Organism
