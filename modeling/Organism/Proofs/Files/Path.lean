import Organism.Files
import Organism.Proofs.Text.Lines
import Mathlib.Logic.Basic

/-!
# Paths that come back

The text of a path is not the text that it was read from, which may have had more slashes and dots in
it.  But it is read as the same path.

* `pieces_eq`        the pieces of a path are what stands between slashes;
* `FilePath.Read`    what every path that was read consists of;
* `ofString_text`    **a path that was read is read back from its text**.
-/

namespace Organism.FilePath

open Text

/-! ## pieces -/

theorem pieces_eq (cs : List Char) : pieces cs = splitWith (· == '/') cs := by
  fun_induction pieces cs with
  | case1 => rfl
  | case2 cs ih =>
    rw [ih]
    rfl
  | case3 c cs hc hp ih =>
    rw [ih] at hp
    exact absurd hp (splitWith_ne_nil _ _)
  | case4 c cs hc p ps hp ih =>
    have hc : (c == '/') = false := beq_eq_false_iff_ne.mpr hc
    rw [splitWith_of_neg (p := (· == '/')) hc, ← ih, hp]

theorem not_slash {w : List Char} (h : '/' ∉ w) : ∀ c ∈ w, (c == '/') = false := by
  intro c hc
  rw [beq_eq_false_iff_ne]
  rintro rfl
  exact h hc

/-- **Pieces with slashes between them are cut apart again.** -/
theorem pieces_intercalate {ws : List (List Char)} (h : ∀ w ∈ ws, '/' ∉ w) (hne : ws ≠ []) :
    pieces (['/'].intercalate ws) = ws := by
  induction ws with
  | nil => exact absurd rfl hne
  | cons w ws ih =>
    obtain ⟨hw, hws⟩ := List.forall_mem_cons.mp h
    cases ws with
    | nil => rw [List.intercalate_singleton, pieces_eq, splitWith_self (not_slash hw)]
    | cons v vs =>
      rw [List.intercalate_cons_cons, List.append_assoc, List.singleton_append, pieces_eq,
        splitWith_append (not_slash hw) (beq_self_eq_true '/'), ← pieces_eq,
        ih hws (List.cons_ne_nil v vs)]

/-! ## paths that were read -/

def IsName (n : String) : Prop := n ≠ "" ∧ n ≠ "." ∧ '/' ∉ n.toList

/-- up to two slashes, and names that mean something -/
structure Read (p : FilePath) : Prop where
  root : p.root ∈ ["", "/", "//"]
  names : ∀ n ∈ p.names, IsName n

theorem mem_names {cs : List Char} {n : String}
    (h : n ∈ ((pieces cs).map String.ofList).filter fun n => n != "" && n != ".") : IsName n := by
  obtain ⟨hmem, hn⟩ := List.mem_filter.mp h
  obtain ⟨w, hw, rfl⟩ := List.mem_map.mp hmem
  obtain ⟨hempty, hdot⟩ := (Bool.and_eq_true _ _).mp hn
  refine ⟨bne_iff_ne.mp hempty, bne_iff_ne.mp hdot, ?_⟩
  rw [pieces_eq] at hw
  rw [String.toList_ofList]
  intro hslash
  exact absurd (not_of_mem_splitWith hw '/' hslash) (by decide)

theorem read_ofString (s : String) : (ofString s).Read where
  root := by
    show rootOf s.toList ∈ _
    unfold rootOf
    split <;> decide
  names := fun _ hn => mem_names hn

/-! ## reading back -/

def joined (ns : List String) : List Char := ['/'].intercalate (ns.map String.toList)

theorem names_joined {ns : List String} (h : ∀ n ∈ ns, IsName n) :
    (((pieces (joined ns)).map String.ofList).filter fun n => n != "" && n != ".") = ns := by
  by_cases hne : ns = []
  · subst hne
    rfl
  have hws : ∀ w ∈ ns.map String.toList, '/' ∉ w := by
    intro w hw
    obtain ⟨n, hn, rfl⟩ := List.mem_map.mp hw
    exact (h n hn).2.2
  have hback : (ns.map String.toList).map String.ofList = ns := by
    rw [List.map_map]
    exact (List.map_congr_left fun n _ => String.ofList_toList).trans (List.map_id ns)
  unfold joined
  rw [pieces_intercalate hws (by simpa using hne), hback, List.filter_eq_self]
  intro n hn
  obtain ⟨hempty, hdot, -⟩ := h n hn
  rw [Bool.and_eq_true]
  exact ⟨bne_iff_ne.mpr hempty, bne_iff_ne.mpr hdot⟩

theorem head_joined {ns : List String} (h : ∀ n ∈ ns, IsName n) :
    ∀ c cs, joined ns = c :: cs → c ≠ '/' := by
  rintro c cs hj rfl
  cases ns with
  | nil => cases hj
  | cons n ns =>
    obtain ⟨hempty, -, hslash⟩ := h n List.mem_cons_self
    have hn : ∃ d ds, n.toList = d :: ds := by
      refine List.exists_cons_of_ne_nil fun hnil => hempty ?_
      rw [← String.ofList_toList (s := n), hnil]
    obtain ⟨d, ds, hd⟩ := hn
    have hfirst : d = '/' := by
      unfold joined at hj
      cases ns with
      | nil =>
        rw [List.map_singleton, List.intercalate_singleton, hd] at hj
        exact (List.cons.inj hj).1
      | cons m ms =>
        rw [List.map_cons, List.map_cons, List.intercalate_cons_cons, hd] at hj
        exact (List.cons.inj hj).1
    rw [hd, hfirst] at hslash
    exact hslash List.mem_cons_self

theorem rootOf_slashes {cs : List Char} (h : ∀ c cs', cs = c :: cs' → c ≠ '/') :
    rootOf cs = "" ∧ rootOf ('/' :: cs) = "/" ∧ rootOf ('/' :: '/' :: cs) = "//" := by
  cases cs with
  | nil => exact ⟨rfl, rfl, rfl⟩
  | cons c cs =>
    have hc : c ≠ '/' := h c cs rfl
    simp [rootOf, hc]

/-- **A path that was read is read back from its text.** -/
theorem Read.ofString_text {p : FilePath} (h : p.Read) : ofString p.text = p := by
  obtain ⟨root, names⟩ := p
  obtain ⟨hroot, hnames⟩ := h
  dsimp only at hroot hnames
  have hj := names_joined hnames
  unfold text
  dsimp only
  split
  · next hempty =>
    obtain ⟨rfl, rfl⟩ := hempty
    rfl
  · have htext : (root ++ "/".intercalate names).toList = root.toList ++ joined names := by
      rw [String.toList_append, String.toList_intercalate]
      rfl
    obtain ⟨hnone, hone, htwo⟩ := rootOf_slashes (head_joined hnames)
    unfold ofString
    rw [htext]
    simp only [List.mem_cons, List.not_mem_nil, or_false] at hroot
    rcases hroot with rfl | rfl | rfl
    · exact congrArg₂ FilePath.mk hnone hj
    · exact congrArg₂ FilePath.mk hone hj
    · exact congrArg₂ FilePath.mk htwo hj

end Organism.FilePath
