import Organism.Proofs.Memory.History
import Mathlib

/-!
# The listing of a working memory

A listing has the entries of a store under the names of their scopes, sorted and put into groups.
The groups, one after the other, are the sorted entries again; so nothing is lost or doubled as long
as different scopes have different names, which is so if no kind of scope has a colon in it.

* `Scope.name_injective`   **scopes of kinds without a colon have different names**;
* `strict_sorted`          sorted entries stand in strict order;
* `flat_putGroup`          a last entry that is put into groups comes after all others;
* `flat_listing`           **the groups of a listing are the sorted entries, one after the other**;
* `listing_lossless`       **a listing loses nothing**.
-/

namespace Organism

namespace Scope

/-- what follows the kind in the name of a scope -/
def suffix (s : Scope) : List Char :=
  match s.ref with
  | none => []
  | some r => ':' :: (toString r).toList

theorem toList_name (s : Scope) : s.name.toList = s.kind.toList ++ s.suffix := by
  unfold name suffix
  cases s.ref with
  | none => simp
  | some r => simp [toString]

theorem suffix_injective {s t : Scope} (h : s.suffix = t.suffix) : s.ref = t.ref := by
  unfold suffix at h
  cases hs : s.ref <;> cases ht : t.ref <;> rw [hs, ht] at h
  · cases h
  · cases h
  · next a b =>
    have hab := String.toList_injective (List.cons.inj h).2
    rw [Int.toString_eq_repr, Int.toString_eq_repr] at hab
    rw [Int.repr_injective hab]

/-- **Scopes of kinds without a colon have different names.** -/
theorem name_injective {s t : Scope} (hs : ':' ∉ s.kind.toList) (ht : ':' ∉ t.kind.toList)
    (h : s.name = t.name) : s = t := by
  have hsplit : ∀ u : Scope, ':' ∉ u.kind.toList →
      u.name.toList.takeWhile (· ≠ ':') = u.kind.toList := by
    intro u hu
    have hbefore : ∀ c ∈ u.kind.toList, decide (c ≠ ':') = true := fun c hc =>
      decide_eq_true fun hcolon => hu (hcolon ▸ hc)
    have hsuffix : u.suffix.takeWhile (· ≠ ':') = [] := by
      unfold suffix
      cases u.ref <;> rfl
    rw [toList_name, List.takeWhile_append_of_pos hbefore, hsuffix, List.append_nil]
  have hkind : s.kind.toList = t.kind.toList := by rw [← hsplit s hs, ← hsplit t ht, h]
  have hname := congrArg String.toList h
  rw [toList_name, toList_name, hkind] at hname
  have href := suffix_injective (List.append_cancel_left hname)
  cases s
  cases t
  obtain rfl := String.toList_injective hkind
  cases href
  rfl

end Scope

namespace Memory

/-! ## entries in order -/

def line (e : (Scope × String) × Value) : String ×ₗ String := toLex (e.1.1.name, e.1.2)

theorem precedes_iff {a b : (Scope × String) × Value} : precedes a b = true ↔ line a ≤ line b := by
  unfold precedes line
  rw [Prod.Lex.toLex_le_toLex]
  split
  · next h => simp [h]
  · next h =>
    split
    · next h' => simp [h, h'.ne']
    · next h' =>
      have heq : a.1.1.name = b.1.1.name := le_antisymm (not_lt.mp h') (not_lt.mp h)
      rw [Bool.not_eq_true', decide_eq_false_iff_not, not_lt]
      simp only [heq, lt_irrefl, true_and, false_or]

/-- **Sorted entries stand in strict order**, if no two of them stand in one place. -/
theorem strict_sorted {m : Memory} (h : (m.entries.rows.map line).Nodup) :
    (m.sorted.map line).Pairwise (· < ·) := by
  have hle : m.sorted.Pairwise fun a b => line a ≤ line b := by
    refine (List.pairwise_mergeSort ?_ ?_ m.entries.rows).imp precedes_iff.mp
    · intro a b c hab hbc
      exact precedes_iff.mpr ((precedes_iff.mp hab).trans (precedes_iff.mp hbc))
    · intro a b
      rw [Bool.or_eq_true, precedes_iff, precedes_iff]
      exact le_total (line a) (line b)
  have hne : (m.sorted.map line).Nodup := ((List.mergeSort_perm _ _).map line).nodup_iff.mpr h
  exact ((List.pairwise_map.mpr hle).and hne).imp fun hab => lt_of_le_of_ne hab.1 hab.2

/-! ## groups -/

def flat (groups : Table String (Table String Value)) : List ((String ×ₗ String) × Value) :=
  groups.rows.flatMap fun g => g.2.rows.map fun f => (toLex (g.1, f.1), f.2)

theorem mem_flat {groups : Table String (Table String Value)} {name key : String} {v : Value} :
    (toLex (name, key), v) ∈ flat groups ↔
      (groups.get? name).bind (fun fields => fields.get? key) = some v := by
  unfold flat
  rw [List.mem_flatMap, Option.bind_eq_some_iff]
  constructor
  · rintro ⟨g, hg, hv⟩
    obtain ⟨f, hf, heq⟩ := List.mem_map.mp hv
    cases heq
    exact ⟨g.2, Table.get?_eq_some_iff.mpr hg, Table.get?_eq_some_iff.mpr hf⟩
  · rintro ⟨fields, hfields, hv⟩
    exact ⟨_, Table.get?_eq_some_iff.mp hfields,
      List.mem_map.mpr ⟨_, Table.get?_eq_some_iff.mp hv, rfl⟩⟩

/-- no group is empty, and the entries in them stand in strict order -/
structure Ordered (groups : Table String (Table String Value)) : Prop where
  inhabited : ∀ g ∈ groups.rows, g.2.rows ≠ []
  strict : (flat groups).Pairwise fun a b => a.1 < b.1

namespace Ordered

variable {groups : Table String (Table String Value)}

theorem empty : Ordered {} := ⟨nofun, .nil⟩

theorem names (h : Ordered groups) : groups.rows.Pairwise fun a b => a.1 < b.1 := by
  have hne : groups.rows.Pairwise fun a b => a.1 ≠ b.1 := List.pairwise_map.mp groups.nodup
  refine ((List.pairwise_flatMap.mp h.strict).2.and hne).imp_of_mem ?_
  rintro a b ha hb ⟨hlt, hne⟩
  obtain ⟨f, hf⟩ := List.exists_mem_of_ne_nil _ (h.inhabited a ha)
  obtain ⟨g, hg⟩ := List.exists_mem_of_ne_nil _ (h.inhabited b hb)
  have hfg := hlt _ (List.mem_map.mpr ⟨f, hf, rfl⟩) _ (List.mem_map.mpr ⟨g, hg, rfl⟩)
  exact (Prod.Lex.toLex_lt_toLex.mp hfg).resolve_right fun heq => hne heq.1

theorem keys (h : Ordered groups) {g : String × Table String Value} (hg : g ∈ groups.rows) :
    g.2.keys.Pairwise (· < ·) := by
  have hgroup := List.pairwise_map.mp ((List.pairwise_flatMap.mp h.strict).1 g hg)
  refine List.pairwise_map.mpr (hgroup.imp fun {a b} hab => ?_)
  exact ((Prod.Lex.toLex_lt_toLex.mp hab).resolve_left (lt_irrefl _)).2

theorem flat_putGroup (h : Ordered groups) {e : (Scope × String) × Value}
    (hlast : ∀ x ∈ flat groups, x.1 < line e) :
    flat (putGroup groups e) = flat groups ++ [(line e, e.2)] := by
  obtain ⟨⟨scope, key⟩, v⟩ := e
  unfold flat putGroup
  dsimp only
  cases hget : groups.get? scope.name with
  | none =>
    rw [Table.rows_put_fresh (Table.get?_eq_none_iff.mp hget), List.flatMap_append]
    rfl
  | some fields =>
    obtain ⟨pre, post, hrows, -, hput⟩ := Table.rows_put_known hget (fields.put key v)
    have hmem : ∀ g ∈ groups.rows, ∀ f ∈ g.2.rows, toLex (g.1, f.1) < toLex (scope.name, key) :=
      fun g hg f hf => hlast _ (List.mem_flatMap.mpr ⟨g, hg, List.mem_map.mpr ⟨f, hf, rfl⟩⟩)
    have hpost : post = [] := by
      refine List.eq_nil_iff_forall_not_mem.mpr fun g hg => ?_
      have hnames := h.names
      rw [hrows] at hnames
      have hlt : scope.name < g.1 :=
        (List.pairwise_cons.mp (List.pairwise_append.mp hnames).2.1).1 g hg
      have hgroup : g ∈ groups.rows := by
        rw [hrows]
        exact List.mem_append_right _ (List.mem_cons_of_mem _ hg)
      obtain ⟨f, hf⟩ := List.exists_mem_of_ne_nil _ (h.inhabited g hgroup)
      rcases Prod.Lex.toLex_lt_toLex.mp (hmem g hgroup f hf) with hgt | ⟨heq, -⟩
      · exact lt_asymm hlt hgt
      · exact hlt.ne' heq
    subst hpost
    have hkey : key ∉ fields.keys := by
      intro hkey
      obtain ⟨f, hf, rfl⟩ := List.mem_map.mp hkey
      exact lt_irrefl _ (hmem _ (Table.get?_eq_some_iff.mp hget) f hf)
    show List.flatMap _ (groups.put scope.name (fields.put key v)).rows = _
    rw [hput, hrows, List.flatMap_append, List.flatMap_append, List.append_assoc]
    congr 1
    show List.map _ (fields.put key v).rows ++ [] = (List.map _ fields.rows ++ []) ++ _
    rw [Table.rows_put_fresh hkey, List.map_append, List.append_nil, List.append_nil]
    rfl

theorem putGroup (h : Ordered groups) {e : (Scope × String) × Value}
    (hlast : ∀ x ∈ flat groups, x.1 < line e) : Ordered (putGroup groups e) where
  inhabited g hg := by
    have hget := Table.get?_eq_some_iff.mpr hg
    unfold Memory.putGroup at hget
    rw [Table.get?_put] at hget
    split at hget
    · rw [← Option.some.inj hget]
      exact List.ne_nil_of_mem (Table.get?_eq_some_iff.mp (Table.get?_put_self ..))
    · exact h.inhabited g (Table.get?_eq_some_iff.mp hget)
  strict := by
    rw [h.flat_putGroup hlast]
    refine List.pairwise_append.mpr ⟨h.strict, List.pairwise_singleton .., ?_⟩
    intro x hx y hy
    rw [List.mem_singleton.mp hy]
    exact hlast x hx

theorem foldl {es : List ((Scope × String) × Value)} (h : Ordered groups)
    (hes : (es.map line).Pairwise (· < ·)) (hlast : ∀ x ∈ flat groups, ∀ e ∈ es, x.1 < line e) :
    Ordered (es.foldl Memory.putGroup groups) ∧
      flat (es.foldl Memory.putGroup groups) = flat groups ++ es.map fun e => (line e, e.2) := by
  induction es generalizing groups with
  | nil => exact ⟨h, (List.append_nil _).symm⟩
  | cons e es ih =>
    obtain ⟨hfirst, hrest⟩ := List.pairwise_cons.mp hes
    have hput : ∀ x ∈ flat groups, x.1 < line e := fun x hx => hlast x hx e List.mem_cons_self
    have hflat := h.flat_putGroup hput
    obtain ⟨hordered, heq⟩ := ih (h.putGroup hput) hrest (by
      intro x hx e' he'
      rw [hflat] at hx
      rcases List.mem_append.mp hx with hx | hx
      · exact hlast x hx e' (List.mem_cons_of_mem _ he')
      · rw [List.mem_singleton.mp hx]
        exact hfirst _ (List.mem_map_of_mem he'))
    refine ⟨hordered, heq.trans ?_⟩
    rw [hflat, List.append_assoc]
    rfl

end Ordered

/-! ## the listing -/

/-- what a listing has under the name of a scope and a key -/
def listed? (m : Memory) (name key : String) : Option Value :=
  (m.listing.lookup name).bind fun fields => fields.lookup key

section
variable {m : Memory}

/-- different places are listed in different places, if no kind of scope has a colon in it -/
theorem nodup_lines (h : ∀ scope key, (m.get? scope key).isSome → ':' ∉ scope.kind.toList) :
    (m.entries.rows.map line).Nodup := by
  have hkind : ∀ p ∈ m.entries.keys, ':' ∉ p.1.kind.toList := fun p hp =>
    h p.1 p.2 (Table.isSome_get?_iff.mpr hp)
  have hlines : m.entries.rows.map line = m.entries.keys.map fun p => toLex (p.1.name, p.2) := by
    unfold Table.keys
    rw [List.map_map]
    rfl
  rw [hlines]
  refine List.Nodup.map_on ?_ m.entries.nodup
  intro p hp q hq heq
  obtain ⟨hname, hkey⟩ := Prod.mk.inj (toLex.injective heq)
  exact Prod.ext (Scope.name_injective (hkind p hp) (hkind q hq) hname) hkey

/-- **The groups of a listing are the sorted entries, one after the other.** -/
theorem flat_listing (h : (m.entries.rows.map line).Nodup) :
    Ordered (m.sorted.foldl putGroup {}) ∧
      flat (m.sorted.foldl putGroup {}) = m.sorted.map fun e => (line e, e.2) :=
  Ordered.empty.foldl (strict_sorted h) nofun

/-- **What is listed stands in the store**, under a scope of the name. -/
theorem listed?_iff (h : (m.entries.rows.map line).Nodup) {name key : String} {v : Value} :
    m.listed? name key = some v ↔ ∃ scope, scope.name = name ∧ m.get? scope key = some v := by
  have hlisted : m.listed? name key =
      ((m.sorted.foldl putGroup {}).get? name).bind fun fields => fields.get? key := by
    unfold listed? listing
    rw [Table.lookup_map_rows Table.rows]
    cases (m.sorted.foldl putGroup {}).get? name with
    | none => rfl
    | some fields => exact fields.lookup_rows key
  rw [hlisted, ← mem_flat, (flat_listing h).2, List.mem_map]
  constructor
  · rintro ⟨e, he, heq⟩
    cases heq
    exact ⟨e.1.1, rfl, Table.get?_eq_some_iff.mpr (List.mem_mergeSort.mp he)⟩
  · rintro ⟨scope, rfl, hv⟩
    exact ⟨((scope, key), v), List.mem_mergeSort.mpr (Table.get?_eq_some_iff.mp hv), rfl⟩

theorem sum_listing (h : (m.entries.rows.map line).Nodup) :
    (m.listing.map fun g => g.2.length).sum = m.size := by
  have hlength := congrArg List.length (flat_listing h).2
  unfold flat at hlength
  rw [List.length_flatMap, List.length_map] at hlength
  unfold listing
  rw [List.map_map]
  refine Eq.trans ?_ (hlength.trans (List.length_mergeSort _))
  simp only [List.length_map, Function.comp_def]

end

/-- **A listing loses nothing**, whatever calls have made of the store, as long as no kind of scope
has a colon in it.  It has each entry under the name of its scope and its key, and nothing else; the
sizes of its groups sum up to that of the store; and the names of the groups, none of which is
empty, and the keys in each of them ascend. -/
theorem listing_lossless [Rounding] (calls : List Call)
    (h : ∀ scope key, ((run calls).get? scope key).isSome → ':' ∉ scope.kind.toList) :
    let m := run calls
    (∀ scope key v, m.get? scope key = some v → m.listed? scope.name key = some v) ∧
    (∀ name key v, m.listed? name key = some v →
      ∃ scope, scope.name = name ∧ m.get? scope key = some v) ∧
    (m.listing.map fun g => g.2.length).sum = m.size ∧
    (m.listing.map (·.1)).Pairwise (· < ·) ∧
    ∀ g ∈ m.listing, g.2 ≠ [] ∧ (g.2.map (·.1)).Pairwise (· < ·) := by
  intro m
  have hlines := nodup_lines h
  have hordered := (flat_listing hlines).1
  refine ⟨?_, ?_, ?_, ?_, ?_⟩
  · exact fun scope key v hv => (listed?_iff hlines).mpr ⟨scope, rfl, hv⟩
  · exact fun name key v hv => (listed?_iff hlines).mp hv
  · exact sum_listing hlines
  · exact List.pairwise_map.mpr (List.pairwise_map.mpr hordered.names)
  · intro g hg
    obtain ⟨group, hgroup, rfl⟩ := List.mem_map.mp hg
    exact ⟨hordered.inhabited group hgroup, hordered.keys hgroup⟩

section
attribute [local instance] Rounding.binary64

/-- one key in scopes with a negative number, a number that begins with another one, and none -/
theorem listing_lossless_numbers :
    let minus : Scope := { kind := "organ", ref := some (-1) }
    let bare : Scope := { kind := "organ" }
    let calls : List Call :=
      [.set (.organ 10) "load" (.whole 1), .set bare "load" (.whole 2), .delete (.organ 10) "load",
        .setThrough ⟨minus⟩ "load" (.whole 3), .set (.organ 1) "load" (.whole 4)]
    let m := run calls
    (∀ scope key, (m.get? scope key).isSome → ':' ∉ scope.kind.toList) ∧
      m.listed? "organ" "load" = some (.whole 2) ∧ m.listed? "organ:-1" "load" = some (.whole 3) ∧
      (m.listing.map fun g => g.2.length).sum = 3 ∧ (m.listing.map (·.1)).Pairwise (· < ·) := by
  intro minus bare calls m
  have hkeys : m.entries.keys = [(bare, "load"), (minus, "load"), (.organ 1, "load")] := rfl
  have hkinds : ∀ scope key, (m.get? scope key).isSome → ':' ∉ scope.kind.toList := by
    intro scope key hget
    have hmem := Table.isSome_get?_iff.mp hget
    rw [hkeys] at hmem
    simp only [List.mem_cons, List.not_mem_nil, or_false, Prod.mk.injEq] at hmem
    rcases hmem with ⟨rfl, -⟩ | ⟨rfl, -⟩ | ⟨rfl, -⟩ <;> decide
  obtain ⟨hlisted, -, hsum, hnames, -⟩ := listing_lossless calls hkinds
  exact ⟨hkinds, hlisted bare "load" _ rfl, hlisted minus "load" _ rfl, hsum, hnames⟩

end
end Memory
end Organism
