import Organism.Proofs.Anatomy.Topology
import Mathlib.Data.List.Perm.Basic

/-!
# Where organs live

An organ names its node, and a node lists the ids of organs.  Building a topology reconciles the
two: each organ is put on the list of its node, after what the list held before.

* `Node.hosting`           a node after some organs have been put on its list;
* `build_nodeList`         **the nodes of a topology that was built**;
* `flatMap_filter_perm`    a list cut up by a key;
* `Topology.Placed`        lists and organs agree, and ids tell the organs apart;
* `organs_placed`          **what building sees to, and what it takes on trust**: the ids that a
                           list held before, and that no two organs have one id;
* `not_all_placed`         a node that lists an organ that is not there.
-/

namespace Organism

/-! ## a node and its organs -/

namespace Node

def hosting (n : Node) (os : List Organ) : Node :=
  os.foldl (fun n o => if n.id = o.nodeId then n.host o.id else n) n

theorem mem_host {n : Node} {i j : Int} : i ∈ (n.host j).organIds ↔ i ∈ n.organIds ∨ i = j := by
  unfold host
  split
  · next h =>
    constructor
    · exact .inl
    · rintro (hi | rfl)
      · exact hi
      · exact h
  · simp

theorem id_host (n : Node) (i : Int) : (n.host i).id = n.id := by
  unfold host
  split <;> rfl

theorem hosting_cons (n : Node) (o : Organ) (os : List Organ) :
    n.hosting (o :: os) = (if n.id = o.nodeId then n.host o.id else n).hosting os := rfl

theorem id_hosting (n : Node) (os : List Organ) : (n.hosting os).id = n.id := by
  induction os generalizing n with
  | nil => rfl
  | cons o os ih =>
    rw [hosting_cons, ih]
    split
    · exact id_host n o.id
    · rfl

theorem mem_hosting {n : Node} {os : List Organ} {i : Int} :
    i ∈ (n.hosting os).organIds ↔
      i ∈ n.organIds ∨ ∃ o ∈ os, o.nodeId = n.id ∧ o.id = i := by
  induction os generalizing n with
  | nil => simp [hosting]
  | cons o os ih =>
    rw [hosting_cons, ih]
    by_cases h : n.id = o.nodeId
    · rw [if_pos h, mem_host, id_host, or_assoc]
      refine or_congr_right ?_
      simp [h, eq_comm]
    · have h' : ¬ o.nodeId = n.id := fun e => h e.symm
      rw [if_neg h]
      simp [h']

theorem isActive_iff {n : Node} : n.isActive = true ↔ ∃ i, i ∈ n.organIds := by
  rw [← List.length_pos_iff_exists_mem]
  simp [isActive, List.length_pos_iff]

end Node

/-! ## a list cut up by a key -/

theorem flatMap_filter_perm {α κ : Type} [DecidableEq κ] (key : α → κ) {ks : List κ}
    (hks : ks.Nodup) {l : List α} (h : ∀ a ∈ l, key a ∈ ks) :
    (ks.flatMap fun k => l.filter fun a => key a = k).Perm l := by
  induction ks generalizing l with
  | nil =>
    have hl : l = [] := List.eq_nil_iff_forall_not_mem.mpr fun a ha => by simpa using h a ha
    subst hl
    simp
  | cons k ks ih =>
    obtain ⟨hk, hks⟩ := List.nodup_cons.mp hks
    have hrest : ∀ a ∈ l.filter (fun a => !decide (key a = k)), key a ∈ ks := by
      intro a ha
      obtain ⟨ha, hne⟩ := List.mem_filter.mp ha
      have hne : key a ≠ k := by simpa using hne
      exact (List.mem_cons.mp (h a ha)).resolve_left hne
    have hpieces : (ks.flatMap fun j => l.filter fun a => key a = j) =
        ks.flatMap fun j => (l.filter fun a => !decide (key a = k)).filter fun a => key a = j := by
      refine List.flatMap_congr fun j hj => ?_
      have hjk : j ≠ k := fun e => hk (e ▸ hj)
      rw [List.filter_filter]
      refine List.filter_congr fun a _ => ?_
      by_cases ha : key a = j
      · simp [ha, hjk]
      · simp [ha]
    rw [List.flatMap_cons, hpieces]
    exact ((ih hks hrest).append_left _).trans (List.filter_append_perm _ l)

namespace Topology

variable {t t' : Topology} {nodes : List Node} {organs : List Organ}

/-! ## building -/

theorem foldlM_addNode_nodeList (ht : (t.nodeList.map (·.id)).Nodup)
    (e : nodes.foldlM addNode t = .ok t') :
    t'.nodeList = t.nodeList ++ nodes ∧ (t'.nodeList.map (·.id)).Nodup := by
  induction nodes generalizing t with
  | nil =>
    cases e
    exact ⟨(List.append_nil _).symm, ht⟩
  | cons n nodes ih =>
    rw [List.foldlM_cons] at e
    obtain ⟨t₁, h₁, e⟩ := ok_of_bind e
    unfold addNode at h₁
    split at h₁
    · cases h₁
    · next hn =>
      cases h₁
      have hnew : ∀ m ∈ t.nodeList, m.id ≠ n.id := by simpa using hn
      have ht₁ : ((t.nodeList ++ [n]).map (·.id)).Nodup := by
        rw [List.map_append, List.nodup_append]
        refine ⟨ht, List.nodup_singleton _, ?_⟩
        intro i hi j hj
        obtain ⟨m, hm, rfl⟩ := List.mem_map.mp hi
        obtain rfl : j = n.id := by simpa using hj
        exact hnew m hm
      obtain ⟨hl, hnodup⟩ := ih ht₁ e
      exact ⟨by rw [hl, List.append_assoc, List.singleton_append], hnodup⟩

theorem foldlM_addOrgan_nodeList (e : organs.foldlM addOrgan t = .ok t') :
    t'.nodeList = t.nodeList.map (·.hosting organs) ∧
      ∀ o ∈ organs, ∃ n ∈ t.nodeList, n.id = o.nodeId := by
  induction organs generalizing t with
  | nil =>
    cases e
    exact ⟨(List.map_id _).symm, List.forall_mem_nil _⟩
  | cons o organs ih =>
    rw [List.foldlM_cons] at e
    obtain ⟨t₁, h₁, e⟩ := ok_of_bind e
    unfold addOrgan at h₁
    split at h₁
    · cases h₁
    split at h₁
    · next hnode =>
      cases h₁
      obtain ⟨hl, hnodes⟩ := ih e
      refine ⟨?_, List.forall_mem_cons.mpr ⟨by simpa using hnode, ?_⟩⟩
      · rw [hl, List.map_map]
        rfl
      · intro p hp
        obtain ⟨n, hn, hid⟩ := hnodes p hp
        obtain ⟨m, hm, rfl⟩ := List.mem_map.mp hn
        refine ⟨m, hm, ?_⟩
        rw [← hid]
        split
        · exact (Node.id_host m o.id).symm
        · rfl
    · cases h₁

/-- **The nodes of a topology that was built**, each with its organs on its list. -/
theorem build_nodeList (e : build nodes organs = .ok t) :
    t.nodeList = nodes.map (·.hosting organs) ∧ (nodes.map (·.id)).Nodup ∧
      ∀ o ∈ organs, ∃ n ∈ nodes, n.id = o.nodeId := by
  obtain ⟨t₁, h₁, e⟩ := ok_of_bind e
  obtain ⟨hl, hnodup⟩ := foldlM_addNode_nodeList (t := ⟨[], []⟩) List.nodup_nil h₁
  obtain ⟨hl', hnodes⟩ := foldlM_addOrgan_nodeList e
  rw [hl, List.nil_append] at hl' hnodup hnodes
  exact ⟨hl', hnodup, hnodes⟩

theorem mem_nodes {n : Node} : n ∈ t.nodes ↔ n ∈ t.nodeList := List.mem_mergeSort

theorem mem_organsOn {o : Organ} {i : Int} : o ∈ t.organsOn i ↔ o ∈ t.organs ∧ o.nodeId = i := by
  unfold organsOn
  simp

theorem organsOn_ne_nil {i : Int} : t.organsOn i ≠ [] ↔ ∃ o, o ∈ t.organsOn i :=
  List.length_pos_iff.symm.trans List.length_pos_iff_exists_mem

theorem mem_organs_of_build (e : build nodes organs = .ok t) {o : Organ} :
    o ∈ t.organs ↔ o ∈ organs := by
  rw [mem_organs, ← build_organList e]
  constructor
  · rintro ⟨k, hk⟩
    exact mem_of_organ? hk
  · intro ho
    exact ⟨o.kind, (build_distinct e).organ?_eq ho⟩

theorem organs_kinds_nodup (t : Topology) : (t.organs.map (·.kind)).Nodup := by
  have h := t.healths_keys_nodup
  unfold healths at h
  rwa [List.map_map] at h

theorem organs_perm (e : build nodes organs = .ok t) : t.organs.Perm organs := by
  have hd := build_distinct e
  unfold Distinct at hd
  rw [build_organList e] at hd
  exact (List.perm_ext_iff_of_nodup (List.Nodup.of_map _ t.organs_kinds_nodup)
    (List.Nodup.of_map _ hd)).mpr fun o => mem_organs_of_build e

/-! ## places -/

/-- nodes and organs agree on where each organ lives, and ids tell the organs apart -/
structure Placed (t : Topology) : Prop where
  hosted : ∀ o ∈ t.organs, ∃ n ∈ t.nodes, n.id = o.nodeId ∧ o.id ∈ n.organIds
  listed : ∀ n ∈ t.nodes, ∀ i ∈ n.organIds, ∃ o ∈ t.organsOn n.id, o.id = i
  distinct : (t.organs.map (·.id)).Nodup
  active : ∀ n ∈ t.nodes, n.isActive = true ↔ t.organsOn n.id ≠ []
  /-- no organ is on two nodes, and none on no node -/
  parts : (t.nodes.flatMap fun n => t.organsOn n.id).Perm t.organs ∧ t.organs.Nodup

theorem hosted_of_build (e : build nodes organs = .ok t) {o : Organ} (ho : o ∈ t.organs) :
    ∃ n ∈ t.nodes, n.id = o.nodeId ∧ o.id ∈ n.organIds := by
  obtain ⟨hl, -, hnodes⟩ := build_nodeList e
  have ho' : o ∈ organs := (mem_organs_of_build e).mp ho
  obtain ⟨n, hn, hid⟩ := hnodes o ho'
  have hmem : n.hosting organs ∈ t.nodes := by
    rw [mem_nodes, hl]
    exact List.mem_map_of_mem hn
  refine ⟨n.hosting organs, hmem, ?_, ?_⟩
  · rw [Node.id_hosting, hid]
  · exact Node.mem_hosting.mpr (.inr ⟨o, ho', hid.symm, rfl⟩)

theorem listed_of_build (e : build nodes organs = .ok t) {n : Node} (hn : n ∈ t.nodes) :
    ∃ m ∈ nodes, m.id = n.id ∧
      ∀ i, i ∈ n.organIds ↔ i ∈ m.organIds ∨ ∃ o ∈ t.organsOn n.id, o.id = i := by
  obtain ⟨hl, -, -⟩ := build_nodeList e
  rw [mem_nodes, hl] at hn
  obtain ⟨m, hm, rfl⟩ := List.mem_map.mp hn
  refine ⟨m, hm, (Node.id_hosting m organs).symm, fun i => ?_⟩
  simp only [Node.mem_hosting, Node.id_hosting, mem_organsOn, mem_organs_of_build e, and_assoc]

theorem parts_of_build (e : build nodes organs = .ok t) :
    (t.nodes.flatMap fun n => t.organsOn n.id).Perm t.organs := by
  obtain ⟨hl, hnodup, -⟩ := build_nodeList e
  have hids : (t.nodeList.map (·.id)).Nodup := by
    rw [hl, List.map_map]
    have hid : (fun n : Node => n.id) ∘ (fun n : Node => n.hosting organs) = fun n => n.id :=
      funext fun n => n.id_hosting organs
    rwa [hid]
  have hsorted : (t.nodes.map (·.id)).Nodup :=
    ((List.mergeSort_perm _ _).map _).nodup_iff.mpr hids
  have hall : ∀ o ∈ t.organs, o.nodeId ∈ t.nodes.map (·.id) := by
    intro o ho
    obtain ⟨n, hn, hid, -⟩ := hosted_of_build e ho
    exact List.mem_map.mpr ⟨n, hn, hid⟩
  have hperm := flatMap_filter_perm (fun o : Organ => o.nodeId) hsorted hall
  rwa [List.flatMap_map] at hperm

theorem isActive_of_listed {n m : Node}
    (hlist : ∀ i, i ∈ n.organIds ↔ i ∈ m.organIds ∨ ∃ o ∈ t.organsOn n.id, o.id = i) :
    n.isActive = true ↔ m.isActive = true ∨ t.organsOn n.id ≠ [] := by
  simp only [Node.isActive_iff, organsOn_ne_nil, hlist, exists_or]
  refine or_congr_right ⟨?_, ?_⟩
  · rintro ⟨i, o, ho, -⟩
    exact ⟨o, ho⟩
  · rintro ⟨o, ho⟩
    exact ⟨o.id, o, ho, rfl⟩

theorem Placed.given (h : t.Placed) (e : build nodes organs = .ok t) :
    ∀ n ∈ nodes, ∀ i ∈ n.organIds, ∃ o ∈ organs, o.nodeId = n.id ∧ o.id = i := by
  intro n hn i hi
  obtain ⟨hl, -, -⟩ := build_nodeList e
  have hn' : n.hosting organs ∈ t.nodes := by
    rw [mem_nodes, hl]
    exact List.mem_map_of_mem hn
  obtain ⟨o, ho, rfl⟩ := h.listed _ hn' i (Node.mem_hosting.mpr (.inl hi))
  obtain ⟨ho, hid⟩ := mem_organsOn.mp ho
  exact ⟨o, (mem_organs_of_build e).mp ho, hid.trans (Node.id_hosting n organs), rfl⟩

theorem placed_of_given (e : build nodes organs = .ok t)
    (hgiven : ∀ n ∈ nodes, ∀ i ∈ n.organIds, ∃ o ∈ organs, o.nodeId = n.id ∧ o.id = i)
    (hids : (t.organs.map (·.id)).Nodup) : t.Placed where
  hosted := fun _ ho => hosted_of_build e ho
  listed := by
    intro n hn i hi
    obtain ⟨m, hm, hid, hlist⟩ := listed_of_build e hn
    rcases (hlist i).mp hi with hi | hi
    · obtain ⟨o, ho, ho', rfl⟩ := hgiven m hm i hi
      exact ⟨o, mem_organsOn.mpr ⟨(mem_organs_of_build e).mpr ho, ho'.trans hid⟩, rfl⟩
    · exact hi
  distinct := hids
  active := by
    intro n hn
    obtain ⟨m, hm, hid, hlist⟩ := listed_of_build e hn
    rw [isActive_of_listed hlist, or_iff_right_of_imp]
    rw [Node.isActive_iff, organsOn_ne_nil]
    rintro ⟨i, hi⟩
    obtain ⟨o, ho, ho', -⟩ := hgiven m hm i hi
    exact ⟨o, mem_organsOn.mpr ⟨(mem_organs_of_build e).mpr ho, ho'.trans hid⟩⟩
  parts := ⟨parts_of_build e, .of_map _ t.organs_kinds_nodup⟩

/-- **Every organ lives on a node that lists it, and each on one node.**  What a node lists besides
was on its list before; so nodes and organs agree exactly if the lists held nothing before but
organs that live there, and if no two organs were given one id. -/
theorem organs_placed (e : build nodes organs = .ok t) :
    (∀ o ∈ t.organs, ∃ n ∈ t.nodes, n.id = o.nodeId ∧ o.id ∈ n.organIds) ∧
    ((t.nodes.flatMap fun n => t.organsOn n.id).Perm t.organs ∧ t.organs.Nodup) ∧
    (∀ n ∈ t.nodes, ∃ m ∈ nodes, m.id = n.id ∧
      (∀ i, i ∈ n.organIds ↔ i ∈ m.organIds ∨ ∃ o ∈ t.organsOn n.id, o.id = i) ∧
      (n.isActive = true ↔ m.isActive = true ∨ t.organsOn n.id ≠ [])) ∧
    (t.Placed ↔
      (∀ n ∈ nodes, ∀ i ∈ n.organIds, ∃ o ∈ organs, o.nodeId = n.id ∧ o.id = i) ∧
        (organs.map (·.id)).Nodup) := by
  have hids : (t.organs.map (·.id)).Nodup ↔ (organs.map (·.id)).Nodup :=
    ((organs_perm e).map _).nodup_iff
  refine ⟨fun o ho => hosted_of_build e ho, ⟨parts_of_build e, .of_map _ t.organs_kinds_nodup⟩,
    fun n hn => ?_, fun h => ⟨h.given e, hids.mp h.distinct⟩, ?_⟩
  · obtain ⟨m, hm, hid, hlist⟩ := listed_of_build e hn
    exact ⟨m, hm, hid, hlist, isActive_of_listed hlist⟩
  · rintro ⟨hgiven, hnodup⟩
    exact placed_of_given e hgiven (hids.mpr hnodup)

attribute [local instance] Rounding.binary64

/-- a node that lists its organ from the start, and one that does not -/
theorem organs_placed_given :
    let nodes : List Node := [⟨2, "io-0", "bridge", [3]⟩, ⟨1, "core-0", "brain", []⟩]
    let organs := [Organ.create 3 .ioBridge 2 [] 1, .create 1 .cortex 1 [] 1,
      .create 2 .memory 1 [] 1]
    ∃ t, build nodes organs = .ok t ∧ t.Placed := by
  intro nodes organs
  have e : build nodes organs = .ok ⟨nodes.map (·.hosting organs), organs⟩ := rfl
  obtain ⟨-, -, -, hplaced⟩ := organs_placed e
  have given : ∀ n ∈ nodes, ∀ i ∈ n.organIds, ∃ o ∈ organs, o.nodeId = n.id ∧ o.id = i := by
    decide
  exact ⟨_, e, hplaced.mpr ⟨given, by decide⟩⟩

/-- a node is active for an organ that is nowhere -/
theorem not_all_placed :
    ¬ ∀ nodes organs t, build nodes organs = .ok t → t.Placed := by
  intro hall
  let n : Node := ⟨1, "core-0", "brain", [7]⟩
  have hplaced : Placed ⟨[n], []⟩ := hall [n] [] _ rfl
  have hn : n ∈ (⟨[n], []⟩ : Topology).nodes := mem_nodes.mpr (.head _)
  have hactive : n.isActive = true ↔ _ := hplaced.active n hn
  exact hactive.mp rfl rfl

end Topology
end Organism
