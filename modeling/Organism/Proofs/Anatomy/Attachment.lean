import Organism.Proofs.Anatomy.Writes
import Mathlib.Logic.Function.Basic

/-!
# Who owns a device

Organs list devices by what they are; who attaches one hands over an object, which the mark of its
owner changes.  Here the objects are kept beside the topology, to say which of them an organ lists.

* `Organ.attach_of_admits`     attaching marks the device and lists it;
* `Inventory`                  a topology, the devices as objects, and the objects on each list;
* `Inventory.Accurate`         lists show the objects, marked with the organ that lists them;
* `Accurate.run`               **lists stay accurate, whatever is attached to what**;
* `attachments_owned`          **no device is on the lists of two organs, if and only if no two
                               organs have one id**;
* `not_all_owned`              a device on the lists of two organs.
-/

namespace Organism

/-! ## one organ -/

namespace Organ

variable {o : Organ} {d : Device}

def mark (o : Organ) (d : Device) : Device := { d with organId := some o.id }

/-- the device is not marked by another organ -/
def Admits (o : Organ) (d : Device) : Prop := ∀ i, d.organId = some i → i = o.id

theorem mark_eq (h : d.organId = some o.id) : o.mark d = d := by
  unfold mark
  rw [← h]

theorem list_eq (o : Organ) (d : Device) : o.list d = { o with devices := (o.list d).devices } := by
  unfold list
  split <;> rfl

theorem kind_list (o : Organ) (d : Device) : (o.list d).kind = o.kind := by
  rw [list_eq]

theorem nodup_list (h : o.devices.Nodup) : (o.list d).devices.Nodup := by
  unfold list
  split
  · exact h
  · next hd => exact h.append (List.nodup_singleton d) (by simpa using hd)

theorem attach_of_admits (h : o.Admits d) : o.attach d = .ok (o.list (o.mark d), o.mark d) := by
  unfold attach
  split
  · next i hi =>
    obtain rfl : i = o.id := h i hi
    rw [if_pos rfl, mark_eq hi]
  · rfl

theorem attach_of_marked {i : Int} (h : d.organId = some i) (hi : i ≠ o.id) :
    o.attach d = .error (.attachedElsewhere d.id i) := by
  unfold attach
  rw [h]
  exact if_neg hi

end Organ

/-! ## building again -/

namespace Topology

variable {t t' : Topology} {nodes : List Node} {organs : List Organ}

/-- what an organ has besides kind, id and node plays no part when it is added -/
theorem foldlM_addOrgan_map {f : Organ → Organ}
    (hf : ∀ o, (f o).kind = o.kind ∧ (f o).id = o.id ∧ (f o).nodeId = o.nodeId)
    (e : organs.foldlM addOrgan t = .ok t') :
    (organs.map f).foldlM addOrgan (t.mapOrgans f) = .ok (t'.mapOrgans f) := by
  induction organs generalizing t with
  | nil =>
    cases e
    rfl
  | cons o organs ih =>
    rw [List.foldlM_cons] at e
    obtain ⟨t₁, h₁, e⟩ := ok_of_bind e
    obtain ⟨hkind, hid, hnode⟩ := hf o
    have hstep : (t.mapOrgans f).addOrgan (f o) = .ok (t₁.mapOrgans f) := by
      unfold addOrgan at h₁ ⊢
      have hany : (t.mapOrgans f).organList.any (·.kind = (f o).kind) =
          t.organList.any (·.kind = o.kind) := by
        simp [mapOrgans, List.any_map, Function.comp_def, hf]
      rw [hany]
      split at h₁
      · cases h₁
      · next hnew =>
        rw [if_neg hnew]
        split at h₁
        · next hthere =>
          cases h₁
          simp [mapOrgans, hnode, hid, hthere]
        · cases h₁
    rw [List.map_cons, List.foldlM_cons, hstep]
    exact ih e

/-- so it does not matter whether it changes before or after a topology is built -/
theorem build_mapOrgans {f : Organ → Organ}
    (hf : ∀ o, (f o).kind = o.kind ∧ (f o).id = o.id ∧ (f o).nodeId = o.nodeId)
    (e : build nodes organs = .ok t) : build nodes (organs.map f) = .ok (t.mapOrgans f) := by
  obtain ⟨t₁, h₁, e⟩ := ok_of_bind e
  have hnone : t₁.mapOrgans f = t₁ := by
    have hl : t₁.organList = [] := foldlM_addNode_organList h₁
    unfold mapOrgans
    rw [hl, List.map_nil, ← hl]
  have hfold := foldlM_addOrgan_map hf e
  rw [hnone] at hfold
  unfold build
  rw [h₁]
  exact hfold

end Topology

/-! ## devices as objects -/

/-- a topology, what each object is, and the objects that were put on the list of each organ -/
structure Inventory where
  topology : Topology
  device : Nat → Device
  listed : OrganKind → List Nat

namespace Inventory

def fresh (t : Topology) (device : Nat → Device) : Inventory := ⟨t, device, fun _ => []⟩

def attach (s : Inventory) (k : OrganKind) (h : Nat) : Except Fault Inventory := do
  let o ← s.topology.organ k
  let (o', d) ← o.attach (s.device h)
  return {
    topology := s.topology.replace o'
    device := Function.update s.device h d
    listed :=
      if d ∈ o.devices then s.listed
      else Function.update s.listed o.kind (s.listed o.kind ++ [h]) }

def after (s : Inventory) (call : OrganKind × Nat) : Inventory :=
  match s.attach call.1 call.2 with
  | .ok s' => s'
  | .error _ => s

def run (s : Inventory) (calls : List (OrganKind × Nat)) : Inventory := calls.foldl after s

def showing (s : Inventory) (o : Organ) : Organ :=
  { o with devices := (s.listed o.kind).map s.device }

theorem showing_frame (s : Inventory) (o : Organ) :
    (s.showing o).kind = o.kind ∧ (s.showing o).id = o.id ∧ (s.showing o).nodeId = o.nodeId :=
  ⟨rfl, rfl, rfl⟩

variable {t : Topology} {s s' : Inventory} {k j : OrganKind} {h g : Nat} {o : Organ}

def attached (s : Inventory) (o : Organ) (h : Nat) : Inventory where
  topology := s.topology.replace (o.list (o.mark (s.device h)))
  device := Function.update s.device h (o.mark (s.device h))
  listed :=
    if o.mark (s.device h) ∈ o.devices then s.listed
    else Function.update s.listed o.kind (s.listed o.kind ++ [h])

theorem attach_of_admits (ho : s.topology.organ? k = some o) (hd : o.Admits (s.device h)) :
    s.attach k h = .ok (s.attached o h) := by
  unfold attach
  rw [Topology.organ_eq ho]
  show (do let (o', d) ← o.attach (s.device h); _) = _
  rw [Organ.attach_of_admits hd]
  rfl

theorem attach_of_marked (ho : s.topology.organ? k = some o) {i : Int}
    (hi : (s.device h).organId = some i) (hne : i ≠ o.id) :
    s.attach k h = .error (.attachedElsewhere (s.device h).id i) := by
  unfold attach
  rw [Topology.organ_eq ho]
  show (do let (o', d) ← o.attach (s.device h); _) = _
  rw [Organ.attach_of_marked hi hne]
  rfl

theorem attach_eq_ok (e : s.attach k h = .ok s') :
    ∃ o, s.topology.organ? k = some o ∧ o.Admits (s.device h) ∧ s' = s.attached o h := by
  obtain ⟨o, ho, -⟩ := ok_of_bind e
  have ho : s.topology.organ? k = some o := Topology.organ?_of_organ ho
  have hd : o.Admits (s.device h) := by
    intro i hi
    by_contra hne
    rw [attach_of_marked ho hi hne] at e
    cases e
  rw [attach_of_admits ho hd] at e
  exact ⟨o, ho, hd, (Except.ok.inj e).symm⟩

theorem attach_cases (ho : s.topology.organ? k = some o) (h : Nat) :
    (o.Admits (s.device h) ∧ s.attach k h = .ok (s.attached o h)) ∨
      ∃ i, (s.device h).organId = some i ∧ i ≠ o.id ∧
        s.attach k h = .error (.attachedElsewhere (s.device h).id i) ∧ s.after (k, h) = s := by
  by_cases hd : o.Admits (s.device h)
  · exact .inl ⟨hd, attach_of_admits ho hd⟩
  · simp only [Organ.Admits, not_forall] at hd
    obtain ⟨i, hi, hne⟩ := hd
    have hrefused := attach_of_marked ho hi hne
    refine .inr ⟨i, hi, hne, hrefused, ?_⟩
    unfold after
    rw [hrefused]

theorem attached_device_self : (s.attached o h).device h = o.mark (s.device h) :=
  Function.update_self ..

theorem attached_device_of_ne (hg : g ≠ h) : (s.attached o h).device g = s.device g :=
  Function.update_of_ne hg ..

theorem attached_listed_self (hd : o.mark (s.device h) ∉ o.devices) :
    (s.attached o h).listed o.kind = s.listed o.kind ++ [h] := by
  unfold attached
  rw [if_neg hd]
  exact Function.update_self ..

theorem attached_listed_of_ne (hj : j ≠ o.kind) : (s.attached o h).listed j = s.listed j := by
  unfold attached
  dsimp only
  split
  · rfl
  · exact Function.update_of_ne hj ..

theorem attached_listed_of_mem (hd : o.mark (s.device h) ∈ o.devices) :
    (s.attached o h).listed = s.listed := if_pos hd

theorem mem_listed (hg : g ∈ (s.attached o h).listed j) : g ∈ s.listed j ∨ j = o.kind ∧ g = h := by
  by_cases hj : j = o.kind
  · subst hj
    by_cases hd : o.mark (s.device h) ∈ o.devices
    · rw [attached_listed_of_mem hd] at hg
      exact .inl hg
    · rw [attached_listed_self hd] at hg
      simpa using hg
  · rw [attached_listed_of_ne hj] at hg
    exact .inl hg

/-- Lists show what the objects are now, and nothing twice; what is on a list has the mark of its
organ. -/
structure Accurate (t : Topology) (s : Inventory) : Prop where
  shown : s.topology = t.mapOrgans s.showing
  marked : ∀ k, ∀ h ∈ s.listed k, ∃ o, t.organ? k = some o ∧ (s.device h).organId = some o.id
  once : ∀ k, ((s.listed k).map s.device).Nodup

theorem accurate_fresh (device : Nat → Device) (bare : ∀ o ∈ t.organList, o.devices = []) :
    Accurate t (fresh t device) where
  shown := by
    have hsame : ∀ o ∈ t.organList, (fresh t device).showing o = o := by
      intro o ho
      show { o with devices := [] } = o
      rw [← bare o ho]
    unfold Topology.mapOrgans
    rw [List.map_congr_left hsame, List.map_id']
    rfl
  marked := fun _ _ hh => absurd hh List.not_mem_nil
  once := fun _ => List.nodup_nil

namespace Accurate

theorem organ?_eq (hs : Accurate t s) (k : OrganKind) :
    s.topology.organ? k = (t.organ? k).map s.showing := by
  rw [hs.shown]
  exact Topology.organ?_mapOrgans (fun o => (s.showing_frame o).1) t k

theorem of_organ? (hs : Accurate t s) (ho : s.topology.organ? k = some o) :
    ∃ p, t.organ? k = some p ∧ o = s.showing p ∧ o.devices = (s.listed k).map s.device := by
  rw [hs.organ?_eq] at ho
  obtain ⟨p, hp, rfl⟩ := Option.map_eq_some_iff.mp ho
  refine ⟨p, hp, rfl, ?_⟩
  show (s.listed p.kind).map s.device = _
  rw [Topology.kind_of_organ? hp]

theorem mark_listed (hs : Accurate t s) (ho : o.Admits (s.device h)) (hh : h ∈ s.listed j) :
    o.mark (s.device h) = s.device h := by
  obtain ⟨p, -, hmark⟩ := hs.marked j h hh
  exact Organ.mark_eq (ho p.id hmark ▸ hmark)

theorem map_listed (hs : Accurate t s) (ho : s.topology.organ? k = some o)
    (hd : o.Admits (s.device h)) (j : OrganKind) :
    ((s.attached o h).listed j).map (s.attached o h).device =
      if j = k then (o.list (o.mark (s.device h))).devices else (s.listed j).map s.device := by
  obtain ⟨-, -, -, hlist⟩ := hs.of_organ? ho
  have hk : o.kind = k := Topology.kind_of_organ? ho
  have hkept : (s.listed j).map (s.attached o h).device = (s.listed j).map s.device := by
    refine List.map_congr_left fun g hg => ?_
    by_cases hgh : g = h
    · subst hgh
      exact (Function.update_self ..).trans (hs.mark_listed hd hg)
    · exact Function.update_of_ne hgh ..
  by_cases hj : j = k
  · subst hj
    rw [if_pos rfl]
    by_cases hmem : o.mark (s.device h) ∈ o.devices
    · rw [attached_listed_of_mem hmem, hkept, Organ.list, if_pos hmem, hlist]
    · rw [← hk, attached_listed_self hmem, hk, List.map_append, hkept, List.map_singleton,
        attached_device_self, Organ.list, if_neg hmem, hlist]
  · rw [attached_listed_of_ne (hk ▸ hj), hkept, if_neg hj]

theorem shown_attached (ht : t.Distinct) (hs : Accurate t s) (ho : s.topology.organ? k = some o)
    (hd : o.Admits (s.device h)) :
    (s.attached o h).topology = t.mapOrgans (s.attached o h).showing := by
  obtain ⟨p, hp, hop, -⟩ := hs.of_organ? ho
  have hk : o.kind = k := Topology.kind_of_organ? ho
  show s.topology.replace (o.list (o.mark (s.device h))) = _
  rw [Topology.replace_eq_mapOrgans, Organ.kind_list, hk, hs.shown, Topology.mapOrgans_mapOrgans]
  refine Topology.mapOrgans_congr fun q hq => ?_
  show (if q.kind = k then _ else s.showing q) = (s.attached o h).showing q
  unfold showing
  rw [hs.map_listed ho hd]
  split
  · next hqk =>
    have hqp : q = p := by
      have hq' := ht.organ?_eq hq
      rw [hqk, hp] at hq'
      exact (Option.some.inj hq').symm
    rw [hqp, Organ.list_eq, hop]
    rfl
  · rfl

theorem marked_attached (hs : Accurate t s) (ho : s.topology.organ? k = some o)
    (hd : o.Admits (s.device h)) (hg : g ∈ (s.attached o h).listed j) :
    ∃ q, t.organ? j = some q ∧ ((s.attached o h).device g).organId = some q.id := by
  obtain ⟨p, hp, hop, -⟩ := hs.of_organ? ho
  have hk : o.kind = k := Topology.kind_of_organ? ho
  rcases mem_listed hg with hold | ⟨rfl, rfl⟩
  · obtain ⟨q, hq, hmark⟩ := hs.marked j g hold
    refine ⟨q, hq, ?_⟩
    by_cases hgh : g = h
    · subst hgh
      rw [attached_device_self, hs.mark_listed hd hold, hmark]
    · rw [attached_device_of_ne hgh, hmark]
  · refine ⟨p, hk ▸ hp, ?_⟩
    rw [attached_device_self, hop]
    rfl

/-- **Attaching keeps the lists accurate**: the mark that an object gets, it has already if it is on
a list, so the lists show it as before. -/
theorem attached (ht : t.Distinct) (hs : Accurate t s) (ho : s.topology.organ? k = some o)
    (hd : o.Admits (s.device h)) : Accurate t (s.attached o h) where
  shown := hs.shown_attached ht ho hd
  marked := fun _ _ hg => hs.marked_attached ho hd hg
  once := by
    intro j
    obtain ⟨-, -, -, hlist⟩ := hs.of_organ? ho
    rw [hs.map_listed ho hd]
    split
    · exact Organ.nodup_list (hlist ▸ hs.once k)
    · exact hs.once j

theorem after (ht : t.Distinct) (hs : Accurate t s) (call : OrganKind × Nat) :
    Accurate t (s.after call) := by
  unfold Inventory.after
  split
  · next e =>
    obtain ⟨o, ho, hd, rfl⟩ := attach_eq_ok e
    exact hs.attached ht ho hd
  · exact hs

/-- **Lists stay accurate, whatever is attached to what.** -/
theorem run (ht : t.Distinct) (hs : Accurate t s) (calls : List (OrganKind × Nat)) :
    Accurate t (s.run calls) := by
  induction calls generalizing s with
  | nil => exact hs
  | cons call calls ih => exact ih (hs.after ht call)

theorem owned (hs : Accurate t s) (ho : s.topology.organ? k = some o) :
    o.devices = (s.listed k).map s.device ∧ o.devices.Nodup ∧
      ∀ h ∈ s.listed k, (s.device h).organId = some o.id := by
  obtain ⟨p, hp, hop, hlist⟩ := hs.of_organ? ho
  refine ⟨hlist, hlist ▸ hs.once k, fun h hh => ?_⟩
  obtain ⟨q, hq, hmark⟩ := hs.marked k h hh
  rw [hp] at hq
  rw [hmark, hop, Option.some.inj hq]
  rfl

theorem ids_eq (hs : Accurate t s) (hk : h ∈ s.listed k) (hj : h ∈ s.listed j) :
    ∃ o p, t.organ? k = some o ∧ t.organ? j = some p ∧ o.id = p.id := by
  obtain ⟨o, ho, hmark⟩ := hs.marked k h hk
  obtain ⟨p, hp, hmark'⟩ := hs.marked j h hj
  exact ⟨o, p, ho, hp, Option.some.inj (hmark.symm.trans hmark')⟩

end Accurate

/-! ## any number of organs -/

/-- no object is on the lists of two organs -/
def Single (s : Inventory) : Prop := ∀ k j h, h ∈ s.listed k → h ∈ s.listed j → k = j

theorem Accurate.single (ht : (t.organList.map (·.id)).Nodup) (hs : Accurate t s) : s.Single := by
  intro k j h hk hj
  obtain ⟨o, p, ho, hp, hid⟩ := hs.ids_eq hk hj
  have hop : o = p :=
    List.inj_on_of_nodup_map ht (Topology.mem_of_organ? ho) (Topology.mem_of_organ? hp) hid
  rw [← Topology.kind_of_organ? ho, ← Topology.kind_of_organ? hp, hop]

theorem not_single {p : Organ} (bare : ∀ o ∈ t.organList, o.devices = [])
    (ho : t.organ? k = some o) (hp : t.organ? j = some p) (hkj : k ≠ j) (hid : o.id = p.id)
    {device : Nat → Device} (hnew : (device h).organId = none) :
    ¬ ((fresh t device).run [(k, h), (j, h)]).Single := by
  have hk : o.kind = k := Topology.kind_of_organ? ho
  have hj : p.kind = j := Topology.kind_of_organ? hp
  let s := (fresh t device).attached o h
  have hfirst : (fresh t device).after (k, h) = s := by
    unfold after
    rw [attach_of_admits ho fun i hi => by cases hnew.symm.trans hi]
  have hp' : s.topology.organ? j = some p := by
    show (t.replace (o.list _)).organ? j = some p
    rw [Topology.organ?_replace, Organ.kind_list, hk, if_neg (Ne.symm hkj), hp]
  have hsecond : s.after (j, h) = s.attached p h := by
    have hd : p.Admits (s.device h) := by
      intro i hi
      have hmark : (s.device h).organId = some o.id := congrArg _ attached_device_self
      exact (Option.some.inj (hi.symm.trans hmark)).trans hid
    unfold after
    rw [attach_of_admits hp' hd]
  have hrun : (fresh t device).run [(k, h), (j, h)] = s.attached p h := by
    show ((fresh t device).after (k, h)).after (j, h) = _
    rw [hfirst, hsecond]
  have empty : ∀ q ∈ t.organList, ∀ d, d ∉ q.devices := by
    intro q hq d
    simp [bare q hq]
  rw [hrun]
  intro hsingle
  refine hkj (hsingle k j h ?_ ?_)
  · rw [attached_listed_of_ne (by rwa [hj]), ← hk,
      attached_listed_self (empty o (Topology.mem_of_organ? ho) _)]
    simp
  · rw [← hj, attached_listed_self (empty p (Topology.mem_of_organ? hp) _)]
    simp

/-- so if no two organs ever take the same device, ids tell the organs apart -/
theorem nodup_ids (ht : t.Distinct) (bare : ∀ o ∈ t.organList, o.devices = [])
    (hsingle : ∀ device calls, ((fresh t device).run calls).Single) :
    (t.organList.map (·.id)).Nodup := by
  refine List.Nodup.map_on (fun o ho p hp hid => ?_) (List.Nodup.of_map _ ht)
  by_contra hne
  have ho' := ht.organ?_eq ho
  have hp' := ht.organ?_eq hp
  have hkind : o.kind ≠ p.kind := by
    intro h
    rw [h, hp'] at ho'
    exact hne (Option.some.inj ho').symm
  let device : Nat → Device := fun _ => ⟨"", .unknown, .online, none⟩
  have hnew : (device 0).organId = none := rfl
  exact not_single bare ho' hp' hkind hid hnew (hsingle _ _)

variable {nodes : List Node} {organs : List Organ}

/-- **Whatever is attached to what, organs list what the objects are, marked with their id, and
nothing twice; a call is refused, and changes nothing, exactly if the device has another mark.**  So
no device is on the lists of two organs, if and only if no two organs have one id. -/
theorem attachments_owned (e : Topology.build nodes organs = .ok t)
    (bare : ∀ o ∈ organs, o.devices = []) :
    (∀ device calls,
      let s := (fresh t device).run calls
      Topology.build nodes s.topology.organList = .ok s.topology ∧
      ∀ k o, s.topology.organ? k = some o →
        o.devices = (s.listed k).map s.device ∧ o.devices.Nodup ∧
        (∀ h ∈ s.listed k, (s.device h).organId = some o.id) ∧
        ∀ h, (o.Admits (s.device h) ∧ s.attach k h = .ok (s.attached o h)) ∨
          ∃ i, (s.device h).organId = some i ∧ i ≠ o.id ∧
            s.attach k h = .error (.attachedElsewhere (s.device h).id i) ∧ s.after (k, h) = s) ∧
    ((∀ device calls, ((fresh t device).run calls).Single) ↔ (organs.map (·.id)).Nodup) := by
  have ht : t.Distinct := Topology.build_distinct e
  obtain rfl : t.organList = organs := Topology.build_organList e
  have accurate : ∀ device calls, Accurate t ((fresh t device).run calls) :=
    fun device calls => (accurate_fresh device bare).run ht calls
  refine ⟨fun device calls => ?_, nodup_ids ht bare,
    fun hids device calls => (accurate device calls).single hids⟩
  intro s
  have hs : Accurate t s := accurate device calls
  refine ⟨?_, fun k o ho => ?_⟩
  · rw [hs.shown]
    show Topology.build nodes (t.organList.map s.showing) = _
    exact Topology.build_mapOrgans s.showing_frame e
  · obtain ⟨hlist, honce, hmarked⟩ := hs.owned ho
    exact ⟨hlist, honce, hmarked, attach_cases ho⟩

attribute [local instance] Rounding.binary64

/-- two organs and one device: the second organ is refused, and the first lists it once -/
theorem attachments_owned_two :
    let nodes : List Node := [⟨1, "n", "", []⟩]
    let organs := [Organ.create 1 .ioBridge 1 [] 1, .create 2 .cortex 1 [] 1]
    let device := fun _ : Nat => (⟨"nic-0", .nic, .online, none⟩ : Device)
    ∃ t, Topology.build nodes organs = .ok t ∧
      let s := (fresh t device).run [(.ioBridge, 0), (.cortex, 0), (.ioBridge, 0)]
      s.Single ∧ s.listed .ioBridge = [0] := by
  intro nodes organs device
  have e : Topology.build nodes organs = .ok ⟨nodes.map (·.host 1 |>.host 2), organs⟩ := rfl
  have bare : ∀ o ∈ organs, o.devices = [] := by simp [organs, Organ.create]
  obtain ⟨-, hsingle⟩ := attachments_owned e bare
  exact ⟨_, e, hsingle.mpr (by decide) device _, rfl⟩

/-- a device on the lists of two organs -/
theorem not_all_owned :
    ¬ ∀ nodes organs t device calls, Topology.build nodes organs = .ok t →
      (∀ o ∈ organs, o.devices = []) → ((fresh t device).run calls).Single := by
  intro hall
  let organs := [Organ.create 1 .cortex 1 [] 1, .create 1 .memory 1 [] 1]
  have bare : ∀ o ∈ organs, o.devices = [] := by simp [organs, Organ.create]
  let t : Topology := ⟨[⟨1, "n", "", [1]⟩], organs⟩
  have ho : t.organ? .cortex = some (Organ.create 1 .cortex 1 [] 1) := rfl
  have hp : t.organ? .memory = some (Organ.create 1 .memory 1 [] 1) := rfl
  have hsingle := hall [⟨1, "n", "", []⟩] organs t (fun _ => ⟨"nic-0", .nic, .online, none⟩)
    [(.cortex, 0), (.memory, 0)] rfl bare
  exact not_single bare ho hp (by decide) rfl rfl hsingle

end Inventory
end Organism
