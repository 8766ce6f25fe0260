import Organism.Proofs.Anatomy.Topology
import Organism.State.Record
import Mathlib.Tactic.Push

/-!
# Loading is all or nothing

* `State.organRecords`        the records of organs in a text, found without reading their values;
* `State.parse_spec`          **what can be parsed has one entry for every such record**;
* `restore_of_has`            healths put into a topology, in one pass over its organs;
* `writeAll`, `loadSteps`     the same as a sequence of writes, each of which might fail;
* `loadSteps_eq`              **none of them does, and none is made unless all will be**;
* `load_all_or_nothing`       a text or its bytes put into a topology.
-/

namespace Organism

/-! ## records of organs -/

namespace State

theorem splitRecord?_append {left : List Char} (h : '=' ∉ left) (right : List Char) :
    splitRecord? (left ++ '=' :: right) = some (left, right) := by
  induction left with
  | nil => rfl
  | cons c left ih =>
    rw [List.mem_cons, not_or] at h
    obtain ⟨hc, hl⟩ := h
    rw [List.cons_append, splitRecord?, ih hl]
    · rfl
    · exact fun e => hc e.symm

theorem eq_of_splitRecord? {line left right : List Char}
    (h : splitRecord? line = some (left, right)) : '=' ∉ left ∧ line = left ++ '=' :: right := by
  induction line generalizing left with
  | nil => cases h
  | cons c line ih =>
    by_cases hc : c = '='
    · subst hc
      cases h
      exact ⟨List.not_mem_nil, rfl⟩
    · rw [splitRecord?.eq_3 _ _ hc, Option.map_eq_some_iff] at h
      obtain ⟨⟨key, value⟩, hs, he⟩ := h
      cases he
      obtain ⟨hk, rfl⟩ := ih hs
      refine ⟨?_, rfl⟩
      rw [List.mem_cons, not_or]
      exact ⟨fun e => hc e.symm, hk⟩

def organRecord? (line : List Char) : Option (OrganKind × List Char) :=
  let trimmed := Text.strip Text.isBlank line
  if isRemark trimmed then none
  else
    match splitRecord? trimmed with
    | none => none
    | some (left, right) =>
      (Named.find? (String.ofList (Text.strip Text.isBlank left))).map fun k =>
        (k, Text.strip Text.isBlank right)

/-- the records of organs in a text, in order -/
def organRecords (text : List Char) : List (OrganKind × List Char) :=
  (Text.lines text).filterMap organRecord?

variable {r r' : Records} {line : List Char}

theorem readVersion_ok {value : List Char} (h : readVersion r value = .ok r') :
    r'.healths = r.healths := by
  unfold readVersion at h
  split at h
  · cases h
  · split at h
    · cases h
      rfl
    · cases h

theorem find?_versionKey : (Named.find? (String.ofList versionKey) : Option OrganKind) = none := by
  decide

theorem nodup_keys_append {es : List (OrganKind × Number)} {e : OrganKind × Number} :
    ((es ++ [e]).map (·.1)).Nodup ↔ (es.map (·.1)).Nodup ∧ e.1 ∉ es.map (·.1) := by
  rw [List.map_append, List.map_singleton, List.nodup_append]
  constructor
  · rintro ⟨hn, -, hd⟩
    exact ⟨hn, fun hm => hd e.1 hm e.1 (List.mem_singleton_self _) rfl⟩
  · rintro ⟨hn, hm⟩
    refine ⟨hn, List.nodup_singleton _, ?_⟩
    intro a ha b hb hab
    rw [List.mem_singleton] at hb
    rw [hab, hb] at ha
    exact hm ha

section
variable [Rounding]

/-- the entry is what the record says -/
def Says (record : OrganKind × List Char) (entry : OrganKind × Number) : Prop :=
  entry.1 = record.1 ∧
    ∃ x, readPlain? record.2 = some x ∧ x.isFinite = true ∧ entry.2 = x.toUnit

theorem readHealth_ok {k : OrganKind} {value : List Char} (h : readHealth r k value = .ok r') :
    k ∉ r.healths.map (·.1) ∧ ∃ entry, Says (k, value) entry ∧
      r'.healths = r.healths ++ [entry] := by
  unfold readHealth at h
  split at h
  · cases h
  · next hk =>
    split at h
    · cases h
    · next x hx =>
      split at h
      · next hf =>
        cases h
        refine ⟨?_, (k, x.toUnit), ⟨rfl, x, hx, hf, rfl⟩, rfl⟩
        intro hm
        obtain ⟨e, he, rfl⟩ := List.mem_map.mp hm
        exact hk (List.any_eq_true.mpr ⟨e, he, decide_eq_true rfl⟩)
      · cases h

theorem readLine_ok (h : readLine r line = .ok r') :
    (organRecord? line = none ∧ r'.healths = r.healths) ∨
    (∃ record, organRecord? line = some record ∧ record.1 ∉ r.healths.map (·.1) ∧
      ∃ entry, Says record entry ∧ r'.healths = r.healths ++ [entry]) := by
  unfold readLine at h
  unfold organRecord?
  dsimp only at h ⊢
  generalize Text.strip Text.isBlank line = trimmed at h ⊢
  cases hr : isRemark trimmed with
  | true =>
    rw [hr] at h
    cases h
    exact .inl ⟨rfl, rfl⟩
  | false =>
    rw [hr] at h
    change readRecord r trimmed = .ok r' at h
    unfold readRecord at h
    cases hs : splitRecord? trimmed with
    | none =>
      rw [hs] at h
      cases h
    | some sides =>
      obtain ⟨left, right⟩ := sides
      rw [hs] at h
      dsimp only at h ⊢
      by_cases hv : Text.strip Text.isBlank left = versionKey
      · rw [if_pos hv] at h
        rw [hv, find?_versionKey]
        exact .inl ⟨rfl, readVersion_ok h⟩
      · rw [if_neg hv] at h
        cases hk : (Named.find? (String.ofList (Text.strip Text.isBlank left)) : Option OrganKind) with
        | none =>
          rw [hk] at h
          cases h
        | some k =>
          rw [hk] at h
          exact .inr ⟨_, rfl, readHealth_ok h⟩

theorem readLines_ok {ls : List (List Char)} {n : Nat} (h : readLines n r ls = .ok r')
    (hr : (r.healths.map (·.1)).Nodup) :
    ∃ es, List.Forall₂ Says (ls.filterMap organRecord?) es ∧ r'.healths = r.healths ++ es ∧
      (r'.healths.map (·.1)).Nodup := by
  induction ls generalizing n r with
  | nil =>
    cases h
    exact ⟨[], .nil, (List.append_nil _).symm, hr⟩
  | cons l ls ih =>
    unfold readLines at h
    cases hl : readLine r l with
    | error e =>
      rw [hl] at h
      cases h
    | ok r1 =>
      rw [hl] at h
      rcases readLine_ok hl with ⟨hn, he⟩ | ⟨record, hs, hnew, entry, hsay, he⟩
      · obtain ⟨es, h1, h2, h3⟩ := ih h (by rwa [he])
        rw [List.filterMap_cons_none hn]
        exact ⟨es, h1, by rw [h2, he], h3⟩
      · have hnd : (r1.healths.map (·.1)).Nodup := by
          rw [he, nodup_keys_append, hsay.1]
          exact ⟨hr, hnew⟩
        obtain ⟨es, h1, h2, h3⟩ := ih h hnd
        rw [List.filterMap_cons_some hs]
        refine ⟨entry :: es, .cons hsay h1, ?_, h3⟩
        rw [h2, he, List.append_assoc, List.singleton_append]

/-- **What can be parsed has one entry for every record of an organ, and no organ two.** -/
theorem parse_spec {text : List Char} {m : List (OrganKind × Number)} (h : parse text = .ok m) :
    List.Forall₂ Says (organRecords text) m ∧ (m.map (·.1)).Nodup := by
  unfold parse at h
  cases hr : readLines 1 {} (Text.lines text) with
  | error e =>
    rw [hr] at h
    cases h
  | ok r =>
    rw [hr] at h
    cases h
    obtain ⟨es, h1, h2, h3⟩ := readLines_ok hr List.nodup_nil
    rw [List.nil_append] at h2
    subst h2
    exact ⟨h1, h3⟩

theorem Says.inUnit {record : OrganKind × List Char} {entry : OrganKind × Number}
    (h : Says record entry) : entry.2.InUnit := by
  obtain ⟨-, x, -, -, hx⟩ := h
  rw [hx]
  exact Number.inUnit_toUnit x

theorem inUnit_of_says {rs : List (OrganKind × List Char)} {es : List (OrganKind × Number)}
    (h : List.Forall₂ Says rs es) {e : OrganKind × Number} (he : e ∈ es) : e.2.InUnit := by
  induction h with
  | nil => cases he
  | cons hs _ ih =>
    rcases List.mem_cons.mp he with rfl | he
    · exact hs.inUnit
    · exact ih he

end

/-! ## sources -/

inductive Source where
  | text (cs : List Char)
  | bytes (bs : List UInt8)

def Source.content : Source → Except StateError (List Char)
  | text cs => .ok cs
  | bytes bs => (Utf8.decode bs).mapError fun e => ⟨none, .notText e⟩

variable [Rounding]

def Source.parsed : Source → Except StateError (List (OrganKind × Number))
  | text cs => parse cs
  | bytes bs => parseBytes bs

theorem Source.parsed_eq (s : Source) : s.parsed = s.content.bind parse := by
  cases s with
  | text cs => rfl
  | bytes bs =>
    show parseBytes bs = ((Utf8.decode bs).mapError _).bind parse
    unfold parseBytes
    cases Utf8.decode bs <;> rfl

end State

/-! ## healths put into a topology -/

namespace Topology

variable {t : Topology} {m : List (OrganKind × Number)}

def restored (m : List (OrganKind × Number)) (o : Organ) : Organ :=
  match m.lookup o.kind with
  | some x => { o with health := x.toUnit }
  | none => o

theorem kind_restored (m : List (OrganKind × Number)) (o : Organ) : (restored m o).kind = o.kind := by
  unfold restored
  cases m.lookup o.kind <;> rfl

theorem put_eq_mapOrgans (t : Topology) (e : OrganKind × Number) :
    t.put e = t.mapOrgans fun o => if o.kind = e.1 then { o with health := e.2.toUnit } else o := rfl

theorem lookup_eq_none {k : OrganKind} (h : k ∉ m.map (·.1)) : m.lookup k = none := by
  rw [List.lookup_eq_none_iff]
  intro e he
  rw [bne_iff_ne]
  rintro rfl
  exact h (List.mem_map_of_mem he)

theorem lookup_eq_some {e : OrganKind × Number} (h : (m.map (·.1)).Nodup) (he : e ∈ m) :
    m.lookup e.1 = some e.2 := by
  induction m with
  | nil => cases he
  | cons d m ih =>
    rw [List.map_cons, List.nodup_cons] at h
    rcases List.mem_cons.mp he with rfl | he
    · exact List.lookup_cons_self
    · have hne : e.1 ≠ d.1 := fun hk => h.1 (hk ▸ List.mem_map_of_mem he)
      rw [show d = (d.1, d.2) from rfl, List.lookup_cons, beq_eq_false_iff_ne.mpr hne]
      exact ih h.2 he

/-- one organ at a time, or all entries at once for every organ -/
theorem foldl_put (h : (m.map (·.1)).Nodup) (t : Topology) :
    m.foldl put t = t.mapOrgans (restored m) := by
  induction m generalizing t with
  | nil => exact (congrArg (Topology.mk t.nodeList) (List.map_id _)).symm
  | cons e m ih =>
    rw [List.map_cons, List.nodup_cons] at h
    rw [List.foldl_cons, ih h.2, put_eq_mapOrgans, mapOrgans_mapOrgans]
    congr 1
    funext o
    unfold restored
    rw [show e = (e.1, e.2) from rfl, List.lookup_cons]
    by_cases hk : o.kind = e.1
    · rw [if_pos hk, beq_iff_eq.mpr hk]
      dsimp only
      rw [hk, lookup_eq_none h.1]
    · rw [if_neg hk, beq_eq_false_iff_ne.mpr hk]

theorem restore_of_has (h : (m.map (·.1)).Nodup) (hm : ∀ e ∈ m, t.has e.1 = true) :
    t.restore m = .ok (t.mapOrgans (restored m)) := by
  unfold restore
  have hf : (m.map (·.1)).filter (fun k => !t.has k) = [] := by
    rw [List.filter_eq_nil_iff]
    intro k hk
    obtain ⟨e, he, rfl⟩ := List.mem_map.mp hk
    simp [hm e he]
  rw [hf]
  exact congrArg _ (foldl_put h t)

theorem restore_of_not_has {e : OrganKind × Number} (he : e ∈ m) (hm : t.has e.1 = false) :
    ∃ ks, e.1 ∈ ks ∧ t.restore m = .error ⟨none, .absentOrgans ks⟩ := by
  have hk : e.1 ∈ (m.map (·.1)).filter fun k => !t.has k :=
    List.mem_filter.mpr ⟨List.mem_map_of_mem he, by rw [hm]; rfl⟩
  refine ⟨_, hk, ?_⟩
  unfold restore
  split
  · next hf =>
    rw [hf] at hk
    cases hk
  · rfl

theorem organ?_restored (k : OrganKind) :
    (t.mapOrgans (restored m)).organ? k = (t.organ? k).map (restored m) :=
  organ?_mapOrgans (kind_restored m) t k

theorem restored_of_mem {e : OrganKind × Number} {o : Organ} (h : (m.map (·.1)).Nodup)
    (he : e ∈ m) (ho : o.kind = e.1) : restored m o = { o with health := e.2.toUnit } := by
  unfold restored
  rw [ho, lookup_eq_some h he]

theorem restored_of_not_mem {o : Organ} (h : o.kind ∉ m.map (·.1)) : restored m o = o := by
  unfold restored
  rw [lookup_eq_none h]

theorem put_eq_replace (h : t.Distinct) {k : OrganKind} {o : Organ} (ho : t.organ? k = some o)
    (x : Number) : t.put (k, x) = t.replace { o with health := x.toUnit } := by
  obtain rfl : o.kind = k := kind_of_organ? ho
  rw [put_eq_mapOrgans, replace_eq_mapOrgans]
  apply mapOrgans_congr
  intro p hp
  dsimp only
  by_cases hk : p.kind = o.kind
  · have hpo : p = o := by
      have hq := h.organ?_eq hp
      rw [hk, ho] at hq
      exact (Option.some.inj hq).symm
    rw [if_pos hk, if_pos hk, hpo]
  · rw [if_neg hk, if_neg hk]

/-! ## the writes one after the other -/

section
variable [Rounding]

/-- healths written one after the other, up to the first that is refused -/
def writeAll (t : Topology) : List (OrganKind × Number) → Topology × Except Fault Unit
  | [] => (t, .ok ())
  | (k, x) :: m =>
    match t.setHealth k x with
    | .error e => (t, .error e)
    | .ok (t, _) => t.writeAll m

/-- a load with all that it leaves behind: what was written before a failure stays written -/
def loadSteps (t : Topology) (parsed : Except StateError (List (OrganKind × Number))) :
    Topology × Except Fault (List (OrganKind × Number)) :=
  match parsed with
  | .error e => (t, .error (.malformed e))
  | .ok m =>
    match (m.map (·.1)).filter fun k => !t.has k with
    | [] => ((t.writeAll m).1, (t.writeAll m).2.map fun _ => m)
    | absent => (t, .error (.malformed ⟨none, .absentOrgans absent⟩))

theorem writeAll_eq (h : t.Distinct) (hm : ∀ e ∈ m, t.has e.1 = true)
    (hx : ∀ e ∈ m, e.2.isFinite = true) : t.writeAll m = (m.foldl put t, .ok ()) := by
  induction m generalizing t with
  | nil => rfl
  | cons e m ih =>
    obtain ⟨k, x⟩ := e
    obtain ⟨o, ho⟩ := has_iff_exists.mp (hm (k, x) (List.mem_cons_self ..))
    unfold writeAll
    rw [setHealth_eq ho (hx (k, x) (List.mem_cons_self ..))]
    dsimp only
    rw [← put_eq_replace h ho, List.foldl_cons]
    have hf : ∀ p : Organ, (if p.kind = k then { p with health := x.toUnit } else p).kind = p.kind := by
      intro p
      split <;> rfl
    apply ih
    · exact h.mapOrgans hf
    · intro e he
      rw [put_eq_mapOrgans, has_mapOrgans hf]
      exact hm e (List.mem_cons_of_mem _ he)
    · exact fun e he => hx e (List.mem_cons_of_mem _ he)

/-- **The writes of a load never fail half way, and none is made unless all will be.** -/
theorem loadSteps_eq (h : t.Distinct) {parsed : Except StateError (List (OrganKind × Number))}
    (hx : ∀ m, parsed = .ok m → ∀ e ∈ m, e.2.isFinite = true) :
    t.loadSteps parsed =
      match t.loadParsed parsed with
      | .error e => (t, .error (.malformed e))
      | .ok (t', m) => (t', .ok m) := by
  cases parsed with
  | error e => rfl
  | ok m =>
    unfold loadSteps
    show _ = match (t.restore m).bind fun t' => Except.ok (t', m) with
      | Except.error e => (t, Except.error (Fault.malformed e))
      | Except.ok (t', m) => (t', Except.ok m)
    unfold restore
    dsimp only
    cases hf : (m.map (·.1)).filter fun k => !t.has k with
    | cons k ks => rfl
    | nil =>
      have hm : ∀ e ∈ m, t.has e.1 = true := by
        intro e he
        have hn := List.filter_eq_nil_iff.mp hf e.1 (List.mem_map_of_mem he)
        simpa using hn
      dsimp only
      rw [writeAll_eq h hm (hx m rfl)]
      rfl

/-! ## loading -/

def loadSource (t : Topology) : State.Source →
    Except StateError (Topology × List (OrganKind × Number))
  | .text cs => t.load cs
  | .bytes bs => t.loadBytes bs

theorem loadSource_eq (t : Topology) (s : State.Source) :
    t.loadSource s = t.loadParsed s.parsed := by
  cases s <;> rfl

/-- what a load that succeeds leaves behind, and what it returns -/
structure Loaded (t : Topology) (s : State.Source) (t' : Topology)
    (m : List (OrganKind × Number)) : Prop where
  /-- one entry for every record of an organ in the text -/
  records : ∃ text, s.content = .ok text ∧ List.Forall₂ State.Says (State.organRecords text) m
  /-- no organ has two entries -/
  keys : (m.map (·.1)).Nodup
  inUnit : ∀ e ∈ m, e.2.InUnit
  /-- the organs with an entry have its health, and are what they were apart from that -/
  written : ∀ e ∈ m, ∃ o, t.organ? e.1 = some o ∧ t'.organ? e.1 = some { o with health := e.2 }
  others : ∀ k, k ∉ m.map (·.1) → t'.organ? k = t.organ? k
  nodes : t'.nodeList = t.nodeList

theorem loadSource_of_has {s : State.Source} (hs : s.parsed = .ok m)
    (hm : ∀ e ∈ m, t.has e.1 = true) :
    ∃ t', t.loadSource s = .ok (t', m) ∧ t.Loaded s t' m := by
  rw [State.Source.parsed_eq] at hs
  cases hc : s.content with
  | error e =>
    rw [hc] at hs
    cases hs
  | ok text =>
    rw [hc] at hs
    change State.parse text = .ok m at hs
    obtain ⟨hr, hk⟩ := State.parse_spec hs
    have hu : ∀ e ∈ m, e.2.InUnit := fun e he => State.inUnit_of_says hr he
    refine ⟨t.mapOrgans (restored m), ?_, ⟨⟨text, hc, hr⟩, hk, hu, ?_, ?_, rfl⟩⟩
    · rw [loadSource_eq, State.Source.parsed_eq, hc]
      show t.loadParsed (State.parse text) = _
      rw [hs]
      show (t.restore m).bind _ = _
      rw [restore_of_has hk hm]
      rfl
    · intro e he
      obtain ⟨o, ho⟩ := has_iff_exists.mp (hm e he)
      refine ⟨o, ho, ?_⟩
      rw [organ?_restored, ho, Option.map_some,
        restored_of_mem hk he (kind_of_organ? ho), Number.toUnit_eq_self (hu e he)]
    · intro k hk
      rw [organ?_restored]
      cases ho : t.organ? k with
      | none => rfl
      | some o =>
        rw [Option.map_some, restored_of_not_mem]
        rwa [kind_of_organ? ho]

theorem loadSource_of_not_has {s : State.Source} (hs : s.parsed = .ok m)
    {e : OrganKind × Number} (he : e ∈ m) (hm : t.has e.1 = false) :
    ∃ ks, e.1 ∈ ks ∧ t.loadSource s = .error ⟨none, .absentOrgans ks⟩ := by
  obtain ⟨ks, hk, hr⟩ := restore_of_not_has he hm
  refine ⟨ks, hk, ?_⟩
  rw [loadSource_eq, hs]
  show (t.restore m).bind _ = _
  rw [hr]
  rfl

/-- a load leaves what it should behind, or fails and leaves everything as it was -/
theorem loadSource_cases (t : Topology) (s : State.Source) :
    (∃ e, t.loadSource s = .error e) ∨
      ∃ t' m, t.loadSource s = .ok (t', m) ∧ t.Loaded s t' m := by
  cases hs : s.parsed with
  | error e =>
    refine .inl ⟨e, ?_⟩
    rw [loadSource_eq, hs]
    rfl
  | ok m =>
    by_cases hm : ∀ e ∈ m, t.has e.1 = true
    · obtain ⟨t', h⟩ := loadSource_of_has hs hm
      exact .inr ⟨t', m, h⟩
    · push Not at hm
      obtain ⟨e, he, hn⟩ := hm
      obtain ⟨ks, -, h⟩ := loadSource_of_not_has hs he (Bool.eq_false_iff.mpr hn)
      exact .inl ⟨_, h⟩

theorem loadSteps_source (h : t.Distinct) (s : State.Source) :
    t.loadSteps s.parsed =
      match t.loadSource s with
      | .error e => (t, .error (.malformed e))
      | .ok (t', m) => (t', .ok m) := by
  rw [loadSource_eq]
  apply loadSteps_eq h
  intro m hm e he
  rw [State.Source.parsed_eq] at hm
  cases hc : s.content with
  | error e =>
    rw [hc] at hm
    cases hm
  | ok text =>
    rw [hc] at hm
    change State.parse text = .ok m at hm
    exact (State.inUnit_of_says (State.parse_spec hm).1 he).isFinite

/-- **Loading is all or nothing.**  The steps of a load end with an error of the state file and the
topology they began with, or with the healths that the text gives, all of them written.  A text that
gives a health to an organ that is not there is an error, and any other one that can be parsed is
none. -/
theorem load_all_or_nothing (h : t.Distinct) (s : State.Source) :
    ((∃ e, t.loadSteps s.parsed = (t, .error (.malformed e)) ∧ t.loadSource s = .error e) ∨
      ∃ t' m, t.loadSteps s.parsed = (t', .ok m) ∧ t.loadSource s = .ok (t', m) ∧
        t.Loaded s t' m) ∧
    ∀ m, s.parsed = .ok m →
      (∀ e ∈ m, t.has e.1 = false →
        ∃ ks, e.1 ∈ ks ∧
          t.loadSteps s.parsed = (t, .error (.malformed ⟨none, .absentOrgans ks⟩))) ∧
      ((∀ e ∈ m, t.has e.1 = true) → ∃ t', t.loadSteps s.parsed = (t', .ok m)) := by
  rw [loadSteps_source h]
  refine ⟨?_, ?_⟩
  · rcases loadSource_cases t s with ⟨e, he⟩ | ⟨t', m, he, hl⟩
    · rw [he]
      exact .inl ⟨e, rfl, rfl⟩
    · rw [he]
      exact .inr ⟨t', m, rfl, rfl, hl⟩
  · intro m hm
    refine ⟨?_, ?_⟩
    · intro e he hn
      obtain ⟨ks, hk, hr⟩ := loadSource_of_not_has hm he hn
      rw [hr]
      exact ⟨ks, hk, rfl⟩
    · intro hh
      obtain ⟨t', hr, -⟩ := loadSource_of_has hm hh
      rw [hr]
      exact ⟨t', rfl⟩

end

attribute [local instance] Rounding.binary64

/-- half a health loaded into the default organism -/
theorem load_all_or_nothing_sample :
    (sample 1).Distinct ∧ State.parse "cortex=0.5\n".toList = .ok [(.cortex, .finite (1 / 2))] ∧
      ∃ t', (sample 1).loadSteps (State.Source.text "cortex=0.5\n".toList).parsed
        = (t', .ok [(.cortex, .finite (1 / 2))]) := by
  have hp : State.parse "cortex=0.5\n".toList = .ok [(.cortex, .finite (1 / 2))] := by
    decide +kernel
  refine ⟨sample_distinct 1, hp, ?_⟩
  exact ((load_all_or_nothing (sample_distinct 1) (.text "cortex=0.5\n".toList)).2 _ hp).2
    (by decide)

end Topology
end Organism
