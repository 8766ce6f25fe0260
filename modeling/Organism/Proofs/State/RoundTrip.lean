import Organism.Proofs.Number.Plain
import Organism.Proofs.State.Load
import Organism.Proofs.Text.Lines
import Organism.Proofs.Text.Utf8

/-!
# What is saved is loaded again

* `Number.IsHealth`       a 64-bit number between 0 and 1, as a health is stored;
* `readLine_organRecord`  the line of an organ is read as its health;
* `parse_write`           **the text of a topology is read as its healths**;
* `healths_congr`         the healths of the organs are all that is written;
* `loadBytes_write`       **a state saved from one topology is loaded into another, exactly**.
-/

namespace Organism

/-- a 64-bit number between 0 and 1 -/
def Number.IsHealth (x : Number) : Prop :=
  ∃ q : Rat, x = .finite q ∧ 0 ≤ q ∧ q ≤ 1 ∧ Binary64.Representable q

theorem Number.IsHealth.inUnit {x : Number} (h : x.IsHealth) : x.InUnit := by
  obtain ⟨q, hx, h0, h1, -⟩ := h
  exact ⟨q, hx, h0, h1⟩

attribute [local instance] Rounding.binary64

namespace State

/-! ## characters of records -/

def isPlain (c : Char) : Bool := !Text.isBlank c && c != '=' && c != '#'

theorem isPlain_of_isDigit {c : Char} (h : c.isDigit) : isPlain c = true := by
  obtain ⟨h1, h2⟩ := Char.isDigit_iff_toNat.mp h
  have h0 : '0'.toNat = 48 := rfl
  have h9 : '9'.toNat = 57 := rfl
  have hb : Text.isBlank c = false := by
    simp only [Text.isBlank, Text.isSpace, Bool.or_eq_false_iff, Bool.and_eq_false_iff,
      decide_eq_false_iff_not, beq_eq_false_iff_ne]
    omega
  have he : c ≠ '=' := by
    rintro rfl
    exact absurd h (by decide)
  have hr : c ≠ '#' := by
    rintro rfl
    exact absurd h (by decide)
  unfold isPlain
  rw [hb, bne_iff_ne.mpr he, bne_iff_ne.mpr hr]
  rfl

theorem isPlain_label (k : OrganKind) : ∀ c ∈ k.label.toList, isPlain c = true := by
  rw [← List.all_eq_true]
  cases k <;> decide

theorem isPlain_versionKey : ∀ c ∈ versionKey, isPlain c = true := List.all_eq_true.mp rfl

theorem isPlain_version : ∀ c ∈ version, isPlain c = true := List.all_eq_true.mp rfl

theorem isPlain_health {x : Number} (h : x.IsHealth) :
    ∀ c ∈ x.chars .stored, isPlain c = true := by
  obtain ⟨q, rfl, h0, -, -⟩ := h
  intro c hc
  rcases mem_chars_stored h0 hc with hd | rfl
  · exact isPlain_of_isDigit hd
  · decide

theorem not_isBlank_of_isPlain {c : Char} (h : isPlain c = true) : Text.isBlank c = false := by
  unfold isPlain at h
  simp only [Bool.and_eq_true, Bool.not_eq_true'] at h
  exact h.1.1

theorem strip_of_isPlain {cs : List Char} (h : ∀ c ∈ cs, isPlain c = true) :
    Text.strip Text.isBlank cs = cs :=
  Text.strip_eq_self fun c hc => not_isBlank_of_isPlain (h c hc)

theorem not_isBlank_of_mem_record {key value : List Char} (hk : ∀ c ∈ key, isPlain c = true)
    (hv : ∀ c ∈ value, isPlain c = true) : ∀ c ∈ record key value, Text.isBlank c = false := by
  intro c hc
  rcases List.mem_append.mp hc with hc | hc
  · exact not_isBlank_of_isPlain (hk c hc)
  · rcases List.mem_cons.mp hc with rfl | hc
    · decide
    · exact not_isBlank_of_isPlain (hv c hc)

/-! ## records -/

theorem splitRecord?_record {key : List Char} (hk : ∀ c ∈ key, isPlain c = true)
    (value : List Char) : splitRecord? (record key value) = some (key, value) := by
  apply splitRecord?_append
  intro h
  exact absurd (hk '=' h) (by decide)

theorem isRemark_record {key : List Char} (hk : ∀ c ∈ key, isPlain c = true) (hne : key ≠ [])
    (value : List Char) : isRemark (record key value) = false := by
  cases key with
  | nil => exact absurd rfl hne
  | cons c key =>
    show (c == '#') = false
    rw [beq_eq_false_iff_ne]
    rintro rfl
    exact absurd (hk '#' (List.mem_cons_self ..)) (by decide)

theorem readLine_record {key value : List Char} (hk : ∀ c ∈ key, isPlain c = true) (hne : key ≠ [])
    (hv : ∀ c ∈ value, isPlain c = true) (r : Records) :
    readLine r (record key value) =
      if key = versionKey then readVersion r value
      else
        match Named.find? (String.ofList key) with
        | none => .error (.unknownOrgan (.ofList key))
        | some organ => readHealth r organ value := by
  unfold readLine
  rw [Text.strip_eq_self (not_isBlank_of_mem_record hk hv)]
  dsimp only
  rw [isRemark_record hk hne]
  show readRecord r (record key value) = _
  unfold readRecord
  rw [splitRecord?_record hk]
  dsimp only
  rewrite [strip_of_isPlain hk, strip_of_isPlain hv]
  rfl

theorem readLine_version : readLine {} (record versionKey version) = .ok { versioned := true } := by
  rfl

theorem readLine_organRecord {k : OrganKind} {x : Number} (hx : x.IsHealth) {r : Records}
    (hr : k ∉ r.healths.map (·.1)) :
    readLine r (organRecord k x) = .ok { r with healths := r.healths ++ [(k, x)] } := by
  have hne : k.label.toList ≠ [] := by cases k <;> decide
  have hver : k.label.toList ≠ versionKey := by cases k <;> decide
  have hfind : Named.find? (String.ofList k.label.toList) = some k := by cases k <;> decide
  unfold organRecord
  rw [readLine_record (isPlain_label k) hne (isPlain_health hx), if_neg hver, hfind]
  have hany : ¬ (r.healths.any (·.1 = k)) = true := by
    intro h
    obtain ⟨e, he, hk⟩ := List.any_eq_true.mp h
    exact hr (of_decide_eq_true hk ▸ List.mem_map_of_mem he)
  have hu : x.toUnit = x := Number.toUnit_eq_self hx.inUnit
  have hf : x.isFinite = true := hx.inUnit.isFinite
  obtain ⟨q, rfl, h0, -, hq⟩ := hx
  show readHealth r k _ = _
  unfold readHealth
  rw [if_neg hany, readPlain?_chars h0 hq]
  dsimp only
  rw [if_pos hf, hu]

theorem readLines_organRecords {es : List (OrganKind × Number)} {r : Records} (n : Nat)
    (hx : ∀ e ∈ es, e.2.IsHealth) (hr : (r.healths.map (·.1) ++ es.map (·.1)).Nodup) :
    readLines n r (es.map fun e => organRecord e.1 e.2)
      = .ok { r with healths := r.healths ++ es } := by
  induction es generalizing r n with
  | nil =>
    rw [List.append_nil]
    rfl
  | cons e es ih =>
    have hnew : e.1 ∉ r.healths.map (·.1) := by
      intro h
      rw [List.nodup_append] at hr
      exact hr.2.2 e.1 h e.1 (List.mem_cons_self ..) rfl
    rw [List.map_cons, readLines, readLine_organRecord (hx e (List.mem_cons_self ..)) hnew]
    dsimp only
    rw [ih (n + 1) (fun d hd => hx d (List.mem_cons_of_mem _ hd))]
    · rw [List.append_assoc, List.singleton_append]
    · show ((r.healths ++ [(e.1, e.2)]).map (·.1) ++ es.map (·.1)).Nodup
      rw [List.map_append, List.append_assoc]
      exact hr

/-! ## texts -/

/-- the healths of the organs are stored numbers -/
def Storable (t : Topology) : Prop := ∀ o ∈ t.organs, o.health.IsHealth

theorem Storable.health {t : Topology} (h : Storable t) {e : OrganKind × Number}
    (he : e ∈ t.healths) : e.2.IsHealth := by
  obtain ⟨o, ho, hx⟩ := Topology.mem_healths.mp he
  rw [← hx]
  exact h o (Topology.mem_organs.mpr ⟨e.1, ho⟩)

theorem lines_write {t : Topology} (h : Storable t) :
    Text.lines (write t)
      = record versionKey version :: t.healths.map fun e => organRecord e.1 e.2 := by
  apply Text.lines_ended
  intro l hl c hc
  apply Text.not_isLineBreak_of_not_isBlank
  rcases List.mem_cons.mp hl with rfl | hl
  · exact not_isBlank_of_mem_record isPlain_versionKey isPlain_version c hc
  · obtain ⟨e, he, rfl⟩ := List.mem_map.mp hl
    exact not_isBlank_of_mem_record (isPlain_label e.1) (isPlain_health (h.health he)) c hc

/-- **The text of a topology is read as its healths.** -/
theorem parse_write {t : Topology} (h : Storable t) : parse (write t) = .ok t.healths := by
  unfold parse
  rw [lines_write h, readLines, readLine_version]
  dsimp only
  rw [readLines_organRecords 2 fun e he => h.health he]
  · rfl
  · exact t.healths_keys_nodup

theorem parseBytes_write {t : Topology} (h : Storable t) :
    parseBytes (Utf8.encode (write t)) = .ok t.healths := by
  unfold parseBytes
  rw [Utf8.decode_encode]
  exact parse_write h

end State

/-! ## topologies -/

namespace Topology

theorem has_of_mem_healths {t : Topology} {e : OrganKind × Number} (h : e ∈ t.healths) :
    t.has e.1 = true := by
  obtain ⟨o, ho, -⟩ := mem_healths.mp h
  exact has_iff_exists.mpr ⟨o, ho⟩

theorem mem_keys_healths {t : Topology} {k : OrganKind} :
    k ∈ t.healths.map (·.1) ↔ t.has k = true := by
  rw [healths_keys, List.mem_filter]
  constructor
  · exact fun h => h.2
  · intro h
    exact ⟨by cases k <;> decide, h⟩

theorem healths_congr {s t : Topology}
    (h : ∀ k, (s.organ? k).map (·.health) = (t.organ? k).map (·.health)) :
    s.healths = t.healths := by
  unfold healths organs
  rw [List.map_filterMap, List.map_filterMap]
  congr 1
  funext k
  have hk := h k
  cases hs : s.organ? k with
  | none =>
    rw [hs] at hk
    rw [Option.map_eq_none_iff.mp hk.symm]
  | some o =>
    rw [hs] at hk
    obtain ⟨p, hp, e⟩ := Option.map_eq_some_iff.mp hk.symm
    rw [hp, Option.map_some, Option.map_some, kind_of_organ? hs, kind_of_organ? hp, e]

theorem write_congr {s t : Topology}
    (h : ∀ k, (s.organ? k).map (·.health) = (t.organ? k).map (·.health)) :
    State.write s = State.write t := by
  unfold State.write
  rw [healths_congr h]

section
variable {s t t' : Topology} {src : State.Source}

theorem Loaded.organ?_of_saved (h : t.Loaded src t' s.healths) {k : OrganKind} {o p : Organ}
    (ho : s.organ? k = some o) (hp : t.organ? k = some p) :
    t'.organ? k = some { p with health := o.health } := by
  obtain ⟨q, hq, hr⟩ := h.written (k, o.health) (mem_healths.mpr ⟨o, ho, rfl⟩)
  rw [hp] at hq
  cases hq
  exact hr

theorem Loaded.organ?_of_not_saved (h : t.Loaded src t' s.healths) {k : OrganKind}
    (hk : s.has k = false) : t'.organ? k = t.organ? k := by
  apply h.others
  rw [mem_keys_healths, hk]
  exact Bool.false_ne_true

/-- a topology with the saved organs and no others is saved as the same text -/
theorem Loaded.write_eq (h : t.Loaded src t' s.healths) (hall : ∀ k, t.has k = s.has k) :
    State.write t' = State.write s := by
  apply write_congr
  intro k
  cases hk : s.organ? k with
  | none =>
    have hs : s.has k = false := by
      unfold has
      rw [hk]
      rfl
    have ht : t.organ? k = none := by
      have hh := hall k
      rw [hs] at hh
      exact Option.isNone_iff_eq_none.mp (Option.isSome_eq_false_iff.mp hh)
    rw [h.organ?_of_not_saved hs, ht]
  | some o =>
    have hs : s.has k = true := has_iff_exists.mpr ⟨o, hk⟩
    obtain ⟨p, hp⟩ := has_iff_exists.mp ((hall k).trans hs)
    rw [h.organ?_of_saved hk hp]
    rfl

end

/-- **A state saved from one topology is loaded into another, exactly.**  The healths of the saved
organs are the identical numbers, all else is as it was, and a topology with the same organs is then
saved as the same bytes. -/
theorem loadBytes_write {s t : Topology} (hs : State.Storable s)
    (ht : ∀ k, s.has k = true → t.has k = true) :
    ∃ t', t.loadBytes (Utf8.encode (State.write s)) = .ok (t', s.healths) ∧
      (∀ k o p, s.organ? k = some o → t.organ? k = some p →
        t'.organ? k = some { p with health := o.health }) ∧
      (∀ k, s.has k = false → t'.organ? k = t.organ? k) ∧
      t'.nodeList = t.nodeList ∧
      ((∀ k, t.has k = s.has k) →
        Utf8.encode (State.write t') = Utf8.encode (State.write s)) := by
  obtain ⟨t', hl, h⟩ := loadSource_of_has (t := t) (s := .bytes (Utf8.encode (State.write s)))
    (State.parseBytes_write hs) fun e he => ht e.1 (has_of_mem_healths he)
  refine ⟨t', hl, ?_, ?_, h.nodes, ?_⟩
  · exact fun k o p ho hp => h.organ?_of_saved ho hp
  · exact fun k hk => h.organ?_of_not_saved hk
  · exact fun hall => congrArg Utf8.encode (h.write_eq hall)

/-- the least positive number survives -/
theorem loadBytes_write_least :
    State.Storable (sample (.finite (2 ^ (-1074 : ℤ)))) ∧
      (∀ k, (sample (.finite (2 ^ (-1074 : ℤ)))).has k = true → (sample 1).has k = true) ∧
      ∃ t', (sample 1).loadBytes (Utf8.encode (State.write (sample (.finite (2 ^ (-1074 : ℤ))))))
          = .ok (t', (sample (.finite (2 ^ (-1074 : ℤ)))).healths) := by
  have hs : State.Storable (sample (.finite (2 ^ (-1074 : ℤ)))) := by
    intro o ho
    obtain ⟨k, hk⟩ := mem_organs.mp ho
    rw [sample_health o (mem_of_organ? hk)]
    refine ⟨_, rfl, by positivity, ?_, 1, -1074, by norm_num, le_refl _, by norm_num, ?_⟩
    · exact zpow_le_one_of_nonpos₀ (by norm_num) (by norm_num)
    · rw [Int.cast_one, one_mul]
  have ht : ∀ k, (sample (.finite (2 ^ (-1074 : ℤ)))).has k = true → (sample 1).has k = true :=
    fun k _ => sample_has 1 k
  obtain ⟨t', h, -⟩ := loadBytes_write hs ht
  exact ⟨hs, ht, t', h⟩

end Topology
end Organism
