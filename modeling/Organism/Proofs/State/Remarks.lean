import Organism.Proofs.State.Grammar

/-!
# Remarks

A text is read from those of its lines that are no remarks, and a line feed cuts it into two texts
that are read like the whole.  So a remark may be put wherever a line may begin, and changes nothing
if it is one line.  But the line feed is not the only character that ends a line: a remark with
another break in it ends there, and what follows the break is a line like any other.

* `records`            the trimmed lines that are no remarks;
* `records_newline`    the records of two texts with a line feed between them;
* `parse_iff_records`  what a text gives depends on nothing but its records;
* `silent_iff`         lines that can be put into every text;
* `remarks_ignored`    **remarks and blank lines are ignored, exactly if every line that they are
                       cut into is a remark or blank itself**.
-/

namespace Organism.State

open Text

/-! ## the records of a text -/

/-- the trimmed lines that say something -/
def records (text : List Char) : List (List Char) :=
  ((Text.lines text).map (strip isBlank)).filter fun line => !isRemark line

theorem records_eq_nil_iff {text : List Char} :
    records text = [] ↔ ∀ line ∈ Text.lines text, Line.Spelled .remark (strip isBlank line) := by
  unfold records
  rw [List.filter_eq_nil_iff, List.forall_mem_map]
  simp [isRemark_iff]

@[simp] theorem records_nil : records [] = [] := by simp [records]

/-- **The records around a line feed are those of the two texts.** -/
theorem records_newline (a b : List Char) : records (a ++ '\n' :: b) = records a ++ records b := by
  obtain ⟨e, he, h⟩ := lines_append_newline a
  have hr : (e.map (strip isBlank)).filter (fun line => !isRemark line) = [] := by
    rcases he with rfl | rfl <;> rfl
  unfold records
  rw [h, List.map_append, List.map_append, List.filter_append, List.filter_append, hr,
    List.append_nil]

/-- a text after which a line may begin -/
def Closed (text : List Char) : Prop := text = [] ∨ ∃ body, text = body ++ ['\n']

theorem Closed.records_append {a : List Char} (h : Closed a) (b : List Char) :
    records (a ++ b) = records a ++ records b := by
  rcases h with rfl | ⟨body, rfl⟩
  · simp
  · rw [List.append_assoc, List.singleton_append, records_newline, records_newline]
    simp

/-! ## what they give -/

attribute [local instance] Rounding.binary64

/-- what the records say: the version at most once, and no organ twice -/
structure Recorded (ls : List Line) (rs : List (List Char)) : Prop where
  lines : List.Forall₂ Line.Spelled ls rs
  version : ls.count .version ≤ 1
  organs : ((entries ls).map (·.1)).Nodup

theorem forall₂_filter {raw : List (List Char)} {ks : List Line} :
    List.Forall₂ Line.Spelled ks (raw.filter fun line => !isRemark line) ↔
      ∃ ls, List.Forall₂ Line.Spelled ls raw ∧ ls.filter (· != .remark) = ks := by
  induction raw generalizing ks with
  | nil =>
    constructor
    · intro h
      cases h
      exact ⟨[], .nil, rfl⟩
    · rintro ⟨ls, h, rfl⟩
      cases h
      exact .nil
  | cons line raw ih =>
    by_cases hr : isRemark line = true
    · rw [List.filter_cons_of_neg (by simp [hr]), ih]
      constructor
      · rintro ⟨ls, h, rfl⟩
        exact ⟨.remark :: ls, .cons (isRemark_iff.mp hr) h, rfl⟩
      · rintro ⟨ls, h, rfl⟩
        cases h with
        | @cons l _ ls _ hl h =>
          cases hl.remark hr
          exact ⟨ls, h, rfl⟩
    · rw [List.filter_cons_of_pos (by simpa using hr)]
      have hne {l : Line} (hl : l.Spelled line) : l ≠ .remark := by
        rintro rfl
        exact hr (isRemark_iff.mpr hl)
      constructor
      · intro h
        cases h with
        | @cons l _ ks _ hl hks =>
          obtain ⟨ls, hls, rfl⟩ := ih.mp hks
          exact ⟨l :: ls, .cons hl hls, List.filter_cons_of_pos (by simpa using hne hl)⟩
      · rintro ⟨ls, h, rfl⟩
        cases h with
        | @cons l _ ls _ hl h =>
          rw [List.filter_cons_of_pos (by simpa using hne hl)]
          exact .cons hl (ih.mpr ⟨ls, h, rfl⟩)

theorem count_version_filter (ls : List Line) :
    (ls.filter (· != .remark)).count .version = ls.count .version :=
  List.count_filter rfl

theorem entries_filter (ls : List Line) : entries (ls.filter (· != .remark)) = entries ls := by
  induction ls with
  | nil => rfl
  | cons l ls ih => cases l <;> simp [ih]

/-- **What a text gives is what its records say.** -/
theorem parse_iff_records {text : List Char} {m : List (OrganKind × Number)} :
    parse text = .ok m ↔ ∃ ls, Recorded ls (records text) ∧ entries ls = m := by
  rw [parse_eq_ok_iff]
  constructor
  · rintro ⟨ls, h, rfl⟩
    have hs := forall₂_filter.mpr ⟨ls, h.lines, rfl⟩
    refine ⟨_, ⟨hs, ?_, ?_⟩, entries_filter ls⟩
    · rw [count_version_filter]
      exact h.version
    · rw [entries_filter]
      exact h.organs
  · rintro ⟨ks, h, rfl⟩
    obtain ⟨ls, hs, rfl⟩ := forall₂_filter.mp h.lines
    refine ⟨ls, ⟨hs, ?_, ?_⟩, (entries_filter ls).symm⟩
    · rw [← count_version_filter]
      exact h.version
    · rw [← entries_filter]
      exact h.organs

/-- one text can be read exactly if the other can, and gives the same healths -/
def SameHealths (x y : List Char) : Prop := ∀ m, parse x = .ok m ↔ parse y = .ok m

theorem sameHealths_of_records {x y : List Char} (h : records x = records y) : SameHealths x y := by
  intro m
  rw [parse_iff_records, parse_iff_records, h]

theorem Recorded.count_version {ls : List Line} {text : List Char} (h : Recorded ls (records text))
    (he : entries ls = []) : ls.count .version = (records text).length := by
  obtain ⟨ms, -, hm⟩ := forall₂_filter.mp h.lines
  rw [← h.lines.length_eq, List.count_eq_length]
  intro l hl
  have hne : l ≠ .remark := by
    rw [← hm] at hl
    simpa using (List.mem_filter.mp hl).2
  cases l with
  | remark => exact absurd rfl hne
  | version => rfl
  | health k x =>
    have hx : (k, x.toUnit) ∈ entries ls := List.mem_filterMap.mpr ⟨_, hl, rfl⟩
    rw [he] at hx
    cases hx

/-! ## lines that say nothing -/

/-- put into a text as a line, it changes nothing -/
def Silent (w : List Char) : Prop :=
  ∀ a b, Closed a → SameHealths (a ++ (w ++ '\n' :: b)) (a ++ b)

/-- a line is silent exactly if it has no record; a version could not be put in twice -/
theorem silent_iff_records {w : List Char} : Silent w ↔ records w = [] := by
  constructor
  · intro h
    have hnil : parse [] = .ok [] := rfl
    have hw : parse w = .ok [] := by
      have h1 := (h [] [] (.inl rfl) []).mpr hnil
      rw [parse_iff_records] at h1 ⊢
      simpa [records_newline] using h1
    obtain ⟨ls, hr, he⟩ := parse_iff_records.mp ((h [] w (.inl rfl) []).mpr hw)
    have hv := hr.version
    rw [hr.count_version he, List.nil_append, records_newline, List.length_append] at hv
    rw [← List.length_eq_zero_iff]
    omega
  · intro h a b ha
    apply sameHealths_of_records
    rw [ha.records_append, ha.records_append, records_newline, h, List.nil_append]

theorem silent_iff {w : List Char} :
    Silent w ↔ ∀ line ∈ Text.lines w, Line.Spelled .remark (strip isBlank line) := by
  rw [silent_iff_records, records_eq_nil_iff]

theorem silent_remark_iff {c : List Char} : Silent ('#' :: c) ↔
    ∀ line ∈ (Text.lines c).tail, Line.Spelled .remark (strip isBlank line) := by
  have hash (l : List Char) : Line.Spelled .remark (strip isBlank ('#' :: l)) := by
    have h := head?_strip (p := isBlank) (c := '#') (by decide) l
    rw [← isRemark_iff]
    cases hs : strip isBlank ('#' :: l) with
    | nil => rfl
    | cons d ds =>
      rw [hs] at h
      cases h
      rfl
  rw [silent_iff, lines_cons (by decide)]
  cases Text.lines c with
  | nil => simpa using hash []
  | cons l ls => simp [hash l]

/-- **Remarks and blank lines are ignored**, wherever they are put into a text, if no character in
them ends a line.  A remark with such a character in it is ignored exactly if every line after that
is blank or a remark again. -/
theorem remarks_ignored (c w : List Char) :
    (Silent ('#' :: c) ↔
      ∀ line ∈ (Text.lines c).tail, Line.Spelled .remark (strip isBlank line)) ∧
    ((∀ x ∈ c, isLineBreak x = false) → Silent ('#' :: c)) ∧
    ((∀ x ∈ w, x = ' ' ∨ x = '\t') → Silent w) := by
  refine ⟨silent_remark_iff, ?_, ?_⟩
  · intro h
    rw [silent_remark_iff]
    by_cases hc : c = []
    · simp [hc]
    · simp [lines_eq_singleton h hc]
  · intro h
    have hb : ∀ x ∈ w, isBlank x = true := by
      intro x hx
      rcases h x hx with rfl | rfl <;> decide
    have hl : ∀ x ∈ w, isLineBreak x = false := by
      intro x hx
      rcases h x hx with rfl | rfl <;> decide
    rw [silent_iff]
    by_cases hw : w = []
    · simp [hw]
    · simpa [lines_eq_singleton hl hw, strip_eq_nil hb] using Line.Spelled.blank

/-- a remark in words, and a line of a space and a tab -/
theorem remarks_ignored_words :
    Silent "# saved before the storm".toList ∧ Silent [' ', '\t'] := by
  have hc : ∀ x ∈ " saved before the storm".toList, isLineBreak x = false := by
    have hall : (" saved before the storm".toList.all fun x => !isLineBreak x) = true := by decide
    intro x hx
    simpa using List.all_eq_true.mp hall x hx
  have hw : ∀ x ∈ [' ', '\t'], x = ' ' ∨ x = '\t' := by simp
  obtain ⟨-, hremark, hblank⟩ := remarks_ignored " saved before the storm".toList [' ', '\t']
  exact ⟨hremark hc, hblank hw⟩

/-- a remark with a line separator in it sets a health -/
theorem not_all_remarks_ignored :
    ¬ ∀ a b c : List Char, Closed a → '\n' ∉ c → '\r' ∉ c →
      SameHealths (a ++ ('#' :: c ++ '\n' :: b)) (a ++ b) := by
  intro h
  have hs := h [] [] "\u2028cortex=0.25".toList (.inl rfl) (by decide +kernel)
    (by decide +kernel) [(.cortex, .finite (1 / 4))]
  have hx : parse ("#\u2028cortex=0.25\n".toList) = .ok [(.cortex, .finite (1 / 4))] := by
    decide +kernel
  exact absurd (hs.mp hx) (by decide +kernel)

end Organism.State
