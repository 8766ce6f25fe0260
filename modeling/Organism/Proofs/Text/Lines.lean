import Organism.Text.Basic
import Mathlib.Data.List.TakeWhile

/-!
# Words and lines

* `isWord_of_mem_words`     the words of a text are not empty, and hold no blank;
* `words_spaced`            **words with blanks between them are read back as they are**;
* `lines_ended`             lines that hold no break, each written with its end, are read back;
* `lines_append_newline`    whatever they hold, texts around a line feed are cut for themselves;
* `firstLines`              the first lines of a text with their ends, which are its first lines;
* `strip_eq_self`           a text without the characters to trim is left alone.
-/

namespace Organism.Text

/-! ## words -/

def IsWord (w : List Char) : Prop := w ≠ [] ∧ ∀ c ∈ w, isBlank c = false

/-! ## pieces -/

theorem splitWith_of_neg {p : Char → Bool} {c : Char} (h : p c = false) (cs : List Char) :
    splitWith p (c :: cs) = match splitWith p cs with
      | [] => [[c]]
      | w :: ws => (c :: w) :: ws := by
  rw [splitWith, h]
  rfl

theorem not_of_mem_splitWith {p : Char → Bool} {cs w : List Char} (h : w ∈ splitWith p cs) :
    ∀ c ∈ w, p c = false := by
  induction cs generalizing w with
  | nil =>
    rw [splitWith_nil, List.mem_singleton] at h
    subst h
    exact List.forall_mem_nil _
  | cons d cs ih =>
    cases hd : p d with
    | true =>
      rw [splitWith, if_pos hd] at h
      rcases List.mem_cons.mp h with rfl | h
      · exact List.forall_mem_nil _
      · exact ih h
    | false =>
      rw [splitWith_of_neg hd] at h
      split at h
      · next hnil => exact absurd hnil (splitWith_ne_nil p cs)
      · next v vs hvs =>
        have hmem : ∀ w ∈ v :: vs, ∀ c ∈ w, p c = false := fun w hw => ih (hvs ▸ hw)
        rcases List.mem_cons.mp h with rfl | h
        · exact List.forall_mem_cons.mpr ⟨hd, hmem v (.head _)⟩
        · exact hmem w (.tail _ h)

theorem splitWith_append {p : Char → Bool} {w : List Char} (h : ∀ c ∈ w, p c = false) {s : Char}
    (hs : p s = true) (cs : List Char) : splitWith p (w ++ s :: cs) = w :: splitWith p cs := by
  induction w with
  | nil =>
    rw [List.nil_append, splitWith, if_pos hs]
  | cons c w ih =>
    obtain ⟨hc, hw⟩ := List.forall_mem_cons.mp h
    rw [List.cons_append, splitWith_of_neg hc, ih hw]

theorem splitWith_self {p : Char → Bool} {w : List Char} (h : ∀ c ∈ w, p c = false) :
    splitWith p w = [w] := by
  induction w with
  | nil => rfl
  | cons c w ih =>
    obtain ⟨hc, hw⟩ := List.forall_mem_cons.mp h
    rw [splitWith_of_neg hc, ih hw]

/-! ## words -/

theorem isWord_of_mem_words {cs w : List Char} (h : w ∈ words cs) : IsWord w := by
  obtain ⟨hmem, hne⟩ := List.mem_filter.mp h
  exact ⟨by simpa using hne, not_of_mem_splitWith hmem⟩

/-- **Words with blanks between them are read back.** -/
theorem words_spaced {ws : List (List Char)} (h : ∀ w ∈ ws, IsWord w) :
    words ((ws.intersperse [' ']).flatten) = ws := by
  have hblank : isBlank ' ' = true := by decide
  induction ws with
  | nil => rfl
  | cons w ws ih =>
    obtain ⟨hw, hws⟩ := List.forall_mem_cons.mp h
    have hne : w.isEmpty = false := by simpa using hw.1
    cases ws with
    | nil =>
      unfold words
      simp [splitWith_self hw.2, hne]
    | cons v vs =>
      have hrest := ih hws
      unfold words at hrest ⊢
      rw [List.intersperse_cons_cons, List.flatten_cons, List.flatten_cons, List.singleton_append,
        splitWith_append hw.2 hblank, List.filter_cons_of_pos (by simp [hne]), hrest]

/-! ## lines -/

theorem not_isLineBreak_of_not_isBlank {c : Char} (h : isBlank c = false) :
    isLineBreak c = false := by
  simp only [isBlank, isSpace, isLineBreak, Bool.or_eq_false_iff, Bool.and_eq_false_iff,
    decide_eq_false_iff_not, beq_eq_false_iff_ne] at h ⊢
  omega

/-! ## lines -/

theorem lines_newline (cs : List Char) : lines ('\n' :: cs) = [] :: lines cs := by
  apply lines_break (by decide)
  intro t h
  exact absurd h (by decide)

theorem lines_cons {c : Char} (h : isLineBreak c = false) (cs : List Char) :
    lines (c :: cs) = match lines cs with
      | [] => [[c]]
      | l :: ls => (c :: l) :: ls := by
  rw [lines]
  · simp only [h]
    rfl
  · intro t hc
    rw [hc] at h
    exact absurd h (by decide)

theorem lines_line {l : List Char} (h : ∀ c ∈ l, isLineBreak c = false) (cs : List Char) :
    lines (l ++ '\n' :: cs) = l :: lines cs := by
  induction l with
  | nil => exact lines_newline cs
  | cons c l ih =>
    have hc : isLineBreak c = false := h c (List.mem_cons_self ..)
    have hl : ∀ d ∈ l, isLineBreak d = false := fun d hd => h d (List.mem_cons_of_mem _ hd)
    rw [List.cons_append, lines_cons hc, ih hl]

/-- **Lines without breaks in them are read back.** -/
theorem lines_ended {ls : List (List Char)} (h : ∀ l ∈ ls, ∀ c ∈ l, isLineBreak c = false) :
    lines (ls.flatMap fun l => l ++ ['\n']) = ls := by
  induction ls with
  | nil => exact lines_nil
  | cons l ls ih =>
    have hl : ∀ c ∈ l, isLineBreak c = false := h l (List.mem_cons_self ..)
    have hls : ∀ m ∈ ls, ∀ c ∈ m, isLineBreak c = false :=
      fun m hm => h m (List.mem_cons_of_mem _ hm)
    rw [List.flatMap_cons, List.append_assoc, List.singleton_append, lines_line hl, ih hls]

theorem lines_eq_singleton {l : List Char} (h : ∀ c ∈ l, isLineBreak c = false) (hne : l ≠ []) :
    lines l = [l] := by
  induction l with
  | nil => exact absurd rfl hne
  | cons c l ih =>
    have hc : isLineBreak c = false := h c (List.mem_cons_self ..)
    have hl : ∀ d ∈ l, isLineBreak d = false := fun d hd => h d (List.mem_cons_of_mem _ hd)
    rw [lines_cons hc]
    cases l with
    | nil => rw [lines_nil]
    | cons d l => rw [ih hl (List.cons_ne_nil d l)]

/-! ## texts around a line feed -/

theorem lines_crlf (cs : List Char) : lines ('\r' :: '\n' :: cs) = [] :: lines cs := by
  rw [lines]

theorem eq_nil_of_lines {cs : List Char} (h : lines cs = []) : cs = [] := by
  unfold lines at h
  split at h
  · rfl
  · cases h
  · split at h
    · cases h
    · split at h <;> cases h

theorem lines_break_append {c d : Char} (hc : isLineBreak c = true) (hd : c = '\r' → d ≠ '\n')
    (cs : List Char) : lines (c :: d :: cs) = [] :: lines (d :: cs) := by
  apply lines_break hc
  intro t hr e
  exact hd hr (List.cons.inj e).1

/-- **What comes after a line feed is cut into lines for itself**, and what stands before it as if
it were alone.  The line feed may only add an empty line between the two. -/
theorem lines_append_newline (a : List Char) : ∃ e, (e = [] ∨ e = [[]]) ∧
    ∀ b, lines (a ++ '\n' :: b) = lines a ++ e ++ lines b := by
  fun_induction lines a with
  | case1 => exact ⟨[[]], .inr rfl, lines_newline⟩
  | case2 a ih =>
    obtain ⟨e, he, h⟩ := ih
    refine ⟨e, he, fun b => ?_⟩
    show lines ('\r' :: '\n' :: (a ++ '\n' :: b)) = _
    rw [lines_crlf, h, List.cons_append, List.cons_append]
  | case3 c a hcr hc ih =>
    obtain ⟨e, he, h⟩ := ih
    cases a with
    | cons d a =>
      have hd : c = '\r' → d ≠ '\n' := by
        rintro hr rfl
        exact hcr a hr rfl
      refine ⟨e, he, fun b => ?_⟩
      show lines (c :: d :: (a ++ '\n' :: b)) = _
      rw [lines_break_append hc hd]
      exact congrArg ([] :: ·) (h b)
    | nil =>
      rw [lines_nil]
      by_cases hr : c = '\r'
      · subst hr
        exact ⟨[], .inl rfl, lines_crlf⟩
      · refine ⟨[[]], .inr rfl, fun b => ?_⟩
        show lines (c :: '\n' :: b) = _
        rw [lines_break_append hc (absurd · hr), lines_newline]
        rfl
  | case4 c a _ hc hn ih =>
    rw [eq_nil_of_lines hn]
    refine ⟨[], .inl rfl, fun b => ?_⟩
    show lines (c :: '\n' :: b) = _
    rw [lines_cons (Bool.eq_false_iff.mpr hc), lines_newline]
    rfl
  | case5 c a _ hc l ls hl ih =>
    obtain ⟨e, he, h⟩ := ih
    refine ⟨e, he, fun b => ?_⟩
    show lines (c :: (a ++ '\n' :: b)) = _
    rw [lines_cons (Bool.eq_false_iff.mpr hc), h, hl]
    rfl

/-! ## the first lines of a text -/

/-- the text up to the end of its line of the number; all of it if it has no more lines -/
def firstLines : Nat → List Char → List Char
  | 0, _ => []
  | _ + 1, [] => []
  | n + 1, '\r' :: '\n' :: cs => '\r' :: '\n' :: firstLines n cs
  | n + 1, c :: cs =>
    if isLineBreak c then c :: firstLines n cs else c :: firstLines (n + 1) cs

theorem firstLines_prefix (n : Nat) (cs : List Char) : firstLines n cs <+: cs := by
  fun_induction firstLines n cs with
  | case1 cs => exact List.nil_prefix
  | case2 n => exact List.nil_prefix
  | case3 n cs ih => exact (List.prefix_append_right_inj ['\r', '\n']).mpr ih
  | case4 n c cs _ _ ih => exact (List.prefix_cons_inj c).mpr ih
  | case5 n c cs _ _ ih => exact (List.prefix_cons_inj c).mpr ih

/-- **The first lines of a text are cut as they are in the whole.** -/
theorem lines_firstLines (n : Nat) (cs : List Char) :
    lines (firstLines n cs) = (lines cs).take n := by
  fun_induction firstLines n cs with
  | case1 cs => rw [lines_nil, List.take_zero]
  | case2 n => rw [lines_nil, List.take_nil]
  | case3 n cs ih => rw [lines_crlf, lines_crlf, List.take_succ_cons, ih]
  | case4 n c cs hcr hc ih =>
    have hcut : ∀ t, c = '\r' → firstLines n cs ≠ '\n' :: t := by
      rintro t rfl ht
      obtain ⟨u, hu⟩ := firstLines_prefix n cs
      rw [ht] at hu
      exact hcr _ rfl hu.symm
    rw [lines_break hc hcut, lines_break hc fun t hr ht => hcr t hr ht, List.take_succ_cons, ih]
  | case5 n c cs _ hc ih =>
    have hc : isLineBreak c = false := Bool.eq_false_iff.mpr hc
    rw [lines_cons hc, lines_cons hc, ih]
    cases lines cs with
    | nil => simp
    | cons l ls => rfl

/-! ## ends -/

theorem dropWhile_eq_self {p : Char → Bool} {cs : List Char} (h : ∀ c ∈ cs, p c = false) :
    cs.dropWhile p = cs := by
  cases cs with
  | nil => rfl
  | cons c cs => rw [List.dropWhile_cons_of_neg (by simp [h c (List.mem_cons_self ..)])]

theorem strip_eq_self {p : Char → Bool} {cs : List Char} (h : ∀ c ∈ cs, p c = false) :
    strip p cs = cs := by
  unfold strip
  rw [dropWhile_eq_self h, dropWhile_eq_self, List.reverse_reverse]
  intro c hc
  exact h c (List.mem_reverse.mp hc)

theorem strip_eq_nil {p : Char → Bool} {cs : List Char} (h : ∀ c ∈ cs, p c = true) :
    strip p cs = [] := by
  unfold strip
  rw [List.dropWhile_eq_nil_iff.mpr h]
  rfl

theorem head?_strip {p : Char → Bool} {c : Char} (h : p c = false) (cs : List Char) :
    (strip p (c :: cs)).head? = some c := by
  unfold strip
  rw [List.dropWhile_cons_of_neg (by simp [h]), List.head?_reverse, List.reverse_cons,
    List.dropWhile_append]
  split
  · simp [h]
  · simp

end Organism.Text
