import Organism.Proofs.Text.Lines
import Organism.State.Record

/-!
# Where a state file is wrong

The lines of a text are read one after the other, and what was read so far is all that the next line
can be held against.  So a text is refused for its first wrong line: the text before that line could
be read, and nothing that comes after it is ever looked at.

* `readLines_append`      a run of lines, and the lines after it;
* `readLines_error`       **the error of a run of lines is that of one line**, to which the lines
                          before it led;
* `readLines_stops`       whatever lines come after it;
* `refused_at_first_wrong_line`   the same of texts.
-/

namespace Organism.State

section
variable [Rounding] {r : Records} {e : StateError}

/-! ## runs of lines -/

theorem readLines_append (n : Nat) (r : Records) (a b : List (List Char)) :
    readLines n r (a ++ b) = readLines n r a >>= fun r' => readLines (n + a.length) r' b := by
  induction a generalizing n r with
  | nil => rfl
  | cons line a ih =>
    rw [List.cons_append, readLines, readLines]
    cases readLine r line with
    | error cause => rfl
    | ok r' =>
      dsimp only
      rw [ih, List.length_cons, Nat.add_right_comm, Nat.add_assoc]

theorem readLines_of_append {n : Nat} {a b : List (List Char)} {r' : Records}
    (h : readLines n r (a ++ b) = .ok r') : ∃ s, readLines n r a = .ok s := by
  rw [readLines_append] at h
  cases ha : readLines n r a with
  | error e =>
    rw [ha] at h
    cases h
  | ok s => exact ⟨s, rfl⟩

/-- **The error of a run of lines is that of one line**: the lines before it can be read, it is wrong
after them, and the error bears its number. -/
theorem readLines_error {n : Nat} {ls : List (List Char)} (h : readLines n r ls = .error e) :
    ∃ before line after r' cause, ls = before ++ line :: after ∧
      readLines n r before = .ok r' ∧ readLine r' line = .error cause ∧
      e = ⟨some (n + before.length), cause⟩ := by
  induction ls generalizing n r with
  | nil => cases h
  | cons line rest ih =>
    rw [readLines] at h
    cases hl : readLine r line with
    | error cause =>
      rw [hl] at h
      cases h
      exact ⟨[], line, rest, r, cause, rfl, rfl, hl, rfl⟩
    | ok s =>
      rw [hl] at h
      obtain ⟨before, wrong, after, r', cause, rfl, hbefore, hwrong, rfl⟩ := ih h
      refine ⟨line :: before, wrong, after, r', cause, rfl, ?_, hwrong, ?_⟩
      · rw [readLines, hl]
        exact hbefore
      · rw [List.length_cons, Nat.add_right_comm, Nat.add_assoc]

theorem readLines_stops {n : Nat} {before : List (List Char)} {line : List Char} {r' : Records}
    {cause : StateCause} (hbefore : readLines n r before = .ok r')
    (hline : readLine r' line = .error cause) (after : List (List Char)) :
    readLines n r (before ++ line :: after) = .error ⟨some (n + before.length), cause⟩ := by
  rw [readLines_append, hbefore]
  show readLines _ r' (line :: after) = _
  rw [readLines, hline]

/-! ## texts -/

/-- **A text is refused at its first wrong line.**  The error bears the number of a line of the text;
a text of the lines before it, or of the first of them, can be read; and a text that begins with the
lines up to it is refused with the same error, whatever lines it has after them. -/
theorem refused_at_first_wrong_line {text : List Char} (h : parse text = .error e) :
    ∃ n, e.line = some n ∧ 1 ≤ n ∧ n ≤ (Text.lines text).length ∧
      (∃ m, parse (Text.firstLines (n - 1) text) = .ok m) ∧
      parse (Text.firstLines n text) = .error e ∧
      (∀ y, Text.lines y <+: (Text.lines text).take (n - 1) → ∃ m, parse y = .ok m) ∧
      ∀ y, (Text.lines text).take n <+: Text.lines y → parse y = .error e := by
  have hlines : readLines 1 {} (Text.lines text) = .error e := by
    unfold parse at h
    cases hr : readLines 1 {} (Text.lines text) with
    | error e' =>
      rw [hr] at h
      cases h
      rfl
    | ok r =>
      rw [hr] at h
      cases h
  obtain ⟨before, line, after, r, cause, htext, hbefore, hline, rfl⟩ := readLines_error hlines
  have htake : (Text.lines text).take before.length = before := by
    rw [htext, List.take_left]
  have htake' : (Text.lines text).take (1 + before.length) = before ++ [line] := by
    rw [htext, ← List.singleton_append, ← List.append_assoc, Nat.add_comm]
    exact List.take_left' (List.length_append.trans rfl)
  have hread : ∀ y, Text.lines y <+: (Text.lines text).take before.length →
      ∃ m, parse y = .ok m := by
    rintro y ⟨rest, hy⟩
    rw [htake] at hy
    rw [← hy] at hbefore
    obtain ⟨s, hs⟩ := readLines_of_append hbefore
    refine ⟨s.healths, ?_⟩
    unfold parse
    rw [hs]
    rfl
  have hrefused : ∀ y, (Text.lines text).take (1 + before.length) <+: Text.lines y →
      parse y = .error ⟨some (1 + before.length), cause⟩ := by
    rintro y ⟨rest, hy⟩
    rw [htake', List.append_assoc, List.singleton_append] at hy
    unfold parse
    rw [← hy, readLines_stops hbefore hline]
    rfl
  refine ⟨1 + before.length, rfl, Nat.le_add_right 1 _, ?_, ?_, ?_, ?_, hrefused⟩
  · rw [htext, List.length_append, List.length_cons]
    omega
  · rw [Nat.add_sub_cancel_left]
    exact hread _ (Text.lines_firstLines _ text ▸ List.prefix_rfl)
  · exact hrefused _ (Text.lines_firstLines _ text ▸ List.prefix_rfl)
  · rw [Nat.add_sub_cancel_left]
    exact hread

end

attribute [local instance] Rounding.binary64

/-- the second record of an organ is the fourth line, and the fifth is wrong as well -/
theorem refused_at_first_wrong_line_fourth :
    let text := "# state\n\r\ncortex=0.5\n cortex = 1 \nliver=1".toList
    parse text = .error ⟨some 4, .secondRecord .cortex⟩ ∧
      parse "# state\n\r\ncortex=0.5\n cortex = 1 \nversion=1\n".toList =
        .error ⟨some 4, .secondRecord .cortex⟩ ∧
      ∃ m, parse "# state\n\ncortex=0.5".toList = .ok m := by
  intro text
  have h : parse text = .error ⟨some 4, .secondRecord .cortex⟩ := by decide +kernel
  obtain ⟨n, hn, -, -, -, -, hread, hrefused⟩ := refused_at_first_wrong_line h
  cases hn
  exact ⟨h, hrefused _ (by decide +kernel), hread _ (by decide +kernel)⟩

end Organism.State
