import Organism.Proofs.Number.Plain
import Organism.Proofs.State.Load
import Organism.Proofs.Text.Lines
import Organism.Proofs.Text.Utf8

/-!
# The grammar of state files

A text can be read if each of its lines, trimmed, is spelled in one of the ways of `Line.Spelled`, if
at most one of them is the version and if no organ has two.  The reader goes through the lines one
after the other and stops at the first that is wrong; the grammar says nothing of an order.

* `Numeral.take?_eq_some_iff`, `readPlain?_eq_some_iff`   digits and point, and the sign before them;
* `readLine_eq_ok_iff`    one line, after the records so far;
* `readLines_eq_ok_iff`   a run of lines;
* `parsed_iff_spelled`    **a text or its bytes are read exactly if they are spelled so, and give the
                          healths of the organs that they name**.
-/

namespace Organism

open Text

/-! ## numerals -/

/-- how digits and point may stand; the point needs a digit on one side of it -/
inductive Numeral.Spelled : Numeral → List Char → Prop
  | whole {w : List Char} (hw : ∀ c ∈ w, isDigit c = true) (hne : w ≠ []) : Spelled ⟨w, []⟩ w
  | point {w p : List Char} (hw : ∀ c ∈ w, isDigit c = true) (hne : w ≠ [])
      (hp : ∀ c ∈ p, isDigit c = true) : Spelled ⟨w, p⟩ (w ++ '.' :: p)
  | front {p : List Char} (hp : ∀ c ∈ p, isDigit c = true) (hne : p ≠ []) :
      Spelled ⟨[], p⟩ ('.' :: p)

def Numeral.value (n : Numeral) : Rat := digitsValue (n.whole ++ n.part) / 10 ^ n.part.length

inductive SignSpelled : Bool → List Char → Prop
  | none : SignSpelled false []
  | plus : SignSpelled false ['+']
  | minus : SignSpelled true ['-']

/-- sign, digits and point, for the 64-bit number nearest to the value -/
def PlainSpelled (x : Number) (cs : List Char) : Prop :=
  ∃ negative sign n body, SignSpelled negative sign ∧ Numeral.Spelled n body ∧
    cs = sign ++ body ∧ x = signed negative (Binary64.round n.value)

namespace Numeral

theorem forall_takeWhile (p : Char → Bool) (cs : List Char) : ∀ c ∈ cs.takeWhile p, p c = true :=
  fun _ hc => List.mem_takeWhile_imp hc

theorem take?_of_spelled {n : Numeral} {cs : List Char} (h : n.Spelled cs) :
    take? isDigit cs = some (n, []) := by
  cases h with
  | whole hw hne => exact take?_whole hw hne
  | point hw hne hp => exact take?_point hw hp (.inl hne)
  | front hp hne => exact take?_point (a := []) (fun _ hc => nomatch hc) hp (.inr hne)

theorem spelled_of_take? {n : Numeral} {cs : List Char} (h : take? isDigit cs = some (n, [])) :
    n.Spelled cs := by
  have hcs : cs.takeWhile isDigit ++ cs.dropWhile isDigit = cs := List.takeWhile_append_dropWhile
  have hw : ∀ c ∈ cs.takeWhile isDigit, isDigit c = true := forall_takeWhile isDigit cs
  unfold take? at h
  generalize cs.takeWhile isDigit = w at h hcs hw
  generalize cs.dropWhile isDigit = rest at h hcs
  dsimp only at h
  split at h
  · next rest =>
    have hr : rest.takeWhile isDigit ++ rest.dropWhile isDigit = rest :=
      List.takeWhile_append_dropWhile
    have hp : ∀ c ∈ rest.takeWhile isDigit, isDigit c = true := forall_takeWhile isDigit rest
    split at h
    · cases h
    · next he =>
      simp only [Option.some.injEq, Prod.mk.injEq] at h
      obtain ⟨rfl, hd⟩ := h
      rw [hd, List.append_nil] at hr
      rw [hr] at hp he ⊢
      subst hcs
      rw [Bool.and_eq_true, List.isEmpty_iff, List.isEmpty_iff] at he
      by_cases hne : w = []
      · subst hne
        exact .front hp fun hn => he ⟨rfl, hn⟩
      · exact .point hw hne hp
  · split at h
    · cases h
    · next he =>
      simp only [Option.some.injEq, Prod.mk.injEq] at h
      obtain ⟨rfl, rfl⟩ := h
      rw [List.append_nil] at hcs
      subst hcs
      exact .whole hw fun hn => he (List.isEmpty_iff.mpr hn)

theorem take?_eq_some_iff {n : Numeral} {cs : List Char} :
    take? isDigit cs = some (n, []) ↔ n.Spelled cs :=
  ⟨spelled_of_take?, take?_of_spelled⟩

end Numeral

theorem takeSign_spelled (cs : List Char) :
    ∃ sign, SignSpelled (takeSign cs).1 sign ∧ cs = sign ++ (takeSign cs).2 := by
  unfold takeSign
  split
  · exact ⟨_, .plus, rfl⟩
  · exact ⟨_, .minus, rfl⟩
  · exact ⟨_, .none, rfl⟩

theorem takeSign_of_spelled {negative : Bool} {sign body : List Char} {n : Numeral}
    (hs : SignSpelled negative sign) (hn : n.Spelled body) :
    takeSign (sign ++ body) = (negative, body) := by
  cases hs with
  | plus => rfl
  | minus => rfl
  | none =>
    rw [List.nil_append]
    cases hn with
    | whole hw hne =>
      have h := takeSign_append (b := []) hw hne
      rwa [List.append_nil] at h
    | point hw hne hp => exact takeSign_append hw hne
    | front hp hne => rfl

attribute [local instance] Rounding.binary64

theorem Numeral.number_decimal (n : Numeral) : (n.decimal 0).number = Binary64.round n.value := by
  rw [Decimal.number_eq_round]
  congr 1
  show (digitsValue (n.whole ++ n.part) : Rat) * (10 : Rat) ^ ((0 : Int) - n.part.length) = _
  rw [zero_sub, zpow_neg, zpow_natCast, ← div_eq_mul_inv]
  rfl

theorem readPlain?_eq_some_iff {x : Number} {cs : List Char} :
    readPlain? cs = some x ↔ PlainSpelled x cs := by
  constructor
  · intro h
    unfold readPlain? at h
    obtain ⟨sign, hs, hcs⟩ := takeSign_spelled cs
    generalize takeSign cs = taken at h hs hcs
    obtain ⟨negative, body⟩ := taken
    dsimp only at h hs hcs
    split at h
    · next n ht =>
      cases h
      exact ⟨negative, sign, n, body, hs, Numeral.take?_eq_some_iff.mp ht, hcs,
        by rw [Numeral.number_decimal]⟩
    · cases h
  · rintro ⟨negative, sign, n, body, hs, hn, rfl, rfl⟩
    unfold readPlain?
    rw [takeSign_of_spelled hs hn]
    dsimp only
    rw [Numeral.take?_eq_some_iff.mpr hn, ← Numeral.number_decimal]

namespace State

/-! ## lines -/

inductive Line where
  | remark
  | version
  | health (k : OrganKind) (x : Number)
deriving DecidableEq

/-- how a trimmed line says it: blank or with a `#` in front, or with the key and the value around
the first `=` -/
inductive Line.Spelled : Line → List Char → Prop
  | blank : Spelled .remark []
  | comment (cs : List Char) : Spelled .remark ('#' :: cs)
  | version {left right : List Char} (hl : '=' ∉ left)
      (hk : strip isBlank left = "version".toList) (hv : strip isBlank right = ['1']) :
      Spelled .version (left ++ '=' :: right)
  | health {left right : List Char} {k : OrganKind} {x : Number} (hl : '=' ∉ left)
      (hk : strip isBlank left = k.label.toList) (hv : PlainSpelled x (strip isBlank right))
      (hx : x.isFinite = true) : Spelled (.health k x) (left ++ '=' :: right)

def Line.entry? : Line → Option (OrganKind × Number)
  | health k x => some (k, x.toUnit)
  | _ => none

def entries (ls : List Line) : List (OrganKind × Number) := ls.filterMap Line.entry?

/-- how a text says what its lines say: the version at most once, and no organ twice -/
structure Spelled (ls : List Line) (text : List Char) : Prop where
  lines : List.Forall₂ Line.Spelled ls ((Text.lines text).map (strip isBlank))
  version : ls.count .version ≤ 1
  organs : ((entries ls).map (·.1)).Nodup

theorem find?_eq_some_iff {key : List Char} {k : OrganKind} :
    Named.find? (String.ofList key) = some k ↔ key = k.label.toList := by
  constructor
  · intro h
    rw [OrganKind.label, Named.label_of_find? h, String.toList_ofList]
  · rintro rfl
    rw [String.ofList_toList]
    cases k <;> decide

theorem label_ne_versionKey (k : OrganKind) : k.label.toList ≠ versionKey := by
  cases k <;> decide

/-! ## one line -/

def Records.after (r : Records) (ls : List Line) : Records :=
  ⟨r.versioned || ls.contains .version, r.healths ++ entries ls⟩

/-- the lines repeat nothing, neither of the records so far nor among themselves -/
structure Records.Takes (r : Records) (ls : List Line) : Prop where
  version : ls.count .version + r.versioned.toNat ≤ 1
  organs : ((r.healths ++ entries ls).map (·.1)).Nodup

variable {r r' : Records}

@[simp] theorem entries_nil : entries [] = [] := rfl
@[simp] theorem entries_remark (ls : List Line) : entries (.remark :: ls) = entries ls := rfl
@[simp] theorem entries_version (ls : List Line) : entries (.version :: ls) = entries ls := rfl
@[simp] theorem entries_health (k : OrganKind) (x : Number) (ls : List Line) :
    entries (.health k x :: ls) = (k, x.toUnit) :: entries ls := rfl

@[simp] theorem Records.after_nil (r : Records) : r.after [] = r := by simp [Records.after]

theorem Records.after_remark (r : Records) : r.after [.remark] = r := by simp [Records.after]

theorem Records.after_version (r : Records) :
    r.after [.version] = { r with versioned := true } := by simp [Records.after]

theorem Records.after_health (r : Records) (k : OrganKind) (x : Number) :
    r.after [.health k x] = { r with healths := r.healths ++ [(k, x.toUnit)] } := by
  simp [Records.after]

theorem Records.after_cons (r : Records) (l : Line) (ls : List Line) :
    r.after (l :: ls) = (r.after [l]).after ls := by
  cases l <;> simp [Records.after, List.append_assoc]

theorem Records.takes_nil : r.Takes [] ↔ (r.healths.map (·.1)).Nodup := by
  have hv : r.versioned.toNat ≤ 1 := Bool.toNat_le _
  constructor
  · intro h
    simpa using h.organs
  · intro h
    exact ⟨by simpa using hv, by simpa using h⟩

theorem Records.organs_after (r : Records) (l : Line) (ls : List Line) :
    (r.after [l]).healths ++ entries ls = r.healths ++ entries (l :: ls) := by
  show r.healths ++ entries [l] ++ entries ls = _
  cases l <;> simp

theorem Records.versioned_after (r : Records) {l : Line}
    (h : [l].count .version + r.versioned.toNat ≤ 1) :
    (r.after [l]).versioned.toNat = [l].count .version + r.versioned.toNat := by
  cases l <;> cases hv : r.versioned <;> simp_all [Records.after]

theorem Records.takes_cons {l : Line} {ls : List Line} :
    r.Takes (l :: ls) ↔ r.Takes [l] ∧ (r.after [l]).Takes ls := by
  have hc : (l :: ls).count .version = [l].count .version + ls.count .version := by
    rw [← List.singleton_append, List.count_append]
  constructor
  · intro h
    have h1 := h.version
    rw [hc] at h1
    have hl : [l].count .version + r.versioned.toNat ≤ 1 := by omega
    refine ⟨⟨hl, ?_⟩, ?_, ?_⟩
    · refine h.organs.sublist (List.Sublist.map _ (List.Sublist.append_left ?_ _))
      cases l <;> simp
    · rw [versioned_after r hl]
      omega
    · rw [organs_after]
      exact h.organs
  · rintro ⟨hl, h⟩
    have h1 := h.version
    rw [versioned_after r hl.version] at h1
    refine ⟨by omega, ?_⟩
    rw [← organs_after]
    exact h.organs

theorem readVersion_eq_ok_iff {value : List Char} :
    readVersion r value = .ok r' ↔
      r.versioned = false ∧ value = version ∧ { r with versioned := true } = r' := by
  unfold readVersion
  cases r.versioned with
  | true => simp
  | false =>
    by_cases hv : value = version
    · simp [hv]
    · simp [hv]

theorem readHealth_eq_ok_iff {k : OrganKind} {value : List Char} :
    readHealth r k value = .ok r' ↔
      k ∉ r.healths.map (·.1) ∧ ∃ x, PlainSpelled x value ∧ x.isFinite = true ∧
        { r with healths := r.healths ++ [(k, x.toUnit)] } = r' := by
  have hk : (r.healths.any fun e => decide (e.1 = k)) = true ↔ k ∈ r.healths.map (·.1) := by
    simp
  unfold readHealth
  by_cases hm : k ∈ r.healths.map (·.1)
  · rw [if_pos (hk.mpr hm)]
    exact ⟨fun h => (nomatch h), fun h => absurd hm h.1⟩
  · rw [if_neg (mt hk.mp hm)]
    simp only [hm, not_false_eq_true, true_and, ← readPlain?_eq_some_iff]
    cases readPlain? value with
    | none => simp
    | some x =>
      by_cases hx : x.isFinite = true
      · simp [hx]
      · simp [hx]

theorem isRemark_iff {cs : List Char} : isRemark cs = true ↔ Line.Spelled .remark cs := by
  cases cs with
  | nil => exact ⟨fun _ => .blank, fun _ => rfl⟩
  | cons c cs =>
    constructor
    · intro h
      obtain rfl : c = '#' := eq_of_beq h
      exact .comment cs
    · intro h
      cases h
      rfl

theorem Line.Spelled.remark {l : Line} {cs : List Char} (h : l.Spelled cs)
    (hr : isRemark cs = true) : l = .remark := by
  have hash : ∀ {left right : List Char}, isRemark (left ++ '=' :: right) = true →
      (strip isBlank left).head? = some '#' := by
    intro left right hr
    cases left with
    | nil => exact nomatch (show ('=' == '#') = true from hr)
    | cons c left =>
      obtain rfl : c = '#' := eq_of_beq hr
      exact head?_strip (by decide) left
  cases h with
  | blank => rfl
  | comment => rfl
  | version _ hk _ =>
    have h := hash hr
    rw [hk] at h
    exact absurd h (by decide)
  | @health _ _ k _ _ hk _ _ =>
    have h := hash hr
    rw [hk] at h
    cases k <;> exact absurd h (by decide)

theorem Records.takes_remark (h : (r.healths.map (·.1)).Nodup) : r.Takes [.remark] := by
  have hv : r.versioned.toNat ≤ 1 := Bool.toNat_le _
  exact ⟨by simpa using hv, by simpa using h⟩

theorem Records.takes_version (h : (r.healths.map (·.1)).Nodup) :
    r.Takes [.version] ↔ r.versioned = false := by
  constructor
  · intro ht
    have hv := ht.version
    rw [List.count_singleton_self] at hv
    rw [← Bool.toNat_eq_zero]
    omega
  · intro hv
    exact ⟨by simp [hv], by simpa using h⟩

theorem Records.takes_health (h : (r.healths.map (·.1)).Nodup) {k : OrganKind} {x : Number} :
    r.Takes [.health k x] ↔ k ∉ r.healths.map (·.1) := by
  have hv : r.versioned.toNat ≤ 1 := Bool.toNat_le _
  constructor
  · intro ht
    exact (nodup_keys_append.mp ht.organs).2
  · intro hk
    exact ⟨by simpa using hv, nodup_keys_append.mpr ⟨h, hk⟩⟩

theorem readRecord_eq_ok_iff (hr : (r.healths.map (·.1)).Nodup) {line : List Char} :
    readRecord r line = .ok r' ↔
      ∃ l, l ≠ .remark ∧ Line.Spelled l line ∧ r.Takes [l] ∧ r.after [l] = r' := by
  constructor
  · intro h
    unfold readRecord at h
    split at h
    · cases h
    · next left right hs =>
      obtain ⟨hl, rfl⟩ := eq_of_splitRecord? hs
      dsimp only at h
      split at h
      · next hk =>
        obtain ⟨hv, hval, rfl⟩ := readVersion_eq_ok_iff.mp h
        exact ⟨.version, nofun, .version hl hk hval, (Records.takes_version hr).mpr hv,
          r.after_version⟩
      · split at h
        · cases h
        · next k hk =>
          obtain ⟨hm, x, hx, hf, rfl⟩ := readHealth_eq_ok_iff.mp h
          exact ⟨.health k x, nofun, .health hl (find?_eq_some_iff.mp hk) hx hf,
            (Records.takes_health hr).mpr hm, r.after_health k x⟩
  · rintro ⟨l, hne, hs, ht, rfl⟩
    cases hs with
    | blank => exact absurd rfl hne
    | comment => exact absurd rfl hne
    | @version left right hl hk hv =>
      have hk : strip isBlank left = versionKey := hk
      unfold readRecord
      rw [splitRecord?_append hl]
      dsimp only
      rw [if_pos hk, r.after_version]
      exact readVersion_eq_ok_iff.mpr ⟨(Records.takes_version hr).mp ht, hv, rfl⟩
    | @health _ _ k x hl hk hx hf =>
      unfold readRecord
      rw [splitRecord?_append hl]
      dsimp only
      rw [if_neg (hk ▸ label_ne_versionKey k), find?_eq_some_iff.mpr hk, r.after_health]
      exact readHealth_eq_ok_iff.mpr ⟨(Records.takes_health hr).mp ht, x, hx, hf, rfl⟩

/-- **A line is read exactly if it is spelled and repeats nothing.** -/
theorem readLine_eq_ok_iff (hr : (r.healths.map (·.1)).Nodup) {line : List Char} :
    readLine r line = .ok r' ↔
      ∃ l, Line.Spelled l (strip isBlank line) ∧ r.Takes [l] ∧ r.after [l] = r' := by
  unfold readLine
  dsimp only
  generalize strip isBlank line = trimmed
  by_cases hm : isRemark trimmed = true
  · rw [if_pos hm]
    constructor
    · intro h
      cases h
      exact ⟨.remark, isRemark_iff.mp hm, Records.takes_remark hr, r.after_remark⟩
    · rintro ⟨l, hl, -, rfl⟩
      rw [hl.remark hm, r.after_remark]
  · rw [if_neg hm, readRecord_eq_ok_iff hr]
    constructor
    · rintro ⟨l, -, h⟩
      exact ⟨l, h⟩
    · rintro ⟨l, hl, h⟩
      refine ⟨l, ?_, hl, h⟩
      rintro rfl
      exact hm (isRemark_iff.mpr hl)

/-- **Lines are read exactly if each is spelled and none repeats another.** -/
theorem readLines_eq_ok_iff {n : Nat} (hr : (r.healths.map (·.1)).Nodup)
    {raw : List (List Char)} :
    readLines n r raw = .ok r' ↔
      ∃ ls, List.Forall₂ Line.Spelled ls (raw.map (strip isBlank)) ∧ r.Takes ls ∧
        r.after ls = r' := by
  induction raw generalizing n r with
  | nil =>
    show Except.ok r = Except.ok r' ↔ _
    simp [Records.takes_nil, hr]
  | cons line raw ih =>
    rw [readLines]
    constructor
    · intro h
      cases hl : readLine r line with
      | error e =>
        rw [hl] at h
        cases h
      | ok r1 =>
        rw [hl] at h
        obtain ⟨l, hs, ht, rfl⟩ := (readLine_eq_ok_iff hr).mp hl
        obtain ⟨ls, hss, hts, rfl⟩ := (ih ht.organs).mp h
        exact ⟨l :: ls, .cons hs hss, Records.takes_cons.mpr ⟨ht, hts⟩, r.after_cons l ls⟩
    · rintro ⟨ls, hf, ht, rfl⟩
      cases hf with
      | cons hs hss =>
        next l ls =>
        obtain ⟨htl, hts⟩ := Records.takes_cons.mp ht
        rw [(readLine_eq_ok_iff hr).mpr ⟨l, hs, htl, rfl⟩]
        dsimp only
        exact (ih htl.organs).mpr ⟨ls, hss, hts, (r.after_cons l ls).symm⟩

/-! ## texts -/

theorem parse_eq_ok_iff {text : List Char} {m : List (OrganKind × Number)} :
    parse text = .ok m ↔ ∃ ls, Spelled ls text ∧ entries ls = m := by
  have hr : ((({} : Records).healths).map (·.1)).Nodup := List.nodup_nil
  unfold parse
  constructor
  · intro h
    cases hl : readLines 1 {} (Text.lines text) with
    | error e =>
      rw [hl] at h
      cases h
    | ok r =>
      rw [hl] at h
      cases h
      obtain ⟨ls, hs, ht, rfl⟩ := (readLines_eq_ok_iff hr).mp hl
      exact ⟨ls, ⟨hs, ht.version, ht.organs⟩, rfl⟩
  · rintro ⟨ls, hs, rfl⟩
    rw [(readLines_eq_ok_iff hr).mpr ⟨ls, hs.lines, ⟨hs.version, hs.organs⟩, rfl⟩]
    rfl

/-- **A state is read exactly if it is spelled.**  What is read are the healths of the organs that
the lines name and nothing else; whatever is not spelled so is an error of the state file, and the
bytes of a text are read like the text. -/
theorem parsed_iff_spelled (s : Source) :
    (∀ m, s.parsed = .ok m ↔
      ∃ text ls, s.content = .ok text ∧ Spelled ls text ∧ m = entries ls) ∧
    ((∃ e, s.parsed = .error e) ↔ ¬ ∃ text ls, s.content = .ok text ∧ Spelled ls text) ∧
    ∀ text, (Source.bytes (Utf8.encode text)).content = .ok text := by
  have hok : ∀ m, s.parsed = .ok m ↔
      ∃ text ls, s.content = .ok text ∧ Spelled ls text ∧ m = entries ls := by
    intro m
    rw [Source.parsed_eq]
    cases s.content with
    | error e =>
      constructor
      · intro h
        cases h
      · rintro ⟨text, ls, h, -⟩
        cases h
    | ok text =>
      show parse text = .ok m ↔ _
      rw [parse_eq_ok_iff]
      constructor
      · rintro ⟨ls, hs, rfl⟩
        exact ⟨text, ls, rfl, hs, rfl⟩
      · rintro ⟨_, ls, h, hs, rfl⟩
        cases h
        exact ⟨ls, hs, rfl⟩
  refine ⟨hok, ?_, ?_⟩
  · constructor
    · rintro ⟨e, he⟩ ⟨text, ls, hc, hs⟩
      have h := (hok _).mpr ⟨text, ls, hc, hs, rfl⟩
      rw [he] at h
      cases h
    · intro hn
      cases hp : s.parsed with
      | error e => exact ⟨e, rfl⟩
      | ok m =>
        obtain ⟨text, ls, hc, hs, -⟩ := (hok m).mp hp
        exact absurd ⟨text, ls, hc, hs⟩ hn
  · intro text
    show (Utf8.decode (Utf8.encode text)).mapError _ = _
    rw [Utf8.decode_encode]
    rfl

/-- a remark, digits of another script, and a health above the range of healths -/
example :
    parse "# state\n version = 1\ncortex=+\u0661.\u0665\r\nmemory = -.5 \n".toList
      = .ok [(.cortex, .finite 1), (.memory, .finite 0)] := by
  decide +kernel

end State
end Organism
