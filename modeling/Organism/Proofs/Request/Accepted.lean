import Organism.Proofs.Health.Gradual
import Organism.Request

/-!
# Requests that are accepted

A request that is made of fields, or of a line, has what its operation needs.

* `is64_ofField?`, `is64_toNumber`   a numeral is a 64-bit number, and so is what a value is read as;
* `readAmount_ok`           an amount is a finite one;
* `Request.Accepted`        the request was made of fields that were all right;
* `Accepted.target`         **an accepted request for a change names an organ and a finite amount**;
* `accepted_ofLine`         the request of a line is an accepted one.
-/

namespace Organism

attribute [local instance] Rounding.binary64

/-! ## amounts -/

theorem is64_signed {x : Number} (h : x.Is64) (negative : Bool) : (signed negative x).Is64 := by
  unfold signed
  split
  · exact h.neg
  · exact h

theorem is64_readNamed? {cs : List Char} {x : Number} (h : readNamed? cs = some x) : x.Is64 := by
  unfold readNamed? at h
  dsimp only at h
  split at h
  · cases h
    exact Number.is64_infinite false
  · split at h
    · cases h
      exact Number.is64_nan
    · cases h

theorem is64_readNumeral? {cs : List Char} {x : Number} (h : readNumeral? cs = some x) :
    x.Is64 := by
  unfold readNumeral? at h
  dsimp only at h
  split at h
  · next y hy =>
    cases h
    exact is64_signed (is64_readNamed? hy) _
  · split at h
    · cases h
    · obtain ⟨e, -, rfl⟩ := Option.map_eq_some_iff.mp h
      exact is64_signed (Number.is64_number _) _

theorem is64_ofField? {s : String} {x : Number} (h : Number.ofField? s = some x) : x.Is64 := by
  unfold Number.ofField? at h
  dsimp only at h
  split at h
  · next y hy =>
    cases h
    exact is64_readNumeral? hy
  · split at h
    · cases h
    · exact is64_readNumeral? h

theorem is64_ofText? {s : String} {x : Number} (h : Number.ofText? s = some x) : x.Is64 := by
  unfold Number.ofText? at h
  dsimp only at h
  split at h
  · exact is64_readNumeral? h
  · cases h

theorem is64_ofBytes? {bs : List UInt8} {x : Number} (h : Number.ofBytes? bs = some x) :
    x.Is64 := by
  unfold Number.ofBytes? at h
  split at h
  · exact is64_ofText? h
  · cases h

theorem Quantity.is64_number {q : Quantity} {x : Number} (hq : ∀ y, q = .real y → y.Is64)
    (h : q.number = .ok x) : x.Is64 := by
  cases q with
  | flag b =>
    cases h
    cases b
    · exact Number.is64_zero
    · exact Number.is64_one
  | whole n =>
    unfold number at h
    dsimp only at h
    split at h
    · cases h
      exact Number.is64_round n
    · cases h
  | real y =>
    cases h
    exact hq x rfl

theorem Value.is64_toNumber {v : Value} {x : Number} (hv : ∀ y, v = .real y → y.Is64)
    (h : v.toNumber = .ok x) : x.Is64 := by
  rcases quantity_of_toNumber h with ⟨q, hq, hx⟩ | ⟨s, -, hs⟩ | ⟨bs, -, hbs⟩
  · refine q.is64_number (fun y hy => hv y ?_) hx
    rw [hy] at hq
    cases v <;> cases hq
    rfl
  · exact is64_ofText? hs
  · exact is64_ofBytes? hbs

namespace RequestFields

def Is64 (f : RequestFields) : Prop := ∀ x, f.amount = .real x → x.Is64

theorem is64_amountNumber {v : Value} {x : Number} (hv : ∀ y, v = .real y → y.Is64)
    (h : amountNumber v = .ok (some x)) : x.Is64 := by
  cases v with
  | none => cases h
  | flag b =>
    cases h
    cases b
    · exact Number.is64_zero
    · exact Number.is64_one
  | whole n =>
    unfold amountNumber at h
    dsimp only at h
    split at h
    · cases h
      exact Number.is64_round n
    · cases h
  | real y =>
    cases h
    exact hv x rfl
  | text s =>
    unfold amountNumber at h
    dsimp only at h
    cases hs : Number.ofField? s with
    | none =>
      rw [hs] at h
      cases h
    | some y =>
      rw [hs] at h
      cases h
      exact is64_ofField? hs
  | bytes bs =>
    unfold amountNumber at h
    dsimp only at h
    cases hs : (textOfBytes? bs).bind Number.ofField? with
    | none =>
      rw [hs] at h
      cases h
    | some y =>
      rw [hs] at h
      cases h
      obtain ⟨s, -, hs⟩ := Option.bind_eq_some_iff.mp hs
      exact is64_ofField? hs
  | list items => cases h
  | map entries => cases h

theorem readAmount_ok {v : Value} {x : Number} (hv : ∀ y, v = .real y → y.Is64)
    (h : readAmount v = .ok (some x)) : x.isFinite = true ∧ x.Is64 := by
  obtain ⟨amount, ha, h⟩ := ok_of_bind h
  cases amount with
  | none => cases h
  | some y =>
    dsimp only at h
    split at h
    · next hf =>
      cases h
      exact ⟨hf, is64_amountNumber hv ha⟩
    · cases h

theorem request_ok {f : RequestFields} {r : Request} (h : f.request = .ok r) :
    readAmount f.amount = .ok r.amount ∧ missing r = [] := by
  unfold request at h
  split at h
  · next op organ amount level path hop horgan hamount hlevel hpath =>
    dsimp only at h
    split at h
    · next hm =>
      cases h
      exact ⟨hamount, List.isEmpty_iff.mp hm⟩
    · cases h
  · cases h

end RequestFields

namespace Request

open RequestFields

variable {r : Request}

/-- the request was made of fields, with nothing to complain about -/
def Accepted (r : Request) : Prop := ∃ f : RequestFields, f.Is64 ∧ f.request = .ok r

/-- **An accepted request for a change of one health names the organ and a finite amount.** -/
theorem Accepted.target (h : r.Accepted) (hop : r.operation.needsOrgan = true) :
    ∃ k x, r.organ = some k ∧ r.amount = some x ∧ x.isFinite = true ∧ x.Is64 := by
  obtain ⟨f, h64, hr⟩ := h
  obtain ⟨hamount, hm⟩ := request_ok hr
  unfold missing at hm
  rw [hop, Bool.true_and] at hm
  cases hk : r.organ with
  | none =>
    rw [hk] at hm
    cases hm
  | some k =>
    cases hx : r.amount with
    | none =>
      rw [hk, hx] at hm
      cases hm
    | some x =>
      rw [hx] at hamount
      obtain ⟨hf, hx64⟩ := readAmount_ok h64 hamount
      exact ⟨k, x, rfl, rfl, hf, hx64⟩

theorem is64_lineFields {op : Operation} {head : String} {args : List String} {f : RequestFields}
    (h : lineFields op head args = .ok f) : f.Is64 := by
  intro x hx
  unfold lineFields at h
  dsimp only at h
  split at h
  · split at h
    · cases h
      cases hx
    · cases h
  · split at h
    · split at h
      · cases h
        cases hx
      · cases h
    · split at h
      · split at h
        · cases h
          split at hx <;> cases hx
        · cases h
          cases hx
      · cases h
        cases hx

/-- **The request of a line is an accepted one.** -/
theorem accepted_ofLine {line : String} (h : ofLine line = .ok r) : r.Accepted := by
  unfold ofLine at h
  split at h
  · cases h
  · dsimp only at h
    split at h
    · cases h
    · obtain ⟨f, hf, hr⟩ := ok_of_bind h
      exact ⟨f, is64_lineFields hf, hr⟩

end Request
end Organism
