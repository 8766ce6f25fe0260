import Organism.Proofs.Fallible
import Organism.Proofs.Number.Unit
import Organism.Sense.Host

/-!
# The baselines of the readings of the host

Counters of the host may move in any direction between two readings, be missing, or fail in the
middle of a reading.  In exact arithmetic every reading that is had is in its range all the same,
and its rates are those since the last reading of the family that had counters.

* `rateSince`            a rate from one count to a later one, 0 where there are not two;
* `Host.read_fault`      **readings fail where their counters do, or at a quotient that is too large**:
                         no division is by zero;
* `Reading.Ranged`       ratios and rates in the unit interval, a latency that is not negative;
* `Reading.Since`        rates since the given counts;
* `read_error`           **a reading that fails leaves the baselines as they were**;
* `lastDisk_readAll`, `lastNet_readAll`   the baselines after any sequence of readings: the counts
                         of the last one that had any;
* `Host.read_based`      **any reading after any others: divisions, ranges, rates and failures**.
-/

namespace Organism

attribute [local instance] Rounding.exact

/-! ## rates -/

/-- a rate from the first counts to the second; none where one of them is missing -/
def rateSince {α : Type} (rate : α → α → Rat) : Option α → Option α → Rat
  | some a, some b => rate a b
  | _, _ => 0

/-- a part of a whole, none of nothing, and no more than all -/
def shareOf (part whole : Int) : Rat := if 0 < whole then max 0 (min 1 (part / whole)) else 0

/-- milliseconds for each operation between two counts, none if none was finished -/
def DiskCounters.pace (a b : DiskCounters) : Rat :=
  if a.operations < b.operations then
    max 0 ((b.busy - a.busy : Int) / (b.operations - a.operations : Int))
  else 0

def NetCounters.share (count : NetCounters → Int) (a b : NetCounters) : Rat :=
  shareOf (count b - count a) (b.packets - a.packets)

theorem rateSince_cases {α : Type} {rate : α → α → Rat} {P : Rat → Prop} (h₀ : P 0)
    (h : ∀ a b, P (rate a b)) (a b : Option α) : P (rateSince rate a b) := by
  cases a with
  | none => exact h₀
  | some a =>
    cases b with
    | none => exact h₀
    | some b => exact h a b

theorem inUnit_shareOf (part whole : Int) : (Number.finite (shareOf part whole)).InUnit := by
  refine ⟨_, rfl, ?_⟩
  unfold shareOf
  split
  · exact ⟨le_max_left .., max_le zero_le_one (min_le_left ..)⟩
  · exact ⟨le_refl 0, zero_le_one⟩

theorem inUnit_share (count : NetCounters → Int) (a b : Option NetCounters) :
    (Number.finite (rateSince (NetCounters.share count) a b)).InUnit :=
  rateSince_cases (P := fun q => (Number.finite q).InUnit) Number.inUnit_zero
    (fun _ _ => inUnit_shareOf _ _) a b

theorem DiskCounters.pace_nonneg (a b : DiskCounters) : 0 ≤ a.pace b := by
  unfold pace
  split
  · exact le_max_left ..
  · exact le_refl 0

/-! ## divisions -/

namespace Host

variable {h : Host} {c : HostCounters}

theorem require_eq_ok {α : Type} {k : OrganKind} {counter : Except String α} {a : α}
    (h : require k counter = .ok a) : counter = .ok a := by
  cases counter with
  | error reason => cases h
  | ok b =>
    cases h
    rfl

theorem require_eq_error {α : Type} {k : OrganKind} {counter : Except String α} {e : Fault}
    (h : require k counter = .error e) : ∃ reason, e = .unavailable k.label reason := by
  cases counter with
  | error reason =>
    cases h
    exact ⟨reason, rfl⟩
  | ok b => cases h

section
variable [Rounding]

theorem quotient_fault {a b : Int} {e : Fault} (hb : 0 < b) (hq : quotient a b = .error e) :
    e = .quotientTooLarge := by
  unfold quotient at hq
  rw [if_neg hb.ne'] at hq
  dsimp only at hq
  split at hq
  · cases hq
  · exact (Except.error.inj hq).symm

theorem ratio_fault {part whole : Int} {e : Fault} (hr : ratio part whole = .error e) :
    e = .quotientTooLarge := by
  unfold ratio at hr
  split at hr
  · cases hr
  · next hwhole => exact quotient_fault (not_le.mp hwhole) (error_of_map hr)

theorem diskLatency_fault {last now : Option DiskCounters} {e : Fault}
    (hd : diskLatency last now = .error e) : e = .quotientTooLarge := by
  unfold diskLatency at hd
  split at hd
  · dsimp only at hd
    split at hd
    · next hpos => exact quotient_fault hpos (error_of_map hd)
    · cases hd
  · cases hd

theorem packetRatio_fault {count : NetCounters → Int} {last : Option NetCounters}
    {now : NetCounters} {e : Fault} (hp : packetRatio count last now = .error e) :
    e = .quotientTooLarge := by
  cases last with
  | none => cases hp
  | some a => exact ratio_fault hp

theorem readCpu_fault {e : Fault} (hr : h.readCpu c = .error e) :
    ∃ reason, e = .unavailable OrganKind.cortex.label reason := by
  rcases error_of_bind hr with hr | ⟨load, -, hr⟩
  · exact require_eq_error hr
  · rcases error_of_bind hr with hr | ⟨temperatures, -, hr⟩
    · exact require_eq_error hr
    · cases hr

theorem takeMemory_fault {e : Fault} (ht : h.takeMemory c = .error e) :
    (∃ reason, e = .unavailable OrganKind.memory.label reason) ∨ e = .quotientTooLarge := by
  rcases error_of_bind ht with ht | ⟨ram, -, ht⟩
  · exact .inl (require_eq_error ht)
  · rcases error_of_bind ht with ht | ⟨swap, -, ht⟩
    · exact .inl (require_eq_error ht)
    · rcases error_of_bind ht with ht | ⟨disk, -, ht⟩
      · exact .inl (require_eq_error ht)
      · rcases error_of_bind ht with ht | ⟨latency, -, ht⟩
        · exact .inr (diskLatency_fault ht)
        · cases ht

theorem memoryReading_fault {ram swap : Share} {latency : Number} {e : Fault}
    (hr : memoryReading ram swap latency = .error e) : e = .quotientTooLarge := by
  rcases error_of_bind hr with hr | ⟨ramUsed, -, hr⟩
  · exact ratio_fault hr
  · rcases error_of_bind hr with hr | ⟨swapUsed, -, hr⟩
    · exact ratio_fault hr
    · cases hr

theorem readMemory_fault {e : Fault} (hr : (h.readMemory c).1 = .error e) :
    (∃ reason, e = .unavailable OrganKind.memory.label reason) ∨ e = .quotientTooLarge := by
  unfold readMemory at hr
  cases ht : h.takeMemory c with
  | error e' =>
    rw [ht] at hr
    cases hr
    exact takeMemory_fault ht
  | ok taken =>
    rw [ht] at hr
    exact .inr (memoryReading_fault hr)

theorem readIo_fault {e : Fault} (hr : h.readIo c = .error e) :
    (∃ reason, e = .unavailable OrganKind.ioBridge.label reason) ∨ e = .quotientTooLarge := by
  rcases error_of_bind hr with hr | ⟨net, -, hr⟩
  · exact .inl (require_eq_error hr)
  · cases net with
    | none =>
      cases hr
      exact .inl ⟨_, rfl⟩
    | some net =>
      rcases error_of_bind hr with hr | ⟨loss, -, hr⟩
      · exact .inr (packetRatio_fault hr)
      · rcases error_of_bind hr with hr | ⟨errors, -, hr⟩
        · exact .inr (packetRatio_fault hr)
        · cases hr

/-- **A reading fails where its counters do, or at a quotient that is too large**, in any
arithmetic. -/
theorem read_fault {f : Family} {e : Fault} (hr : (h.read c f).1 = .error e) :
    (∃ reason, e = .unavailable f.organ.label reason) ∨ e = .quotientTooLarge := by
  cases f with
  | cpu => exact .inl (readCpu_fault (error_of_map hr))
  | memory => exact readMemory_fault (error_of_map hr)
  | io =>
    unfold read at hr
    dsimp only at hr
    split at hr
    · cases hr
    · next hi =>
      cases hr
      exact readIo_fault hi

end

/-! ## exact quotients -/

theorem quotient_eq (a : Int) {b : Int} (hb : 0 < b) : quotient a b = .ok (.finite (a / b)) :=
  if_neg hb.ne'

theorem ratio_eq (part whole : Int) : ratio part whole = .ok (.finite (shareOf part whole)) := by
  unfold ratio shareOf
  by_cases h : 0 < whole
  · rw [if_neg (not_le.mpr h), if_pos h, quotient_eq part h]
    exact congrArg Except.ok (Number.toUnit_finite _)
  · rw [if_pos (not_lt.mp h), if_neg h]
    rfl

theorem diskLatency_eq (last now : Option DiskCounters) :
    diskLatency last now = .ok (.finite (rateSince DiskCounters.pace last now)) := by
  cases last with
  | none => rfl
  | some a =>
    cases now with
    | none => rfl
    | some b =>
      unfold diskLatency rateSince DiskCounters.pace
      simp only [Int.sub_pos]
      split
      · next h =>
        rw [quotient_eq _ (Int.sub_pos.mpr h)]
        exact congrArg Except.ok (Number.larger_finite 0 _)
      · rfl

theorem packetRatio_eq (count : NetCounters → Int) (last : Option NetCounters)
    (now : NetCounters) : packetRatio count last now =
      .ok (.finite (rateSince (NetCounters.share count) last (some now))) := by
  cases last with
  | none => rfl
  | some a => exact ratio_eq _ _

end Host

/-! ## one reading -/

def Value.InUnit (v : Value) : Prop := ∃ x, v = .real x ∧ x.InUnit

def Reading.Ranged : Reading → Prop
  | .cpu r => r.load.InUnit
  | .memory r =>
    r.ramUsed.InUnit ∧ r.swapUsed.InUnit ∧ ∃ q : Rat, r.diskLatency = .real (.finite q) ∧ 0 ≤ q
  | .io r => r.packetLoss.InUnit ∧ r.errorRate.InUnit

/-- the rates of a reading with these counters are those since the given counts -/
def Reading.Since (c : HostCounters) (disk : Option DiskCounters) (net : Option NetCounters) :
    Reading → Prop
  | .cpu _ => True
  | .memory r =>
    r.diskLatency = .real (.finite (rateSince DiskCounters.pace disk c.disk.toOption.join))
  | .io r =>
    let rate (count : NetCounters → Int) :=
      Value.real (.finite (rateSince (NetCounters.share count) net c.net.toOption.join))
    r.packetLoss = rate NetCounters.dropped ∧ r.errorRate = rate NetCounters.bad

/-- a reading that was asked for: the counters of its time, and what came of it -/
structure Asked where
  counters : HostCounters
  family : Family
  result : Except Fault Reading

namespace Asked

def disk? : Asked → Option DiskCounters
  | ⟨c, .memory, .ok _⟩ => c.disk.toOption.join
  | _ => none

def net? : Asked → Option NetCounters
  | ⟨c, .io, .ok _⟩ => c.net.toOption.join
  | _ => none

end Asked

namespace Host

variable {h : Host} {c : HostCounters}

theorem readCpu_ok {r : CpuReading} (hr : h.readCpu c = .ok r) : r.load.InUnit := by
  obtain ⟨load, -, hr⟩ := ok_of_bind hr
  obtain ⟨temperatures, -, hr⟩ := ok_of_bind hr
  cases hr
  exact ⟨_, rfl, Number.inUnit_toUnit _⟩

theorem takeMemory_cases (h : Host) (c : HostCounters) :
    (∃ reason, h.takeMemory c = .error (.unavailable OrganKind.memory.label reason)) ∨
    ∃ ram swap, h.takeMemory c =
      .ok (ram, swap, .finite (rateSince DiskCounters.pace h.lastDisk c.disk.toOption.join),
        { h with lastDisk := c.disk.toOption.join.or h.lastDisk }) := by
  unfold takeMemory
  cases hram : require .memory c.ram with
  | error e =>
    obtain ⟨reason, rfl⟩ := require_eq_error hram
    exact .inl ⟨reason, rfl⟩
  | ok ram =>
    cases hswap : require .memory c.swap with
    | error e =>
      obtain ⟨reason, rfl⟩ := require_eq_error hswap
      exact .inl ⟨reason, rfl⟩
    | ok swap =>
      cases hdisk : require .memory c.disk with
      | error e =>
        obtain ⟨reason, rfl⟩ := require_eq_error hdisk
        exact .inl ⟨reason, rfl⟩
      | ok disk =>
        rw [require_eq_ok hdisk]
        show _ ∨ ∃ _ _, (diskLatency h.lastDisk disk >>= _) = _
        rw [diskLatency_eq]
        exact .inr ⟨ram, swap, rfl⟩

theorem memoryReading_eq (ram swap : Share) (latency : Number) :
    memoryReading ram swap latency = .ok {
      ramUsed := .real (.finite (shareOf (ram.total - ram.part) ram.total))
      swapUsed := .real (.finite (shareOf swap.part swap.total))
      pageFaults := .real 0
      diskLatency := .real latency } := by
  unfold memoryReading
  rw [ratio_eq, ratio_eq]
  rfl

theorem readMemory_cases (h : Host) (c : HostCounters) :
    (∃ reason, h.readMemory c = (.error (.unavailable OrganKind.memory.label reason), h)) ∨
    ∃ r, h.readMemory c =
        (.ok r, { h with lastDisk := c.disk.toOption.join.or h.lastDisk }) ∧
      (Reading.memory r).Ranged ∧ (Reading.memory r).Since c h.lastDisk h.lastNet := by
  unfold readMemory
  obtain ⟨reason, ht⟩ | ⟨ram, swap, ht⟩ := takeMemory_cases h c
  · rw [ht]
    exact .inl ⟨reason, rfl⟩
  · rw [ht]
    dsimp only
    rw [memoryReading_eq]
    exact .inr ⟨_, rfl, ⟨⟨_, rfl, inUnit_shareOf _ _⟩, ⟨_, rfl, inUnit_shareOf _ _⟩, _, rfl,
      rateSince_cases (P := (0 ≤ ·)) (le_refl 0) DiskCounters.pace_nonneg _ _⟩, rfl⟩

theorem readIo_cases (h : Host) (c : HostCounters) :
    (∃ reason, h.readIo c = .error (.unavailable OrganKind.ioBridge.label reason)) ∨
    ∃ r, h.readIo c = .ok (r, { h with lastNet := c.net.toOption.join.or h.lastNet }) ∧
      (Reading.io r).Ranged ∧ (Reading.io r).Since c h.lastDisk h.lastNet := by
  unfold readIo
  cases hnet : require .ioBridge c.net with
  | error e =>
    obtain ⟨reason, rfl⟩ := require_eq_error hnet
    exact .inl ⟨reason, rfl⟩
  | ok net =>
    cases net with
    | none => exact .inl ⟨_, rfl⟩
    | some net =>
      rw [require_eq_ok hnet]
      show _ ∨ ∃ _, (packetRatio _ h.lastNet net >>= fun _ => packetRatio _ h.lastNet net >>= _) =
        _ ∧ _
      rw [packetRatio_eq, packetRatio_eq]
      unfold Reading.Since
      rw [require_eq_ok hnet]
      exact .inr ⟨_, rfl, ⟨⟨_, rfl, inUnit_share _ _ _⟩, ⟨_, rfl, inUnit_share _ _ _⟩⟩, rfl, rfl⟩

/-- how a reading ends: unavailable with the host as it was, or had, in its range, with the rates
since the baselines, and with its own counts as the next baselines where it has any -/
theorem read_cases (h : Host) (c : HostCounters) (f : Family) :
    (∃ reason, h.read c f = (.error (.unavailable f.organ.label reason), h)) ∨
    ∃ r, h.read c f = (.ok r, { h with
        lastDisk := (Asked.disk? ⟨c, f, .ok r⟩).or h.lastDisk
        lastNet := (Asked.net? ⟨c, f, .ok r⟩).or h.lastNet }) ∧
      r.family = f ∧ r.Ranged ∧ r.Since c h.lastDisk h.lastNet := by
  cases f with
  | cpu =>
    simp only [read]
    cases hc : h.readCpu c with
    | error e =>
      obtain ⟨reason, rfl⟩ := readCpu_fault hc
      exact .inl ⟨reason, rfl⟩
    | ok r => exact .inr ⟨.cpu r, rfl, rfl, readCpu_ok hc, trivial⟩
  | memory =>
    simp only [read]
    obtain ⟨reason, hm⟩ | ⟨r, hm, hsound⟩ := readMemory_cases h c
    · rw [hm]
      exact .inl ⟨reason, rfl⟩
    · rw [hm]
      exact .inr ⟨.memory r, rfl, rfl, hsound⟩
  | io =>
    simp only [read]
    obtain ⟨reason, hi⟩ | ⟨r, hi, hsound⟩ := readIo_cases h c
    · rw [hi]
      exact .inl ⟨reason, rfl⟩
    · rw [hi]
      exact .inr ⟨.io r, rfl, rfl, hsound⟩

/-- **A reading that is had** is of its family, in its range, and has the rates since the
baselines. -/
theorem read_ok {f : Family} {r : Reading} (hr : (h.read c f).1 = .ok r) :
    r.family = f ∧ r.Ranged ∧ r.Since c h.lastDisk h.lastNet := by
  obtain ⟨reason, hread⟩ | ⟨r', hread, hsound⟩ := read_cases h c f
  · rw [hread] at hr
    cases hr
  · rw [hread] at hr
    cases hr
    exact hsound

/-- **A reading that fails is unavailable and leaves the baselines as they were.** -/
theorem read_error {f : Family} {e : Fault} (hr : (h.read c f).1 = .error e) :
    (∃ reason, e = .unavailable f.organ.label reason) ∧ (h.read c f).2 = h := by
  obtain ⟨reason, hread⟩ | ⟨r, hread, -⟩ := read_cases h c f
  · rw [hread] at hr ⊢
    cases hr
    exact ⟨⟨reason, rfl⟩, rfl⟩
  · rw [hread] at hr
    cases hr

/-! ## sequences of readings -/

def readAll (h : Host) : List (HostCounters × Family) → List Asked × Host
  | [] => ([], h)
  | (c, f) :: asks =>
    let (result, h) := h.read c f
    let (asked, h) := h.readAll asks
    (⟨c, f, result⟩ :: asked, h)

theorem baselines_read (h : Host) (c : HostCounters) (f : Family) :
    (h.read c f).2.lastDisk = (Asked.disk? ⟨c, f, (h.read c f).1⟩).or h.lastDisk ∧
      (h.read c f).2.lastNet = (Asked.net? ⟨c, f, (h.read c f).1⟩).or h.lastNet := by
  obtain ⟨reason, hread⟩ | ⟨r, hread, -⟩ := read_cases h c f
  · rw [hread]
    cases f <;> exact ⟨rfl, rfl⟩
  · rw [hread]
    exact ⟨rfl, rfl⟩

theorem getLast?_filterMap_cons {α β : Type} (tell : α → Option β) (a : α) (as : List α)
    (x : Option β) : ((a :: as).filterMap tell).getLast?.or x =
      (as.filterMap tell).getLast?.or ((tell a).or x) := by
  cases ha : tell a with
  | none => simp [ha]
  | some b =>
    cases hl : (as.filterMap tell).getLast? <;> simp [ha, List.getLast?_cons, hl]

theorem lastDisk_readAll (h : Host) (asks : List (HostCounters × Family)) :
    (h.readAll asks).2.lastDisk =
      ((h.readAll asks).1.filterMap Asked.disk?).getLast?.or h.lastDisk := by
  induction asks generalizing h with
  | nil => rfl
  | cons ask asks ih =>
    obtain ⟨c, f⟩ := ask
    show ((h.read c f).2.readAll asks).2.lastDisk = _
    rw [ih, (baselines_read h c f).1]
    exact (getLast?_filterMap_cons _ _ _ _).symm

theorem lastNet_readAll (h : Host) (asks : List (HostCounters × Family)) :
    (h.readAll asks).2.lastNet =
      ((h.readAll asks).1.filterMap Asked.net?).getLast?.or h.lastNet := by
  induction asks generalizing h with
  | nil => rfl
  | cons ask asks ih =>
    obtain ⟨c, f⟩ := ask
    show ((h.read c f).2.readAll asks).2.lastNet = _
    rw [ih, (baselines_read h c f).2]
    exact (getLast?_filterMap_cons _ _ _ _).symm

/-- **A reading after any others.**  None of its divisions is by zero, in any arithmetic; if it is
had, it is in its range, and its rates are those since the last reading of the family that was had
and had counters; if it fails, the host is as before. -/
theorem read_based (h : Host) (asks : List (HostCounters × Family)) (c : HostCounters)
    (f : Family) :
    let before := (h.readAll asks).1
    let g := (h.readAll asks).2
    (∀ [Rounding], (g.read c f).1 ≠ .error .divisionByZero) ∧
    (∀ r, (g.read c f).1 = .ok r → r.family = f ∧ r.Ranged ∧
      r.Since c ((before.filterMap Asked.disk?).getLast?.or h.lastDisk)
        ((before.filterMap Asked.net?).getLast?.or h.lastNet)) ∧
    ∀ e, (g.read c f).1 = .error e →
      (∃ reason, e = .unavailable f.organ.label reason) ∧ (g.read c f).2 = g := by
  intro before g
  refine ⟨fun hzero => ?_, fun r hr => ?_, fun e he => read_error he⟩
  · obtain ⟨reason, h⟩ | h := read_fault hzero
    · cases h
    · cases h
  · obtain ⟨hfamily, hranged, hsince⟩ := read_ok hr
    refine ⟨hfamily, hranged, ?_⟩
    rw [← lastDisk_readAll, ← lastNet_readAll]
    exact hsince

/-- four operations in twenty milliseconds, since counts with a failure and a gap after them -/
theorem read_based_gap :
    let counters (disk : Except String (Option DiskCounters)) : HostCounters :=
      { load := .ok 0, temperatures := .ok [], ram := .ok ⟨0, 0⟩, swap := .ok ⟨100, 25⟩, disk
        net := .ok none }
    let h : Host := { fallback := .real 50 }
    let asks := [(counters (.ok (some ⟨6, 4, 90, 10⟩)), Family.memory),
      (counters (.error "device is gone"), .memory), (counters (.ok none), .memory)]
    let c := counters (.ok (some ⟨8, 6, 100, 20⟩))
    let g := (h.readAll asks).2
    ∃ r : MemoryReading, (g.read c .memory).1 = .ok (.memory r) ∧ (Reading.memory r).Ranged ∧
      r.diskLatency = .real (.finite 5) := by
  intro counters h asks c g
  have hread : ∃ r, (g.read c .memory).1 = .ok (.memory r) := ⟨_, rfl⟩
  obtain ⟨r, hr⟩ := hread
  obtain ⟨-, hranged, hsince⟩ := (read_based h asks c .memory).2.1 _ hr
  have hpace : DiskCounters.pace ⟨6, 4, 90, 10⟩ ⟨8, 6, 100, 20⟩ = 5 := by decide +kernel
  exact ⟨r, hr, hranged, hsince.trans (congrArg (fun q => Value.real (.finite q)) hpace)⟩

end Host
end Organism
