import Organism.Proofs.Health.Monotone

/-!
# What the penalties list

A signal is listed among the penalties if it is adverse, whatever it may cost.  Its entry is a share
of the greatest penalty in force.  Where settings name a greatest penalty that is not above 0, the
adverse signal is listed all the same, with an entry of 0: the penalties are not empty then, so an
organ that loses nothing does not recover either.  Apart from such signals the penalties are the
adverse signals, with entries above 0, and there is recovery if and only if they add up to 0.

* `Limits.inForce`       the greatest penalty of a rule, wherever it is named;
* `Adverse`              values above their thresholds, which is where the severity begins;
* `Limits.Entry`         the entry of an adverse signal, a share of its greatest penalty or 0;
* `total_eq_zero`        penalties add up to 0 only if each of them is 0;
* `Limits.ListsCosts`    penalties that list what costs something, and leave the rest to recovery;
* `penalties_listed`     **the adverse signals have entries, in their order, and which are 0**.
-/

namespace Organism

attribute [local instance] Rounding.exact

/-! ## greatest penalties -/

/-- the greatest penalty of the rule, from the settings or its own; `nan` if that is no quantity -/
def Limits.inForce (l : Limits) (rule : Rule) : Number :=
  ((l.maxPenalty rule.name (.real rule.maxPenalty)).toOption.bind Value.quantity?).elim .nan
    Quantity.exact

theorem Limits.Charges.eq_inForce {l : Limits} {rule : Rule} {most : Number}
    (h : l.Charges rule most) : most = if 0 < l.inForce rule then l.inForce rule else 0 := by
  obtain ⟨v, q, y, hv, hq, hy, rfl⟩ := h
  rw [Quantity.number_exact] at hy
  obtain rfl : q.exact = y := Except.ok.inj hy
  have hforce : l.inForce rule = q.exact := by
    unfold inForce
    rw [hv]
    show (v.quantity?).elim _ _ = _
    rw [hq]
    rfl
  rw [hforce]
  rfl

/-! ## adverse signals -/

def Adverse (s : Rule × Value) : Prop := ∃ x, s.2.toNumber = .ok x ∧ s.1.threshold < x

theorem adverse_iff {s : Rule × Value} {x : Number} (h : s.2.toNumber = .ok x) :
    Adverse s ↔ s.1.threshold < x := by
  unfold Adverse
  simp only [h, Except.ok.injEq, exists_eq_left']

instance : DecidablePred Adverse := fun s =>
  match h : s.2.toNumber with
  | .ok x => decidable_of_iff (s.1.threshold < x) (adverse_iff h).symm
  | .error _ => isFalse (by simp [Adverse, h])

def Reading.adverse (r : Reading) : List (Rule × Value) := r.signals.filter (Adverse ·)

theorem Rule.severity_pos {rule : Rule} (hrule : rule.IsMeasure) {x : Number}
    (hx : x.isFinite = true) : 0 < rule.severity x ↔ rule.threshold < x := by
  obtain ⟨hf, hv⟩ := value_severity hrule hx
  rw [Number.lt_iff_value rfl hf, hv, Number.lt_iff_value hrule.1 hx]
  show (0 : Rat) < _ ↔ _
  rw [lt_min_iff, lt_max_iff, div_pos_iff_of_pos_right hrule.2.2, sub_pos]
  simp

theorem Reading.nodup_names (r : Reading) : (r.signals.map (·.1.name)).Nodup := by
  cases r with
  | cpu => exact (by decide : ["cpu_temp_c", "cpu_load", "throttling_events", "gpu_mem_util"].Nodup)
  | memory =>
    exact (by decide :
      ["ram_used_ratio", "swap_used_ratio", "major_page_faults", "disk_latency_ms"].Nodup)
  | io =>
    exact (by decide :
      ["net_packet_loss", "net_latency_ms", "io_queue_depth", "io_error_rate"].Nodup)

/-! ## entries -/

/-- the entry of an adverse signal: a positive share of the greatest penalty in force, or 0 where
that is not positive -/
structure Limits.Entry (l : Limits) (s : Rule × Value) (p : String × Number) : Prop where
  name : p.1 = s.1.name
  share : 0 < l.inForce s.1 → 0 < p.2 ∧ p.2 ≤ l.inForce s.1
  free : ¬ 0 < l.inForce s.1 → p.2 = 0

theorem Limits.Entry.eq_zero_iff {l : Limits} {s : Rule × Value} {p : String × Number}
    (h : l.Entry s p) : p.2 = 0 ↔ ¬ 0 < l.inForce s.1 := by
  refine ⟨fun hzero hpos => ?_, h.free⟩
  have hshare := (h.share hpos).1
  rw [hzero] at hshare
  exact absurd hshare (by decide)

theorem Number.share_pos {p : Rat} (h0 : 0 < p) (h1 : p ≤ 1) {most : Number} (hm : 0 < most) :
    0 < finite p * most ∧ finite p * most ≤ most := by
  cases most with
  | nan => cases hm
  | infinite s =>
    cases s with
    | false =>
      rw [mul_infinite h0]
      exact ⟨rfl, rfl⟩
    | true => cases hm
  | minusZero => exact absurd hm (by decide)
  | finite m =>
    have hpos : 0 < m := (lt_finite 0 m).mp hm
    rw [finite_mul h0.le hpos.le]
    exact ⟨(lt_finite 0 _).mpr (mul_pos h0 hpos),
      (le_finite _ _).mpr (mul_le_of_le_one_left hpos.le h1)⟩

theorem Limits.Charges.entry {l : Limits} {s : Rule × Value} {most : Number}
    (h : l.Charges s.1 most) (hrule : s.1.IsMeasure) {x : Number} (hx : x.isFinite = true)
    (hs : 0 < s.1.severity x) : l.Entry s (s.1.name, s.1.severity x * most) := by
  have hvalue := (Rule.value_severity hrule hx).2
  obtain ⟨p, hp, h0⟩ : ∃ p, s.1.severity x = .finite p ∧ 0 < p := pos_clipUnit hs
  rw [hp] at hvalue ⊢
  have h1 : p ≤ 1 := (le_of_eq hvalue).trans (min_le_right _ _)
  refine ⟨rfl, fun hpos => ?_, fun hfree => ?_⟩
  · rw [h.eq_inForce, if_pos hpos]
    exact Number.share_pos h0 h1 hpos
  · rw [h.eq_inForce, if_neg hfree]
    show Number.finite p * .finite 0 = .finite 0
    rw [Number.finite_mul h0.le (le_refl 0), mul_zero]

theorem Limits.entries_flatten {l : Limits} {most : Rule → Number}
    (h : ∀ rule, l.Charges rule (most rule)) {ss : List (Rule × Value)}
    {found : List (List (String × Number))} (hs : List.Forall₂ (Charged most) ss found)
    (hmeasure : ∀ s ∈ ss, s.1.IsMeasure) :
    List.Forall₂ l.Entry (ss.filter (Adverse ·)) found.flatten := by
  induction hs with
  | nil => exact .nil
  | @cons s ps ss found hps hs ih =>
    obtain ⟨x, hx, hf, rfl⟩ := hps
    have hrest := ih fun t ht => hmeasure t (.tail _ ht)
    have hrule := hmeasure s (.head _)
    have hadverse : Adverse s ↔ 0 < s.1.severity x := by
      rw [adverse_iff hx, Rule.severity_pos hrule hf]
    rw [List.flatten_cons]
    unfold Rule.charge
    by_cases hpos : 0 < s.1.severity x
    · rw [List.filter_cons_of_pos (by simpa using hadverse.mpr hpos), if_pos hpos]
      exact .cons ((h s.1).entry hrule hf hpos) hrest
    · rw [List.filter_cons_of_neg (by simpa using mt hadverse.mp hpos), if_neg hpos]
      exact hrest

/-! ## sums -/

namespace Number

theorem IsNonneg.add_eq_zero {x y : Number} (hx : x.IsNonneg) (hy : y.IsNonneg) :
    x + y = 0 ↔ x = 0 ∧ y = 0 := by
  rcases hx with rfl | ⟨p, rfl, hp⟩
  · rcases hy with rfl | ⟨q, rfl, -⟩ <;> exact iff_of_false nofun fun h => nomatch h.1
  · rcases hy with rfl | ⟨q, rfl, hq⟩
    · exact iff_of_false nofun fun h => nomatch h.2
    · show finite (p + q) = finite 0 ↔ finite p = finite 0 ∧ finite q = finite 0
      simp only [finite.injEq]
      exact add_eq_zero_iff_of_nonneg hp hq

theorem foldl_eq_zero {xs : List Number} (h : ∀ x ∈ xs, x.IsNonneg) {a : Number}
    (ha : a.IsNonneg) : xs.foldl (· + ·) a = 0 ↔ a = 0 ∧ ∀ x ∈ xs, x = 0 := by
  induction xs generalizing a with
  | nil => simp
  | cons x xs ih =>
    obtain ⟨hx, hxs⟩ := List.forall_mem_cons.mp h
    rw [List.foldl_cons, ih hxs (ha.add hx), ha.add_eq_zero hx, List.forall_mem_cons, and_assoc]

theorem total_eq_zero {xs : List Number} (h : ∀ x ∈ xs, x.IsNonneg) :
    total xs = 0 ↔ ∀ x ∈ xs, x = 0 :=
  (foldl_eq_zero h isNonneg_zero).trans (and_iff_right rfl)

end Number

/-! ## the list -/

/-- the penalties list the adverse signals that cost something, with entries up to their greatest
penalties, and where they add up to 0 there is recovery -/
structure Limits.ListsCosts (l : Limits) (r : Reading) (ps : List (String × Number)) : Prop where
  keys : ∀ name, name ∈ ps.map (·.1) ↔
    ∃ s ∈ r.signals, s.1.name = name ∧ Adverse s ∧ 0 < l.inForce s.1
  bounds : ∀ s ∈ r.signals, ∀ p ∈ ps, p.1 = s.1.name → 0 < p.2 ∧ p.2 ≤ l.inForce s.1
  recovers : Number.total (ps.map (·.2)) = 0 → ∀ p, l.recoveryStep.quantity? = some p →
    ∀ c : Number, c.InUnit → l.next r.organ r c = .ok (.finite (min (c.value + p.exact.value) 1))

theorem exists_of_forall₂ {α β : Type} {R : α → β → Prop} {as : List α} {bs : List β}
    (h : List.Forall₂ R as bs) {b : β} (hb : b ∈ bs) : ∃ a ∈ as, R a b := by
  induction h with
  | nil => cases hb
  | cons hR _ ih =>
    rcases List.mem_cons.mp hb with rfl | hb
    · exact ⟨_, .head _, hR⟩
    · obtain ⟨a, ha, hR⟩ := ih hb
      exact ⟨a, .tail _ ha, hR⟩

namespace Limits

section
variable {l : Limits} {ss : List (Rule × Value)} {ps : List (String × Number)}
  (h : List.Forall₂ l.Entry ss ps)
include h

theorem entries_names : ps.map (·.1) = ss.map (·.1.name) := by
  induction h with
  | nil => rfl
  | cons he _ ih => rw [List.map_cons, List.map_cons, he.name, ih]

theorem entries_zero : (∀ p ∈ ps, p.2 = 0) ↔ ∀ s ∈ ss, ¬ 0 < l.inForce s.1 := by
  induction h with
  | nil => simp
  | cons he _ ih => rw [List.forall_mem_cons, List.forall_mem_cons, he.eq_zero_iff, ih]

end

section
variable {l : Limits} {r : Reading} {ps : List (String × Number)}
  (h : List.Forall₂ l.Entry r.adverse ps)
include h

/-- one entry of 0 is enough not to be a list of costs -/
theorem ListsCosts.pos (hl : l.ListsCosts r ps) : ∀ s ∈ r.adverse, 0 < l.inForce s.1 := by
  intro s hs
  obtain ⟨p, hp, he⟩ := exists_of_forall₂ h.flip hs
  by_contra hfree
  have hpos := (hl.bounds s (List.mem_of_mem_filter hs) p hp he.name).1
  rw [he.free hfree] at hpos
  exact absurd hpos (by decide)

theorem mem_names (hpos : ∀ s ∈ r.adverse, 0 < l.inForce s.1) (name : String) :
    name ∈ ps.map (·.1) ↔ ∃ s ∈ r.signals, s.1.name = name ∧ Adverse s ∧ 0 < l.inForce s.1 := by
  rw [entries_names h, List.mem_map]
  constructor
  · rintro ⟨s, hs, hname⟩
    obtain ⟨hmem, hadverse⟩ := List.mem_filter.mp hs
    exact ⟨s, hmem, hname, of_decide_eq_true hadverse, hpos s hs⟩
  · rintro ⟨s, hs, hname, hadverse, -⟩
    exact ⟨s, List.mem_filter.mpr ⟨hs, decide_eq_true hadverse⟩, hname⟩

theorem entries_bounded (hpos : ∀ s ∈ r.adverse, 0 < l.inForce s.1) :
    ∀ s ∈ r.signals, ∀ p ∈ ps, p.1 = s.1.name → 0 < p.2 ∧ p.2 ≤ l.inForce s.1 := by
  intro s hs p hp hname
  obtain ⟨s', hs', he⟩ := exists_of_forall₂ h hp
  obtain rfl : s' = s := List.inj_on_of_nodup_map r.nodup_names (List.mem_of_mem_filter hs') hs
    (he.name.symm.trans hname)
  exact he.share (hpos s' hs')

end

theorem Paces.next_value {l : Limits} {step : Rat} (hl : l.Paces step) {k : OrganKind} {r : Reading}
    {ps : List (String × Number)} (hps : r.penalties l k = .ok ps) {p : Quantity}
    (hp : l.recoveryStep.quantity? = some p) {c : Number} (hc : c.InUnit) :
    l.next k r c = .ok (.finite (if ps = [] then min (c.value + p.exact.value) 1
      else max (c.value - Number.capped step (Number.total (ps.map (·.2)))) 0)) := by
  obtain ⟨a, rfl, h0, h1⟩ := hc
  show _ = Except.ok (Number.finite (if ps = [] then min (a + _) 1 else max (a - _) 0))
  have hnonneg := Reading.isNonneg_penalties hps
  by_cases hne : ps = []
  · subst hne
    obtain ⟨p', hp', hy, hf, hge, -⟩ := hl.recovery
    obtain rfl : p' = p := Option.some.inj (hp'.symm.trans hp)
    rw [next_eq hps hy hf, if_pos rfl, max_eq_left (add_nonneg h0 hge)]
  · obtain ⟨y, hy, hf, hv⟩ := hl.loss hne hnonneg
    have hloss := Number.capped_nonneg hl.nonneg (isNonneg_penaltiesTotal hnonneg)
    rw [next_eq hps hy hf, if_neg hne, hv, ← sub_eq_add_neg,
      min_eq_left (max_le (by linarith) zero_le_one)]

/-- **The adverse signals have entries among the penalties, in the order of the rules.**  The
entries add up to 0 where each adverse signal is free, but the health recovers only where no signal
is adverse; so the penalties list what costs something, and leave the rest to recovery, exactly
where no adverse signal is free. -/
theorem penalties_listed {l : Limits} (hl : Settings.checkHealth l = .ok ()) (hc : l.Charging)
    {k : OrganKind} {r : Reading} (hr : r.organ = k) (hf : r.Finite) :
    ∃ ps p q, r.penalties l k = .ok ps ∧ l.recoveryStep.quantity? = some p ∧
      l.maxStep.quantity? = some q ∧ List.Forall₂ l.Entry r.adverse ps ∧
      (Number.total (ps.map (·.2)) = 0 ↔ ∀ s ∈ r.adverse, ¬ 0 < l.inForce s.1) ∧
      (∀ c : Number, c.InUnit → l.next k r c = .ok (.finite
        (if r.adverse = [] then min (c.value + p.exact.value) 1
          else max (c.value - Number.capped q.exact.value (Number.total (ps.map (·.2)))) 0))) ∧
      (l.ListsCosts r ps ↔ ∀ s ∈ r.adverse, 0 < l.inForce s.1) := by
  subst hr
  obtain ⟨step, hpaces, -, -⟩ := Settings.checkHealth_paces hl
  obtain ⟨p, q, hp, hq, -, -, -, -, hstep⟩ := id hpaces
  choose most hmost using hc.charges
  obtain ⟨found, hps, hfound⟩ := penalties_of_charges hmost hf
  have hentries := entries_flatten hmost hfound r.isMeasure_signals
  have htotal := (Number.total_eq_zero (List.forall_mem_map.mpr (Reading.isNonneg_penalties hps)))
  rw [List.forall_mem_map, entries_zero hentries] at htotal
  have hnone : found.flatten = [] ↔ r.adverse = [] := by
    rw [← List.length_eq_zero_iff, ← hentries.length_eq, List.length_eq_zero_iff]
    rfl
  have hnext : ∀ c : Number, c.InUnit → l.next r.organ r c = .ok (.finite
      (if r.adverse = [] then min (c.value + p.exact.value) 1 else max (c.value -
        Number.capped q.exact.value (Number.total (found.flatten.map (·.2)))) 0)) := by
    intro c hunit
    rw [hpaces.next_value hps hp hunit, hstep]
    simp only [hnone]
  refine ⟨found.flatten, p, q, hps, hp, hq, hentries, htotal, hnext, ?_, fun hpos => ?_⟩
  · exact ListsCosts.pos hentries
  · refine ⟨mem_names hentries hpos, entries_bounded hentries hpos, ?_⟩
    intro hzero p' hp' c hunit
    have hempty : r.adverse = [] :=
      List.eq_nil_iff_forall_not_mem.mpr fun s hs => htotal.mp hzero s hs (hpos s hs)
    obtain rfl : p' = p := Option.some.inj (hp'.symm.trans hp)
    rw [hnext c hunit, if_pos hempty]

/-! ## free heat -/

def freeHeat : Limits :=
  { standard with maxPenalties := .map [(.text "cpu_temp_c", .whole 0)] }

theorem freeHeat_check : Settings.checkHealth freeHeat = .ok () := by
  have h : (Settings.checkHealth freeHeat).isOk = true := by decide +kernel
  obtain ⟨⟨⟩, h⟩ := ok_of_isOk h
  exact h

theorem freeHeat_charging : freeHeat.Charging := by
  refine ⟨_, rfl, ?_⟩
  simp [Value.quantity?, Quantity.number_exact]

def hot : Reading := .cpu { CpuReading.nominal with temperature := .whole 100 }

theorem hot_finite : hot.Finite := by decide +kernel

theorem hot_adverse : hot.adverse = [(.cpuTemperature, .whole 100)] := by
  unfold hot Reading.adverse Reading.signals
  simp only [List.filter_cons, List.filter_nil]
  rw [if_pos (by decide +kernel), if_neg (by decide +kernel), if_neg (by decide +kernel),
    if_neg (by decide +kernel)]

/-- heat that costs nothing has an entry all the same, and keeps the cortex from recovering -/
theorem penalties_listed_hot :
    hot.penalties freeHeat .cortex = .ok [("cpu_temp_c", 0)] ∧
      freeHeat.next .cortex hot (.finite (1 / 2)) = .ok (.finite (1 / 2)) := by
  have hfree : ¬ 0 < freeHeat.inForce .cpuTemperature := by decide +kernel
  obtain ⟨ps, p, q, hps, -, hq, hentries, -, hnext, -⟩ :=
    penalties_listed freeHeat_check freeHeat_charging (rfl : hot.organ = .cortex) hot_finite
  have hunit : (Number.finite (1 / 2)).InUnit := ⟨_, rfl, by norm_num, by norm_num⟩
  have hhalf := hnext _ hunit
  rw [hot_adverse] at hentries hhalf
  cases hentries with
  | @cons _ e _ _ he hrest =>
    cases hrest
    obtain rfl : e = ("cpu_temp_c", 0) := Prod.ext he.name (he.free hfree)
    have hloss : Number.capped q.exact.value
        (Number.total ([("cpu_temp_c", (0 : Number))].map (·.2))) = 0 := by
      cases hq
      decide +kernel
    refine ⟨hps, hhalf.trans ?_⟩
    rw [if_neg (List.cons_ne_nil _ _), hloss, sub_zero, max_eq_left]
    · rfl
    · show (0 : Rat) ≤ 1 / 2
      norm_num

/-- not all penalties list what costs something, and nothing else -/
theorem not_all_listed : ¬ ∀ (l : Limits) (r : Reading) (ps : List (String × Number)),
    Settings.checkHealth l = .ok () → l.Charging → r.Finite → r.penalties l r.organ = .ok ps →
      l.ListsCosts r ps := by
  intro h
  have hps : hot.penalties freeHeat hot.organ = .ok [("cpu_temp_c", 0)] :=
    ok_of_toOption (by decide +kernel)
  have hlists := h freeHeat hot _ freeHeat_check freeHeat_charging hot_finite hps
  have hsignal : (Rule.cpuTemperature, Value.whole 100) ∈ hot.signals := .head _
  have hpos := (hlists.bounds _ hsignal _ (.head _) rfl).1
  exact absurd hpos (by decide)

end Limits
end Organism
