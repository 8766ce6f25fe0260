import Organism.Proofs.Settings.Overlay

/-!
# Documents in another order

The keys of a document are all different, so that each of them can be found wherever it stands.

* `field?_perm`         the value of a name in another order of the entries;
* `Reordered`           the same document, its entries and those of its parts in another order;
* `readScheduler_reordered`, …   the order of a section does not matter to what is read from it;
* `ofValue_reordered`   **the order of a document does not matter to its settings**.
-/

namespace Organism

namespace Value

theorem field?_perm {es fs : List (Value × Value)} (h : es.Perm fs) (hkeys : (es.map (·.1)).Nodup)
    (name : String) : field? es name = field? fs name := by
  induction h with
  | nil => rfl
  | cons e _ ih =>
    rw [field?_cons, field?_cons, ih (List.nodup_cons.mp hkeys).2]
  | swap e f es =>
    rw [field?_cons, field?_cons, field?_cons, field?_cons]
    have hne : f.1 ≠ e.1 := fun hfe =>
      (List.nodup_cons.mp hkeys).1 (List.mem_cons.mpr (.inl hfe))
    split
    · next hf =>
      rw [if_neg fun he => hne ((beq_text_iff.mp hf).trans (beq_text_iff.mp he).symm)]
    · rfl
  | trans h₁ _ ih₁ ih₂ => exact (ih₁ hkeys).trans (ih₂ ((h₁.map _).nodup_iff.mp hkeys))

theorem field?_inside (es fs : List (Value × Value)) (part : String) (v w : Value) (name : String) :
    field? (es ++ (text part, v) :: fs) name = field? (es ++ (text part, w) :: fs) name ∨
      name = part ∧ field? (es ++ (text part, v) :: fs) name = some v ∧
        field? (es ++ (text part, w) :: fs) name = some w := by
  induction es with
  | nil =>
    by_cases h : name = part
    · subst h
      exact .inr ⟨rfl, field?_cons_self .., field?_cons_self ..⟩
    · have hne : text part ≠ text name := text_ne (Ne.symm h)
      exact .inl ((field?_cons_of_ne hne ..).trans (field?_cons_of_ne hne ..).symm)
  | cons e es ih =>
    rw [List.cons_append, List.cons_append, field?_cons, field?_cons]
    split
    · exact .inl rfl
    · exact ih

end Value

namespace Settings

open Value

/-! ## another order -/

def parts : List String :=
  ["scheduler", "health", "simulation", "low", "high", "persistence", "logging"]

/-- the same document, with its entries or those of its parts in another order -/
inductive Reordered : Value → Value → Prop
  | here {es fs : List (Value × Value)} (keys : (es.map (·.1)).Nodup) (perm : es.Perm fs) :
    Reordered (.map es) (.map fs)
  | inside {v w : Value} {part : String} (mem : part ∈ parts) (es fs : List (Value × Value))
    (value : Reordered v w) :
    Reordered (.map (es ++ (.text part, v) :: fs)) (.map (es ++ (.text part, w) :: fs))
  | trans {u v w : Value} (first : Reordered u v) (second : Reordered v w) : Reordered u w

theorem given_perm {es fs : List (Value × Value)} (h : es.Perm fs) (hkeys : (es.map (·.1)).Nodup) :
    given fs = given es := by
  funext name default
  unfold given
  rw [field?_perm h hkeys]

theorem Known.perm {names : List String} {es fs : List (Value × Value)}
    (h : Known names (.map es)) (hperm : es.Perm fs) : Known names (.map fs) := by
  unfold Known at h ⊢
  rw [entries_map] at h ⊢
  exact fun k hk => h k ((hperm.map _).mem_iff.mpr hk)

theorem Known.inside {names : List String} {es fs : List (Value × Value)} {k v : Value}
    (h : Known names (.map (es ++ (k, v) :: fs))) (w : Value) :
    Known names (.map (es ++ (k, w) :: fs)) := by
  unfold Known at h ⊢
  rw [entries_map] at h ⊢
  rw [List.map_append, List.map_cons] at h ⊢
  exact h

theorem Known.mem {names : List String} {es fs : List (Value × Value)} {part : String} {v : Value}
    (h : Known names (.map (es ++ (.text part, v) :: fs))) : part ∈ names := by
  unfold Known at h
  rw [entries_map] at h
  have hmem : (text part, v) ∈ es ++ (text part, v) :: fs :=
    List.mem_append_right _ (List.mem_cons_self ..)
  obtain ⟨n, hn, heq⟩ := h (.text part) (List.mem_map.mpr ⟨_, hmem, rfl⟩)
  exact text.inj heq ▸ hn

theorem Reordered.given {names : List String} {v w : Value} (h : Reordered v w)
    (hnames : ∀ part ∈ parts, part ∉ names) (hknown : Known names v) :
    ∃ es fs, v = .map es ∧ w = .map fs ∧ Known names w ∧
      Settings.given fs = Settings.given es := by
  induction h with
  | @here es fs keys perm => exact ⟨es, fs, rfl, rfl, hknown.perm perm, given_perm perm keys⟩
  | inside mem _ _ _ _ => exact absurd hknown.mem (hnames _ mem)
  | trans _ _ ih₁ ih₂ =>
    obtain ⟨es, fs, rfl, rfl, hfs, hgiven⟩ := ih₁ hknown
    obtain ⟨_, gs, hes, rfl, hgs, hgiven'⟩ := ih₂ hfs
    cases hes
    exact ⟨es, gs, rfl, rfl, hgs, hgiven'.trans hgiven⟩

/-! ## sections -/

variable {v w : Value}

theorem section_reordered {α : Type} {part : String} {names : List String}
    {make : List (Value × Value) → α} {x : α} (h : Reordered v w)
    (hnames : ∀ part ∈ parts, part ∉ names)
    (hmake : ∀ {es fs}, Settings.given fs = Settings.given es → make fs = make es)
    (hv : (do let es ← sectionEntries part names v; return make es) = .ok x) :
    (do let es ← sectionEntries part names w; return make es) = .ok x := by
  obtain ⟨es, hes, hx⟩ := ok_of_bind hv
  obtain ⟨hentries, hknown⟩ := sectionEntries_ok hes
  obtain ⟨es', fs, rfl, rfl, hfs, hgiven⟩ := h.given hnames hknown
  rw [entries_map] at hentries
  subst hentries
  rw [sectionEntries_map hfs, ← hx, ← hmake hgiven]
  rfl

theorem readStorage_reordered {x : StorageSettings Value} (h : Reordered v w)
    (hv : readStorage v = .ok x) : readStorage w = .ok x :=
  section_reordered h (by decide) (fun hgiven => by simp only [hgiven]) hv

theorem readLogging_reordered {x : LoggingSettings Value} (h : Reordered v w)
    (hv : readLogging v = .ok x) : readLogging w = .ok x :=
  section_reordered h (by decide) (fun hgiven => by simp only [hgiven]) hv

theorem read_inside {α : Type} {read : Value → Except Fault α}
    (hvw : ∀ {x}, read v = .ok x → read w = .ok x) {es fs : List (Value × Value)}
    {name part : String} {x : α}
    (h : read (Settings.given (es ++ (.text part, v) :: fs) name .none) = .ok x) :
    read (Settings.given (es ++ (.text part, w) :: fs) name .none) = .ok x := by
  unfold Settings.given at h ⊢
  rcases field?_inside es fs part v w name with heq | ⟨-, hv, hw⟩
  · rw [← heq]
    exact h
  · rw [hv] at h
    rw [hw]
    exact hvw h

theorem given_inside {part name : String} (hpart : part ∈ parts) (hname : name ∉ parts)
    (es fs : List (Value × Value)) (d : Value) :
    Settings.given (es ++ (.text part, w) :: fs) name d =
      Settings.given (es ++ (.text part, v) :: fs) name d := by
  unfold Settings.given
  rcases field?_inside es fs part v w name with heq | ⟨rfl, -, -⟩
  · rw [heq]
  · exact absurd hpart hname

theorem readIntensity_reordered {part : String} {d x : Intensity} (h : Reordered v w)
    (hv : readIntensity part d v = .ok x) : readIntensity part d w = .ok x := by
  obtain ⟨hknown, rfl⟩ := readIntensity_ok hv
  obtain ⟨es, fs, rfl, rfl, hfs, hgiven⟩ := h.given (by decide) hknown
  rw [readIntensity_map hfs, entries_map]
  unfold overIntensity
  rw [hgiven]

section
variable [Rounding]

theorem readSimulation_reordered {x : SimulationSettings} (h : Reordered v w)
    (hv : readSimulation v = .ok x) : readSimulation w = .ok x := by
  induction h with
  | here keys perm =>
    obtain ⟨es, hes, hknown, hlow, hhigh, hseed⟩ := readSimulation_ok hv
    rw [entriesOf_map] at hes
    cases hes
    rw [← given_perm perm keys] at hlow hhigh hseed
    exact readSimulation_map (hknown.perm perm) hlow hhigh hseed
  | @inside v w part mem es fs value _ =>
    obtain ⟨es', hes, hknown, hlow, hhigh, hseed⟩ := readSimulation_ok hv
    rw [entriesOf_map] at hes
    cases hes
    exact readSimulation_map (hknown.inside w)
      (read_inside (readIntensity_reordered value) hlow)
      (read_inside (readIntensity_reordered value) hhigh)
      (hseed.trans (given_inside mem (by decide) es fs _).symm)
  | trans _ _ ih₁ ih₂ => exact ih₂ (ih₁ hv)

theorem readScheduler_reordered {x : SchedulerSettings} (h : Reordered v w)
    (hv : readScheduler v = .ok x) : readScheduler w = .ok x :=
  section_reordered h (by decide) (fun hgiven => by simp only [hgiven]) hv

theorem readHealth_reordered {x : Limits} (h : Reordered v w) (hv : readHealth v = .ok x) :
    readHealth w = .ok x :=
  section_reordered h (by decide) (fun hgiven => by simp only [hgiven]) hv

/-! ## documents -/

theorem ofEntries_of_overlaid {es fs : List (Value × Value)} {s : Settings}
    (hkeys : (es.map (·.1)).Nodup) (hkeys' : (fs.map (·.1)).Nodup)
    (hknown : Known Level.top.names (.map es) → Known Level.top.names (.map fs))
    (hparts : ∀ r, Overlaid es r → Overlaid fs r) (h : ofEntries es = .ok s) :
    ofEntries fs = .ok s := by
  obtain ⟨raw, hfold, hrefine, hcheck⟩ := ofEntries_ok h
  have hfold' : fs.foldlM overlay RawSettings.standard = .ok raw :=
    (foldlM_overlay_iff hkeys').mpr
      (((foldlM_overlay_iff hkeys).mp hfold).imp hknown (hparts raw))
  unfold ofEntries
  rw [hfold']
  show (refine raw >>= _) = _
  rw [hrefine]
  show (Settings.check s >>= _) = _
  rw [hcheck]
  rfl

theorem Overlaid.inside {es fs : List (Value × Value)} {v w : Value} {part : String}
    {s : RawSettings} (hpart : part ∈ parts) (hvw : Reordered v w)
    (h : Overlaid (es ++ (.text part, v) :: fs) s) :
    Overlaid (es ++ (.text part, w) :: fs) s where
  telemetry := h.telemetry.trans (given_inside hpart (by decide) es fs _).symm
  simLevel := h.simLevel.trans (given_inside hpart (by decide) es fs _).symm
  verbosity := h.verbosity.trans (given_inside hpart (by decide) es fs _).symm
  scheduler := read_inside (readScheduler_reordered hvw) h.scheduler
  health := read_inside (readHealth_reordered hvw) h.health
  simulation := read_inside (readSimulation_reordered hvw) h.simulation
  storage := read_inside (readStorage_reordered hvw) h.storage
  logging := read_inside (readLogging_reordered hvw) h.logging

theorem ofValue_reordered {v w : Value} (h : Reordered v w) {es : List (Value × Value)}
    (hv : v = .map es) (hkeys : (es.map (·.1)).Nodup) {s : Settings} (hs : ofValue v = .ok s) :
    ∃ fs, w = .map fs ∧ (fs.map (·.1)).Nodup ∧ ofValue w = .ok s := by
  induction h generalizing es with
  | @here es' fs keys perm =>
    have hkeys' : (fs.map (·.1)).Nodup := (perm.map _).nodup_iff.mp keys
    rw [ofValue_map] at hs
    refine ⟨fs, rfl, hkeys', ofValue_map.trans (ofEntries_of_overlaid keys hkeys'
      (fun hknown => hknown.perm perm) (fun r hr => ?_) hs)⟩
    have hgiven := given_perm perm keys
    exact {
      telemetry := hgiven ▸ hr.telemetry
      simLevel := hgiven ▸ hr.simLevel
      verbosity := hgiven ▸ hr.verbosity
      scheduler := hgiven ▸ hr.scheduler
      health := hgiven ▸ hr.health
      simulation := hgiven ▸ hr.simulation
      storage := hgiven ▸ hr.storage
      logging := hgiven ▸ hr.logging }
  | @inside v w part mem es' fs value _ =>
    cases hv
    have hkeys' : ((es' ++ (.text part, w) :: fs).map (·.1)).Nodup := by
      rw [List.map_append, List.map_cons] at hkeys ⊢
      exact hkeys
    rw [ofValue_map] at hs
    exact ⟨_, rfl, hkeys', ofValue_map.trans (ofEntries_of_overlaid hkeys hkeys'
      (fun hknown => hknown.inside w) (fun r hr => hr.inside mem value) hs)⟩
  | trans _ _ ih₁ ih₂ =>
    obtain ⟨fs, hfs, hkeys', hs'⟩ := ih₁ hv hkeys hs
    exact ih₂ hfs hkeys' hs'

end
end Settings
end Organism
