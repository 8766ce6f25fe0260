import Organism.Proofs.Settings.Reordering
import Organism.Proofs.Settings.RoundTrip

/-!
# Defaults, and what is laid over them

* `Laid`                the settings of one level: those given, and the defaults of the others;
* `laid_section`        a section, from the names that it may have and the defaults of them;
* `laid_scheduler`, …   one section after the other;
* `Overlaid.laid`       **each level of the settings is laid over that of the defaults**;
* `normal`              what is made of the names of levels, and of paths;
* `laid_over_defaults`  **settings are the defaults, overlaid with what is given**.
-/

namespace Organism.Settings

open Value

/-! ## one level -/

/-- what becomes of one level: its keys are known, and its settings have the values that they have in
what is given, or else in the defaults -/
structure Laid (l : Level) (given default result : Value) : Prop where
  known : Known l.names given
  values : ∀ n ∈ l.settings, ∃ d, default.at? [n] = some d ∧
    result.at? [n] = some ((given.at? [n]).getD d)

theorem laid_given {l : Level} {v : Value} (fields : List (String × Value))
    (hknown : Known l.names v) (hfields : fields.map (·.1) = l.settings) :
    Laid l v (.record fields) (.record (fields.map fun e => (e.1, given v.entries e.1 e.2))) := by
  refine ⟨hknown, fun n hn => ?_⟩
  rw [← hfields] at hn
  obtain ⟨d, hd, hgiven⟩ := at?_record_map (given v.entries) hn
  rw [at?_singleton v]
  exact ⟨d, hd, hgiven⟩

theorem laid_intensity {level part : String} {v : Value} {d x : Intensity}
    (h : readIntensity part d v = .ok x) : Laid (.intensity level) v d.toValue x.toValue := by
  obtain ⟨hknown, rfl⟩ := readIntensity_ok h
  exact laid_given d.fields hknown rfl

theorem laid_section {α : Type} {part : String} {l : Level} {v : Value} {x : α}
    {make : List (Value × Value) → α} {toValue : α → Value} (fields : List (String × Value))
    (hfields : fields.map (·.1) = l.settings)
    (hmake : ∀ es, toValue (make es) = .record (fields.map fun e => (e.1, given es e.1 e.2)))
    (h : (do let es ← sectionEntries part l.names v; return make es) = .ok x) :
    Laid l v (.record fields) (toValue x) := by
  obtain ⟨es, hes, hx⟩ := ok_of_bind h
  obtain ⟨rfl, hknown⟩ := sectionEntries_ok hes
  cases hx
  rw [hmake]
  exact laid_given fields hknown hfields

theorem laid_storage {v : Value} {x : StorageSettings Value} (h : readStorage v = .ok x) :
    Laid .persistence v StorageSettings.standard.toValue x.toValue :=
  laid_section _ rfl (fun _ => rfl) h

theorem laid_logging {v : Value} {x : LoggingSettings Value} (h : readLogging v = .ok x) :
    Laid .logging v LoggingSettings.standard.toValue x.toValue :=
  laid_section _ rfl (fun _ => rfl) h

section
variable [Rounding]

theorem laid_scheduler {v : Value} {x : SchedulerSettings} (h : readScheduler v = .ok x) :
    Laid .scheduler v SchedulerSettings.standard.toValue x.toValue :=
  laid_section _ rfl (fun _ => rfl) h

theorem laid_health {v : Value} {x : Limits} (h : readHealth v = .ok x) :
    Laid .health v Limits.standard.toValue x.toValue :=
  laid_section _ rfl (fun _ => rfl) h

theorem laid_simulation {v : Value} {x : SimulationSettings} (h : readSimulation v = .ok x) :
    Laid .simulation v SimulationSettings.standard.toValue x.toValue ∧
      Laid (.intensity "low") ((v.at? ["low"]).getD .none) Intensity.low.toValue x.low.toValue ∧
      Laid (.intensity "high") ((v.at? ["high"]).getD .none) Intensity.high.toValue
        x.high.toValue := by
  obtain ⟨es, hes, hknown, hlow, hhigh, hseed⟩ := readSimulation_ok h
  obtain rfl := entries_of_ok hes
  rw [at?_singleton, at?_singleton]
  refine ⟨⟨?_, fun n hn => ?_⟩, laid_intensity hlow, laid_intensity hhigh⟩
  · unfold Known at hknown ⊢
    rw [entries_map] at hknown
    exact hknown
  · obtain rfl := List.mem_singleton.mp hn
    refine ⟨.whole 7, rfl, ?_⟩
    rw [at?_singleton v]
    exact congrArg some hseed

/-! ## all levels -/

/-- **Each level of the settings is laid over that of the defaults.** -/
theorem Overlaid.laid {es : List (Value × Value)} {r : RawSettings} (h : Overlaid es r)
    (hknown : Known Level.top.names (.map es)) :
    ∀ l ∈ levels, Laid l (((Value.map es).at? l.path).getD .none)
      ((RawSettings.standard.toValue.at? l.path).getD .none)
      ((r.toValue.at? l.path).getD .none) := by
  have htop : Laid .top (.map es) RawSettings.standard.toValue r.toValue := by
    refine ⟨hknown, fun n hn => ?_⟩
    rw [at?_singleton (.map es), entries_map]
    simp only [Level.top, List.mem_cons, List.not_mem_nil, or_false] at hn
    rcases hn with rfl | rfl | rfl
    · exact ⟨_, rfl, congrArg some h.telemetry⟩
    · exact ⟨_, rfl, congrArg some h.simLevel⟩
    · exact ⟨_, rfl, congrArg some h.verbosity⟩
  have hsim := h.simulation
  rw [given_eq_at?] at hsim
  obtain ⟨hsimulation, hlow, hhigh⟩ := laid_simulation hsim
  rw [← at?_append] at hlow hhigh
  intro l hl
  simp only [levels, List.mem_cons, List.not_mem_nil, or_false] at hl
  rcases hl with rfl | rfl | rfl | rfl | rfl | rfl | rfl | rfl
  · exact htop
  · exact laid_scheduler (given_eq_at? es _ ▸ h.scheduler)
  · exact laid_health (given_eq_at? es _ ▸ h.health)
  · exact hsimulation
  · exact hlow
  · exact hhigh
  · exact laid_storage (given_eq_at? es _ ▸ h.storage)
  · exact laid_logging (given_eq_at? es _ ▸ h.logging)

end

/-! ## levels and paths -/

def plainWord (word : String) : String :=
  if word == "off" || word == "none" then "silent"
  else if word == "command" || word == "commands_only" then "commands"
  else word

theorem label_of_word {word : String} {v : Verbosity} (h : Verbosity.ofWord? word = some v) :
    v.label = plainWord (Verbosity.key word) := by
  unfold Verbosity.ofWord? at h
  unfold plainWord
  dsimp only at h
  split at h
  · next hword =>
    cases h
    rw [if_pos hword]
    rfl
  · next hword =>
    rw [if_neg hword]
    split at h
    · next hword' =>
      cases h
      rw [if_pos hword']
      rfl
    · next hword' =>
      rw [if_neg hword']
      exact Named.label_of_find? h

/-- what becomes of the value of one setting: the flag that is not set means off or silence where it
stands for a level, words for a verbosity are made plain, and so are paths -/
def normal (path : List String) (v : Value) : Value :=
  match path with
  | ["sim_level"] =>
    match v with
    | .flag false => .text "off"
    | v => v
  | ["log_filter"] =>
    match v with
    | .flag false => .text "silent"
    | .text word => .text (plainWord (Verbosity.key word))
    | v => v
  | ["persistence", "state_path"] | ["logging", "file"] =>
    match v with
    | .text t => .text (FilePath.ofString t).text
    | v => v
  | _ => v

section
variable [Rounding]

theorem readLevel_ok {v : Value} {level : SimLevel} (h : readLevel v = .ok level) :
    .text level.label = normal ["sim_level"] v := by
  unfold readLevel at h
  split at h
  · cases h
    rfl
  · next hflag =>
    cases v with
    | text word =>
      unfold Value.toNamed at h
      dsimp only at h
      cases hfind : (Named.find? word : Option SimLevel) with
      | none =>
        rw [hfind] at h
        cases h
      | some l =>
        rw [hfind] at h
        cases h
        exact congrArg Value.text (Named.label_of_find? hfind)
    | flag b =>
      cases b with
      | false => exact absurd rfl hflag
      | true => cases h
    | _ => cases h

theorem readVerbosity_ok {v : Value} {verbosity : Verbosity} (h : readVerbosity v = .ok verbosity) :
    .text verbosity.label = normal ["log_filter"] v := by
  unfold readVerbosity at h
  split at h
  · cases h
    rfl
  · next word =>
    cases hword : Verbosity.ofWord? word with
    | none =>
      rw [hword] at h
      cases h
    | some l =>
      rw [hword] at h
      cases h
      exact congrArg Value.text (label_of_word hword)
  · cases h

/-- **All settings but levels and paths are the values that they were read from**, and these are made
normal. -/
theorem at?_of_refine {r : RawSettings} {s : Settings} (h : refine r = .ok s) :
    ∀ l ∈ levels, ∀ n ∈ l.settings, ∀ v, r.toValue.at? (l.path ++ [n]) = some v →
      s.toValue.at? (l.path ++ [n]) = some (normal (l.path ++ [n]) v) := by
  obtain ⟨hlevel, hverbosity, hpath, hfile, hs⟩ := refine_ok h
  clear h
  generalize s.simLevel = level, s.verbosity = verbosity, s.storage.statePath = path,
    s.logging.file = file at hlevel hverbosity hpath hfile hs
  subst hs
  intro l hl n hn v hv
  simp only [levels, List.mem_cons, List.not_mem_nil, or_false] at hl
  rcases hl with rfl | rfl | rfl | rfl | rfl | rfl | rfl | rfl
  · simp only [Level.top, List.mem_cons, List.not_mem_nil, or_false] at hn
    rcases hn with rfl | rfl | rfl
    · exact hv
    · cases Option.some.inj hv
      exact congrArg some (readLevel_ok hlevel)
    · cases Option.some.inj hv
      exact congrArg some (readVerbosity_ok hverbosity)
  · simp only [Level.scheduler, List.mem_cons, List.not_mem_nil, or_false] at hn
    rcases hn with rfl | rfl | rfl | rfl | rfl | rfl <;> exact hv
  · simp only [Level.health, List.mem_cons, List.not_mem_nil, or_false] at hn
    rcases hn with rfl | rfl | rfl <;> exact hv
  · obtain rfl := List.mem_singleton.mp hn
    exact hv
  · simp only [Level.intensity, List.mem_cons, List.not_mem_nil, or_false] at hn
    rcases hn with rfl | rfl | rfl | rfl <;> exact hv
  · simp only [Level.intensity, List.mem_cons, List.not_mem_nil, or_false] at hn
    rcases hn with rfl | rfl | rfl | rfl <;> exact hv
  · simp only [Level.persistence, List.mem_cons, List.not_mem_nil, or_false] at hn
    rcases hn with rfl | rfl | rfl
    · cases Option.some.inj hv
      obtain ⟨t, ht, rfl⟩ := readPath_ok hpath
      show _ = some (normal ["persistence", "state_path"] r.storage.statePath)
      rw [ht]
      rfl
    · exact hv
    · exact hv
  · simp only [Level.logging, List.mem_cons, List.not_mem_nil, or_false] at hn
    rcases hn with rfl | rfl | rfl
    · exact hv
    · exact hv
    · cases Option.some.inj hv
      show _ = some (normal ["logging", "file"] r.logging.file)
      rcases readPath?_ok hfile with ⟨ht, rfl⟩ | ⟨t, ht, rfl⟩
      · rw [ht]
        rfl
      · rw [ht]
        rfl

/-- **Settings are the defaults, overlaid with what is given.**  At every level of a document that is
accepted, a setting that is given has its own value, and one that is not has its default; the order
of the keys does not matter at any level; and a document with a key that is no setting of its level
is refused. -/
theorem laid_over_defaults {es : List (Value × Value)} (hkeys : (es.map (·.1)).Nodup) :
    (∀ s, ofValue (.map es) = .ok s →
      (∀ l ∈ levels, ∀ n ∈ l.settings, ∃ d,
        RawSettings.standard.toValue.at? (l.path ++ [n]) = some d ∧
          s.toValue.at? (l.path ++ [n]) =
            some (normal (l.path ++ [n]) (((Value.map es).at? (l.path ++ [n])).getD d))) ∧
      ∀ w, Reordered (.map es) w → ofValue w = .ok s) ∧
    ∀ l ∈ levels, ∀ v k, (Value.map es).at? l.path = some v → k ∈ v.entries.map (·.1) →
      (∀ n ∈ l.names, k ≠ .text n) → ∃ e, ofValue (.map es) = .error e := by
  have hlaid : ∀ {s}, ofValue (.map es) = .ok s → ∃ raw, refine raw = .ok s ∧
      ∀ l ∈ levels, Laid l (((Value.map es).at? l.path).getD .none)
        ((RawSettings.standard.toValue.at? l.path).getD .none)
        ((raw.toValue.at? l.path).getD .none) := by
    intro s h
    obtain ⟨raw, hfold, hrefine, -⟩ := ofEntries_ok (ofValue_map.symm.trans h)
    obtain ⟨hknown, hparts⟩ := (foldlM_overlay_iff hkeys).mp hfold
    exact ⟨raw, hrefine, hparts.laid hknown⟩
  refine ⟨fun s h => ⟨fun l hl n hn => ?_, fun w hw => ?_⟩, fun l hl v k hv hk hnames => ?_⟩
  · obtain ⟨raw, hrefine, hall⟩ := hlaid h
    obtain ⟨d, hd, hvalue⟩ := (hall l hl).values n hn
    rw [← at?_append] at hd hvalue
    rw [← at?_append] at hvalue
    exact ⟨d, hd, at?_of_refine hrefine l hl n hn _ hvalue⟩
  · obtain ⟨-, -, -, hs⟩ := ofValue_reordered hw rfl hkeys h
    exact hs
  · cases h : ofValue (.map es) with
    | error e => exact ⟨e, rfl⟩
    | ok s =>
      obtain ⟨raw, -, hall⟩ := hlaid h
      have hknown := (hall l hl).known
      rw [hv] at hknown
      obtain ⟨n, hn, heq⟩ := hknown k hk
      exact absurd heq (hnames n hn)

end

attribute [local instance] Rounding.binary64

/-- a level under one of its other names, and one setting of an intensity -/
theorem laid_over_defaults_partly :
    let es : List (Value × Value) := [(.text "log_filter", .text " NONE "),
      (.text "simulation", .map [(.text "low", .map [(.text "recovery", .text "?")])])]
    let strange : List (Value × Value) := (.text "pace", .none) :: es
    (es.map (·.1)).Nodup ∧ (strange.map (·.1)).Nodup ∧
      (∃ s, ofValue (.map es) = .ok s ∧
        s.toValue.at? ["log_filter"] = some (.text "silent") ∧
        s.toValue.at? ["simulation", "low", "recovery"] = some (.text "?") ∧
        s.toValue.at? ["simulation", "low", "damage_min"] = some Intensity.low.damageMin ∧
        ofValue (.map es.reverse) = .ok s) ∧
      ∃ e, ofValue (.map strange) = .error e := by
  intro es strange
  have hkeys : (es.map (·.1)).Nodup := by simp [es]
  have hkeys' : (strange.map (·.1)).Nodup := by simp [strange, es]
  have hread : (ofValue (.map es)).isOk = true := by decide +kernel
  obtain ⟨s, hs⟩ := ok_of_isOk hread
  obtain ⟨hvalues, horder⟩ := (laid_over_defaults hkeys).1 s hs
  obtain ⟨_, -, hfilter⟩ := hvalues .top (by simp [levels]) "log_filter" (by decide)
  obtain ⟨_, -, hrecovery⟩ :=
    hvalues (.intensity "low") (by simp [levels]) "recovery" (by decide)
  obtain ⟨d, hd, hdamage⟩ :=
    hvalues (.intensity "low") (by simp [levels]) "damage_min" (by decide)
  cases Option.some.inj hd
  refine ⟨hkeys, hkeys', ⟨s, hs, hfilter, hrecovery, hdamage, ?_⟩, ?_⟩
  · exact horder _ (.here hkeys (List.reverse_perm es).symm)
  · exact (laid_over_defaults hkeys').2 .top (by simp [levels]) (.map strange) (.text "pace") rfl
      (List.mem_cons_self ..) (by simp [Level.names, Level.top])

end Organism.Settings
