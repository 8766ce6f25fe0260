import Organism.Files
import Organism.Proofs.Fallible
import Mathlib.Data.List.Nodup
import Mathlib.Data.List.Perm.Subperm

/-!
# Files that stay as they are

A change of the tree concerns a few places.  Folders stay folders, so that every path leads where it
led before, and all other files keep their content.

* `FileSystem.Keeps`    what a change leaves alone, but for the files at given places;
* `find_keeps`          **paths lead to the same places**, and so `read_keeps`;
* `makeFolder_rule`     what the making of one folder does, the making of several does;
* `temporary_free`      the place of a temporary file is free;
* `replace_error`       **a file that cannot be replaced keeps its content, as do all others**;
* `replace_ok`          one that is replaced has the new content, and all others keep theirs;
* `read_nul_iff`, `replace_nul`   only a path that no system takes is refused as one.
-/

namespace Organism.FileSystem

/-! ## changes -/

/-- folders are kept, and so are the files that are not at the places -/
structure Keeps (S : List (List String)) (fs fs' : FileSystem) : Prop where
  home : fs'.home = fs.home
  folders : ∀ q, fs.entry? q = some .folder → fs'.entry? q = some .folder
  files : ∀ q bytes, q ∉ S → fs.entry? q = some (.file bytes) → fs'.entry? q = some (.file bytes)

variable {S : List (List String)} {fs fs' fs'' : FileSystem} {p q : FilePath}
  {place other folder : List String} {found e : Option FileEntry} {bytes : List UInt8}

theorem keeps_refl (S : List (List String)) (fs : FileSystem) : Keeps S fs fs :=
  ⟨rfl, fun _ h => h, fun _ _ _ h => h⟩

theorem Keeps.trans (h : Keeps S fs fs') (h' : Keeps S fs' fs'') : Keeps S fs fs'' where
  home := h'.home.trans h.home
  folders q hq := h'.folders q (h.folders q hq)
  files q bytes hS hq := h'.files q bytes hS (h.files q bytes hS hq)

theorem Keeps.mono {T : List (List String)} (h : Keeps S fs fs') (hST : S ⊆ T) : Keeps T fs fs' :=
  ⟨h.home, h.folders, fun q bytes hT => h.files q bytes fun hS => hT (hST hS)⟩

/-! ## one place -/

theorem entry?_home (fs : FileSystem) : fs.entry? fs.home = some .folder := by
  unfold entry?
  rw [if_pos (List.isPrefixOf_iff_prefix.mpr (List.prefix_refl _))]

theorem not_isPrefixOf_home (h : fs.entry? place ≠ some .folder) :
    ¬ place.isPrefixOf fs.home = true := by
  intro hp
  apply h
  unfold entry?
  rw [if_pos hp]

theorem lookup_filter_ne {α : Type} (entries : List (List String × α)) (h : other ≠ place) :
    (entries.filter fun x => x.1 ≠ place).lookup other = entries.lookup other := by
  induction entries with
  | nil => rfl
  | cons x entries ih =>
    obtain ⟨q, a⟩ := x
    by_cases hq : q = place
    · subst hq
      rw [List.filter_cons_of_neg (by simp), ih, List.lookup_cons, beq_eq_false_iff_ne.mpr h]
    · rw [List.filter_cons_of_pos (by simpa using hq), List.lookup_cons, List.lookup_cons, ih]

theorem lookup_filter_self {α : Type} (entries : List (List String × α)) (place : List String) :
    (entries.filter fun x => x.1 ≠ place).lookup place = none := by
  rw [List.lookup_eq_none_iff]
  intro x hx
  have hne : x.1 ≠ place := by simpa using (List.mem_filter.mp hx).2
  exact bne_iff_ne.mpr hne.symm

theorem entry?_put_of_ne (fs : FileSystem) (x : FileEntry) (h : other ≠ place) :
    entry? (fs.put place x) other = fs.entry? other := by
  have hone : List.lookup other [(place, x)] = none := by
    rw [List.lookup_cons, beq_eq_false_iff_ne.mpr h]
    rfl
  unfold entry? put
  dsimp only
  rw [List.lookup_append, lookup_filter_ne fs.entries h, hone, Option.or_none]

theorem entry?_put_self (fs : FileSystem) (x : FileEntry) (h : fs.entry? place ≠ some .folder) :
    entry? (fs.put place x) place = some x := by
  unfold entry? put
  dsimp only
  rw [if_neg (not_isPrefixOf_home h), List.lookup_append, lookup_filter_self, List.lookup_cons,
    beq_self_eq_true]
  rfl

theorem entry?_remove_of_ne (fs : FileSystem) (h : other ≠ place) :
    entry? (fs.remove place) other = fs.entry? other := by
  unfold entry? remove
  dsimp only
  rw [lookup_filter_ne fs.entries h]

theorem entry?_remove_self (fs : FileSystem) (h : fs.entry? place ≠ some .folder) :
    entry? (fs.remove place) place = none := by
  unfold entry? remove
  dsimp only
  rw [if_neg (not_isPrefixOf_home h), lookup_filter_self]

theorem entry?_remove_ne_folder (other : List String) (h : fs.entry? place ≠ some .folder) :
    entry? (fs.remove other) place ≠ some .folder := by
  by_cases hq : place = other
  · subst hq
    rw [fs.entry?_remove_self h]
    nofun
  · rw [fs.entry?_remove_of_ne hq]
    exact h

theorem Keeps.fresh (h : Keeps (place :: S) fs fs') (hp : fs.entry? place = none) :
    Keeps S fs fs' := by
  refine ⟨h.home, h.folders, fun q bytes hS hq => h.files q bytes ?_ hq⟩
  intro hmem
  rcases List.mem_cons.mp hmem with rfl | hmem
  · rw [hp] at hq
    cases hq
  · exact hS hmem

theorem keeps_at (hhome : fs'.home = fs.home) (hp : fs.entry? place ≠ some .folder)
    (h : ∀ q, q ≠ place → fs'.entry? q = fs.entry? q) : Keeps [place] fs fs' := by
  refine ⟨hhome, fun q hq => ?_, fun q bytes hS hq => ?_⟩
  · have hne : q ≠ place := by
      rintro rfl
      exact hp hq
    rw [h q hne, hq]
  · have hne : q ≠ place := fun he => hS (List.mem_singleton.mpr he)
    rw [h q hne, hq]

theorem keeps_remove (hp : fs.entry? place ≠ some .folder) :
    Keeps [place] fs (fs.remove place) :=
  keeps_at rfl hp fun _ h => fs.entry?_remove_of_ne h

theorem keeps_put (x : FileEntry) (hp : fs.entry? place ≠ some .folder) :
    Keeps [place] fs (fs.put place x) :=
  keeps_at rfl hp fun _ h => fs.entry?_put_of_ne x h

theorem keeps_put_free (x : FileEntry) (hp : fs.entry? place = none) :
    Keeps [] fs (fs.put place x) := by
  refine (keeps_put x ?_).fresh hp
  rw [hp]
  nofun

/-! ## where paths lead -/

def place? (fs : FileSystem) (p : FilePath) : Option (List String) := (fs.find p).toOption.map (·.1)

theorem place?_of_find (h : fs.find p = .ok (place, found)) : fs.place? p = some place := by
  unfold place?
  rw [h]
  rfl

theorem follow_ok {here next : List String × Option FileEntry} {name : String}
    (h : fs.follow here name = .ok next) :
    here.2 = some .folder ∧ next.2 = fs.entry? next.1 := by
  obtain ⟨place, found⟩ := here
  unfold follow at h
  dsimp only at h
  split at h
  · cases h
  · cases h
  · split at h
    · cases h
      exact ⟨rfl, rfl⟩
    · split at h
      · cases h
      · cases h
        exact ⟨rfl, rfl⟩

theorem follow_keeps (hk : Keeps S fs fs') {here next : List String × Option FileEntry}
    {name : String} (hhere : here.2 = fs.entry? here.1) (h : fs.follow here name = .ok next) :
    fs'.follow (here.1, fs'.entry? here.1) name = .ok (next.1, fs'.entry? next.1) := by
  have hf : fs'.entry? here.1 = some .folder := by
    apply hk.folders
    rw [← hhere]
    exact (follow_ok h).1
  obtain ⟨place, found⟩ := here
  obtain rfl : found = some .folder := (follow_ok h).1
  unfold follow at h ⊢
  dsimp only at hf h ⊢
  rw [hf]
  dsimp only
  split at h
  · next hn =>
    cases h
    rw [if_pos hn]
  · next hn =>
    rw [if_neg hn]
    split at h
    · cases h
    · next hl =>
      cases h
      rw [if_neg hl]

theorem foldlM_follow_keeps (hk : Keeps S fs fs') (names : List String)
    {here next : List String × Option FileEntry} (hhere : here.2 = fs.entry? here.1)
    (h : names.foldlM fs.follow here = .ok next) :
    names.foldlM fs'.follow (here.1, fs'.entry? here.1) = .ok (next.1, fs'.entry? next.1) := by
  induction names generalizing here with
  | nil =>
    cases h
    rfl
  | cons name names ih =>
    rw [List.foldlM_cons] at h ⊢
    obtain ⟨mid, hmid, h⟩ := ok_of_bind h
    rw [follow_keeps hk hhere hmid]
    exact ih (follow_ok hmid).2 h

theorem entry?_start (fs : FileSystem) (p : FilePath) :
    fs.entry? (if p.isAbsolute then [] else fs.home) = some .folder := by
  split
  · rfl
  · exact fs.entry?_home

theorem find_entry (h : fs.find p = .ok (place, found)) : found = fs.entry? place := by
  unfold find at h
  split at h
  · cases h
  · refine foldlM_preserves (P := fun here : List String × Option FileEntry =>
      here.2 = fs.entry? here.1) (fun here name next _ hf => (follow_ok hf).2) ?_ h
    exact (fs.entry?_start p).symm

/-- **A path leads to the same place.** -/
theorem find_keeps (hk : Keeps S fs fs') (h : fs.find p = .ok (place, found)) :
    fs'.find p = .ok (place, fs'.entry? place) := by
  unfold find at h ⊢
  split at h
  · cases h
  · next hl =>
    rw [if_neg hl, hk.home]
    have hf := foldlM_follow_keeps hk p.names (fs.entry?_start p).symm h
    have hstart := hk.folders _ (fs.entry?_start p)
    dsimp only at hf
    rw [hstart] at hf
    exact hf

/-! ## what is read -/

theorem read_eq_ok (h : fs.read p = .ok bytes) :
    p.hasNul = false ∧ ∃ place, fs.find p = .ok (place, some (.file bytes)) := by
  unfold read at h
  split at h
  · cases h
  · next hn =>
    refine ⟨Bool.eq_false_iff.mpr hn, ?_⟩
    split at h
    · cases h
    · cases h
    · cases h
    · next hf =>
      cases h
      exact ⟨_, hf⟩

theorem read_of_find (hn : p.hasNul = false) (h : fs.find p = .ok (place, some (.file bytes))) :
    fs.read p = .ok bytes := by
  unfold read
  rw [hn, h]
  rfl

theorem read_keeps (hk : Keeps S fs fs') (h : fs.read p = .ok bytes)
    (hS : ∀ place, fs'.place? p = some place → place ∉ S) : fs'.read p = .ok bytes := by
  obtain ⟨hn, place, hf⟩ := read_eq_ok h
  have hf' := find_keeps hk hf
  have hfile := hk.files place bytes (hS place (place?_of_find hf')) (find_entry hf).symm
  rw [hfile] at hf'
  exact read_of_find hn hf'

/-! ## folders -/

section
variable {P : FileSystem → FileSystem → Prop} (hrefl : ∀ fs, P fs fs)
  (htrans : ∀ {fs fs' fs''}, P fs fs' → P fs' fs'' → P fs fs'')
  (hmade : ∀ fs place, fs.entry? place = none → P fs (fs.put place .folder))
include hrefl hmade

theorem makeOne_rule (fs : FileSystem) (p : FilePath) : P fs (fs.makeOne p).1 := by
  unfold makeOne
  split
  · exact hrefl fs
  · exact hrefl fs
  · exact hrefl fs
  · next place hf => exact hmade fs place (find_entry hf).symm

include htrans

theorem makeAll_rule (fs : FileSystem) (root : String) (names : List String) :
    P fs (fs.makeAll root names).1 := by
  induction names generalizing fs with
  | nil => exact hrefl fs
  | cons name names ih =>
    have hone := makeOne_rule hrefl hmade fs ⟨root, (name :: names).reverse⟩
    unfold makeAll
    dsimp only
    split
    · next fs' h =>
      rw [h] at hone
      exact hone
    · next fs' h =>
      rw [h] at hone
      have hall := ih fs'
      split
      · next fs'' e he =>
        rw [he] at hall
        exact htrans hone hall
      · next fs'' he =>
        rw [he] at hall
        exact htrans (htrans hone hall) (makeOne_rule hrefl hmade fs'' _)
    · next fs' reason hne h =>
      rw [h] at hone
      exact hone

/-- **What holds of one folder made where nothing was, holds of the making of any folder.** -/
theorem makeFolder_rule (fs : FileSystem) (p : FilePath) : P fs (fs.makeFolder p).1 := by
  unfold makeFolder
  split
  · exact hrefl fs
  · exact makeAll_rule hrefl htrans hmade fs p.root p.names.reverse

end

theorem makeFolder_keeps (fs : FileSystem) (p : FilePath) : Keeps S fs (fs.makeFolder p).1 :=
  makeFolder_rule (keeps_refl S) Keeps.trans
    (fun _ _ h => (keeps_put_free .folder h).mono (List.nil_subset S)) fs p

/-! ## temporary files -/

theorem temporaryName_injective : Function.Injective temporaryName := by
  intro m n h
  have hvalue : ∀ n : Nat,
      Nat.ofDigitChars 10 (List.replicate (8 - (Nat.toDigits 10 n).length) '0' ++ Nat.toDigits 10 n)
        0 = n := by
    intro n
    rw [Nat.ofDigitChars_append, Nat.ofDigitChars_replicate_zero, Nat.mul_zero]
    exact Nat.ofDigitChars_ten_toDigits
  unfold temporaryName at h
  have hl := congrArg String.toList h
  simp only [String.toList_append, String.toList_ofList, List.append_cancel_right_eq,
    List.append_cancel_left_eq] at hl
  rw [← hvalue m, hl, hvalue n]

theorem taken_mem {name : String} (h : (fs.entry? (folder ++ [name])).isSome) :
    folder ++ [name] ∈ fs.home.take (folder.length + 1) :: fs.entries.map (·.1) := by
  unfold entry? at h
  split at h
  · next hp =>
    have hlen : (folder ++ [name]).length = folder.length + 1 := List.length_append
    rw [← hlen, ← List.prefix_iff_eq_take.mp (List.isPrefixOf_iff_prefix.mp hp)]
    exact List.mem_cons_self
  · refine List.mem_cons_of_mem _ ?_
    obtain ⟨x, hx⟩ := Option.isSome_iff_exists.mp h
    obtain ⟨l₁, l₂, e, -⟩ := List.lookup_eq_some_iff.mp hx
    rw [e]
    simp

/-- **The place of a temporary file is free**, since there are more names than places that are
taken. -/
theorem temporary_free (fs : FileSystem) (folder : List String) :
    fs.entry? (fs.temporary folder) = none := by
  unfold temporary
  dsimp only
  generalize hfree : (List.range (fs.entries.length + 2)).find? _ = free
  cases free with
  | some n =>
    have hn := List.find?_some hfree
    rw [Bool.not_eq_true', Option.isSome_eq_false_iff, Option.isNone_iff_eq_none] at hn
    exact hn
  | none =>
    exfalso
    rw [List.find?_eq_none] at hfree
    -- all names that were tried are taken, but they are more than there are places taken
    let names := (List.range (fs.entries.length + 2)).map fun n => folder ++ [temporaryName n]
    have hnodup : names.Nodup := by
      refine List.Nodup.map ?_ List.nodup_range
      intro m n h
      exact temporaryName_injective (List.singleton_injective (List.append_cancel_left h))
    have hsub : names ⊆ fs.home.take (folder.length + 1) :: fs.entries.map (·.1) := by
      intro q hq
      obtain ⟨n, hn, rfl⟩ := List.mem_map.mp hq
      apply taken_mem
      simpa [Option.isSome_iff_ne_none] using hfree n hn
    have hle := (hnodup.subperm hsub).length_le
    simp only [names, List.length_map, List.length_range, List.length_cons] at hle
    omega

/-! ## files written as a whole -/

theorem remove_put_keeps (x : FileEntry) (hfree : fs.entry? place = none) :
    Keeps [] fs ((fs.put place x).remove place) := by
  refine Keeps.fresh (keeps_at rfl ?_ fun q h => ?_) hfree
  · rw [hfree]
    nofun
  · rw [entry?_remove_of_ne _ h, entry?_put_of_ne _ _ h]

theorem move_error {temp : List String} {e : FileError}
    (h : fs.move temp bytes p = (fs', .error e)) : fs' = fs.remove temp := by
  unfold move at h
  dsimp only at h
  split at h
  · cases h
    rfl
  · split at h
    · cases h
      rfl
    · split at h
      · cases h
        rfl
      · cases h

theorem move_ok {temp : List String} (hfree : fs.entry? temp = none)
    (h : ((fs.put temp (.file bytes)).move temp bytes p) = (fs', .ok ())) :
    ∃ place, fs' = ((fs.put temp (.file bytes)).remove temp).put place (.file bytes) ∧
      Keeps [place] fs fs' ∧ fs'.find p = .ok (place, some (.file bytes)) := by
  unfold move at h
  dsimp only at h
  split at h
  · cases h
  · next place found hf =>
    split at h
    · cases h
    · split at h
      · cases h
      · next hnot =>
        cases h
        have hfile : entry? (fs.put temp (.file bytes)) temp = some (.file bytes) := by
          apply entry?_put_self
          rw [hfree]
          nofun
        have hnotemp : entry? (fs.put temp (.file bytes)) temp ≠ some .folder := by
          rw [hfile]
          nofun
        have hplace : entry? (fs.put temp (.file bytes)) place ≠ some .folder := by
          rw [← find_entry hf]
          exact hnot
        have hremoved := entry?_remove_ne_folder temp hplace
        have hmoved := ((keeps_remove hnotemp).mono (T := [temp, place]) (by simp)).trans
          ((keeps_put (.file bytes) hremoved).mono (by simp))
        have hput := (keeps_put_free (.file bytes) hfree).mono (List.nil_subset [temp, place])
        refine ⟨place, rfl, (hput.trans hmoved).fresh hfree, ?_⟩
        rw [find_keeps hmoved hf, entry?_put_self _ _ hremoved]

/-- **A file that cannot be replaced keeps its content, as do all others.** -/
theorem replace_error {e : FileError} (h : fs.replace p bytes = (fs', .error e)) :
    Keeps [] fs fs' := by
  have hmake := fs.makeFolder_keeps (S := []) p.parent
  unfold replace at h
  split at h
  · next hm =>
    cases h
    rw [hm] at hmake
    exact hmake
  · next fs₁ hm =>
    rw [hm] at hmake
    split at h
    · cases h
      exact hmake
    · next folder _ _ =>
      have hfree := fs₁.temporary_free folder
      dsimp only at h
      split at h
      · cases h
        exact hmake.trans (keeps_put_free _ hfree)
      · rw [move_error h]
        exact hmake.trans (remove_put_keeps _ hfree)

/-- a file that is replaced was moved from a free place, in a tree with all folders -/
theorem move_of_replace (h : fs.replace p bytes = (fs', .ok ())) :
    p.hasNul = false ∧ ∃ temp, entry? (fs.makeFolder p.parent).1 temp = none ∧
      move (put (fs.makeFolder p.parent).1 temp (.file bytes)) temp bytes p = (fs', .ok ()) := by
  unfold replace at h
  split at h
  · cases h
  · next fs₁ hm =>
    rw [hm]
    split at h
    · cases h
    · next folder _ _ =>
      dsimp only at h
      split at h
      · cases h
      · next hn => exact ⟨Bool.eq_false_iff.mpr hn, _, fs₁.temporary_free folder, h⟩

/-- **A file that is replaced has the new content, and all others keep theirs.** -/
theorem replace_ok (h : fs.replace p bytes = (fs', .ok ())) :
    ∃ place, fs'.place? p = some place ∧ Keeps [place] fs fs' ∧ fs'.read p = .ok bytes := by
  obtain ⟨hn, temp, hfree, hmove⟩ := move_of_replace h
  obtain ⟨place, -, hk, hf⟩ := move_ok hfree hmove
  have hmake := fs.makeFolder_keeps (S := []) p.parent
  exact ⟨place, place?_of_find hf, (hmake.mono (List.nil_subset _)).trans hk, read_of_find hn hf⟩

/-! ## paths that no system takes -/

theorem read_nul_iff : fs.read p = .error .nulInPath ↔ p.hasNul = true := by
  unfold read
  split
  · next h => exact ⟨fun _ => h, fun _ => rfl⟩
  · next h =>
    refine ⟨fun hr => ?_, fun hn => absurd hn h⟩
    split at hr <;> cases hr

theorem hasNul_of_parent (h : p.parent.hasNul = true) : p.hasNul = true := by
  obtain ⟨n, hn, hc⟩ := List.any_eq_true.mp h
  exact List.any_eq_true.mpr ⟨n, (List.dropLast_sublist _).subset hn, hc⟩

theorem makeAll_ne_nul (fs : FileSystem) (root : String) (names : List String) :
    (fs.makeAll root names).2 ≠ .error .nulInPath := by
  induction names generalizing fs with
  | nil => exact nofun
  | cons name names ih =>
    unfold makeAll
    dsimp only
    split
    · exact nofun
    · next fs' _ =>
      have hall := ih fs'
      split
      · next h =>
        rw [h] at hall
        exact hall
      · next fs'' _ =>
        cases (fs''.makeOne ⟨root, (name :: names).reverse⟩).2 <;> exact nofun
    · exact nofun

theorem makeFolder_nul (h : (fs.makeFolder p).2 = .error .nulInPath) : p.hasNul = true := by
  unfold makeFolder at h
  split at h
  · next hp => exact hp
  · exact absurd h (fs.makeAll_ne_nul p.root p.names.reverse)

theorem move_ne_nul (fs : FileSystem) (temp : List String) (bytes : List UInt8) (p : FilePath) :
    (fs.move temp bytes p).2 ≠ .error .nulInPath := by
  unfold move
  dsimp only
  split
  · exact nofun
  · split
    · exact nofun
    · split <;> exact nofun

theorem replace_nul (h : (fs.replace p bytes).2 = .error .nulInPath) : p.hasNul = true := by
  unfold replace at h
  split at h
  · next fs' e hm =>
    cases h
    exact hasNul_of_parent (makeFolder_nul (congrArg Prod.snd hm))
  · split at h
    · cases h
    · dsimp only at h
      split at h
      · next hp => exact hp
      · exact absurd h (move_ne_nul _ _ _ _)

end Organism.FileSystem

namespace Organism.FilePath

theorem mem_of_mem_pieces {c : Char} {cs p : List Char} (hp : p ∈ pieces cs) (hc : c ∈ p) :
    c ∈ cs := by
  induction cs generalizing p with
  | nil =>
    obtain rfl : p = [] := List.mem_singleton.mp hp
    cases hc
  | cons d cs ih =>
    unfold pieces at hp
    split at hp
    · next he => cases he
    · next cs' he =>
      cases he
      rcases List.mem_cons.mp hp with rfl | hp
      · cases hc
      · exact List.mem_cons_of_mem _ (ih hp hc)
    · next d' cs' _ he =>
      cases he
      split at hp
      · obtain rfl : p = [d] := List.mem_singleton.mp hp
        rw [List.mem_singleton.mp hc]
        exact List.mem_cons_self
      · next q qs hq =>
        rcases List.mem_cons.mp hp with rfl | hp
        · rcases List.mem_cons.mp hc with rfl | hc
          · exact List.mem_cons_self
          · exact List.mem_cons_of_mem _ (ih (hq ▸ List.mem_cons_self) hc)
        · exact List.mem_cons_of_mem _ (ih (hq ▸ List.mem_cons_of_mem _ hp) hc)

theorem mem_of_hasNul {s : String} (h : (ofString s).hasNul = true) : '\x00' ∈ s.toList := by
  obtain ⟨n, hn, hc⟩ := List.any_eq_true.mp h
  obtain ⟨p, hp, rfl⟩ := List.mem_map.mp (List.mem_filter.mp hn).1
  rw [String.toList_ofList] at hc
  exact mem_of_mem_pieces hp (List.contains_iff_mem.mp hc)

end Organism.FilePath
