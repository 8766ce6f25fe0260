import Organism.Proofs.Command.Saving

/-!
# Writing that is broken off

A file is written as a whole in four stages: the folders on the way to it, a temporary file beside
it, the content of that file, and the move to its place.  Each of them can be broken off, by the
system or by anything else.  What the system refuses is cleared up.

* `FileSystem.SameFiles`     the same files with the same contents, but for some places;
* `Stage`, `Breach`, `Mishap`, `FileSystem.attempt`   the writing, broken off at some stage;
* `attempt_none`             without a mishap it is `FileSystem.replace`;
* `Ended`, `ended_attempt`   the ways in which it ends;
* `replace_only`             **a file that is written is the only one that is changed**;
* `attempt_error`            **what is left behind otherwise**: no file, or the temporary one if
                             something other than the system broke off one of the last two stages;
* `nul_of_leaves`            by itself, only a path that no system takes leaves one behind;
* `saves_traceless`          all of it, for the state of an organism;
* `not_all_traceless`        a file that is left behind.
-/

namespace Organism

attribute [local instance] Rounding.binary64

namespace FileSystem

/-! ## the same files -/

/-- apart from the places, every file is where it was with its content, and there is no other -/
def SameFiles (S : List (List String)) (fs fs' : FileSystem) : Prop :=
  ∀ q bytes, q ∉ S → (fs'.entry? q = some (.file bytes) ↔ fs.entry? q = some (.file bytes))

variable {S : List (List String)} {fs fs' fs'' : FileSystem} {p : FilePath}
  {place temp : List String} {bytes : List UInt8}

theorem sameFiles_refl (S : List (List String)) (fs : FileSystem) : SameFiles S fs fs :=
  fun _ _ _ => Iff.rfl

theorem SameFiles.trans (h : SameFiles S fs fs') (h' : SameFiles S fs' fs'') :
    SameFiles S fs fs'' :=
  fun q bytes hq => (h' q bytes hq).trans (h q bytes hq)

theorem SameFiles.mono {T : List (List String)} (h : SameFiles S fs fs') (hST : S ⊆ T) :
    SameFiles T fs fs' :=
  fun q bytes hT => h q bytes fun hS => hT (hST hS)

theorem SameFiles.unless_file (h : SameFiles [place] fs fs')
    (hbefore : ∀ bytes, fs.entry? place ≠ some (.file bytes))
    (hafter : ∀ bytes, fs'.entry? place ≠ some (.file bytes)) : SameFiles [] fs fs' := by
  intro q bytes _
  by_cases hq : q = place
  · subst hq
    exact iff_of_false (hafter bytes) (hbefore bytes)
  · exact h q bytes fun hmem => hq (List.mem_singleton.mp hmem)

theorem sameFiles_put (fs : FileSystem) (place : List String) (x : FileEntry) :
    SameFiles [place] fs (fs.put place x) := by
  intro q bytes hq
  rw [fs.entry?_put_of_ne x fun he => hq (List.mem_singleton.mpr he)]

theorem sameFiles_put_folder (h : fs.entry? place = none) :
    SameFiles [] fs (fs.put place .folder) := by
  refine (fs.sameFiles_put place .folder).unless_file (fun bytes => ?_) fun bytes => ?_
  · rw [h]
    nofun
  · rw [fs.entry?_put_self .folder (by rw [h]; nofun)]
    nofun

theorem sameFiles_makeFolder (fs : FileSystem) (p : FilePath) :
    SameFiles [] fs (fs.makeFolder p).1 :=
  makeFolder_rule (sameFiles_refl []) SameFiles.trans (fun _ _ => sameFiles_put_folder) fs p

theorem entry?_remove_put (h : fs.entry? temp = none) (bytes : List UInt8) (q : List String) :
    entry? ((fs.put temp (.file bytes)).remove temp) q = fs.entry? q := by
  by_cases hq : q = temp
  · subst hq
    have hput : entry? (fs.put q (.file bytes)) q = some (.file bytes) :=
      fs.entry?_put_self _ (by rw [h]; nofun)
    rw [entry?_remove_self _ (by rw [hput]; nofun), h]
  · rw [entry?_remove_of_ne _ hq, fs.entry?_put_of_ne _ hq]

theorem sameFiles_remove_put (h : fs.entry? temp = none) (bytes : List UInt8) :
    SameFiles [] fs ((fs.put temp (.file bytes)).remove temp) := by
  intro q _ _
  rw [entry?_remove_put h]

theorem free_of_keeps (h : Keeps [] fs fs') (hplace : fs'.entry? place = none) :
    fs.entry? place = none := by
  cases he : fs.entry? place with
  | none => rfl
  | some x =>
    cases x with
    | folder => exact absurd (h.folders place he) (by rw [hplace]; nofun)
    | file bytes => exact absurd (h.files place bytes List.not_mem_nil he) (by rw [hplace]; nofun)

end FileSystem

/-! ## stages -/

inductive Stage where
  | folders
  | temporary
  | content
  | move
deriving DecidableEq

inductive Breach where
  | system (message : String)
  | other (message : String)
deriving DecidableEq

def Breach.ofFile : FileError → Breach
  | .os reason path target => system (FileError.message (.os reason path target))
  | .nulInPath => other (FileError.message .nulInPath)

/-- a stage is broken off: the names of the folder, or the bytes, come so far -/
structure Mishap where
  stage : Stage
  amount : Nat
  breach : Breach

def Mishap.at? (m : Option Mishap) (s : Stage) : Option Mishap := m.filter (·.stage = s)

def Stage.leaves : Stage → Breach → Bool
  | content, .other _ | move, .other _ => true
  | _, _ => false

namespace FileSystem

variable {fs fs' : FileSystem} {p : FilePath} {bytes : List UInt8}

def clearUp (fs : FileSystem) (temp : List String) : Breach → FileSystem
  | .system _ => fs.remove temp
  | .other _ => fs

/-- a file written as a whole, unless a mishap breaks it off before -/
def attempt (fs : FileSystem) (m : Option Mishap) (p : FilePath) (bytes : List UInt8) :
    FileSystem × Except (Stage × Breach) Unit :=
  match Mishap.at? m .folders with
  | some x =>
    ((fs.makeFolder ⟨p.root, p.parent.names.take x.amount⟩).1, .error (.folders, x.breach))
  | none =>
    match fs.makeFolder p.parent with
    | (fs, .error e) => (fs, .error (.folders, .ofFile e))
    | (fs, .ok ()) =>
      match Mishap.at? m .temporary with
      | some x => (fs, .error (.temporary, x.breach))
      | none =>
        match fs.find p.parent with
        | .error reason => (fs, .error (.temporary, .ofFile (.os reason p.parent.text none)))
        | .ok (folder, _) =>
          let temp := fs.temporary folder
          match Mishap.at? m .content with
          | some x =>
            ((fs.put temp (.file (bytes.take x.amount))).clearUp temp x.breach,
              .error (.content, x.breach))
          | none =>
            let fs := fs.put temp (.file bytes)
            match Mishap.at? m .move with
            | some x => (fs.clearUp temp x.breach, .error (.move, x.breach))
            | none =>
              if p.hasNul then (fs, .error (.move, .ofFile .nulInPath))
              else
                ((fs.move temp bytes p).1,
                  (fs.move temp bytes p).2.mapError fun e => (.move, .ofFile e))

/-- **Without a mishap a file is written as by the organism.** -/
theorem attempt_none (fs : FileSystem) (p : FilePath) (bytes : List UInt8) :
    (fs.attempt none p bytes).1 = (fs.replace p bytes).1 ∧
      (fs.attempt none p bytes).2.mapError Prod.snd
        = (fs.replace p bytes).2.mapError Breach.ofFile := by
  unfold attempt replace Mishap.at?
  dsimp only [Option.filter_none]
  rcases fs.makeFolder p.parent with ⟨fs, e | _⟩
  · exact ⟨rfl, rfl⟩
  dsimp only
  rcases fs.find p.parent with reason | ⟨folder, found⟩
  · exact ⟨rfl, rfl⟩
  dsimp only
  split
  · exact ⟨rfl, rfl⟩
  · refine ⟨rfl, ?_⟩
    generalize (move _ _ _ _).2 = outcome
    cases outcome <;> rfl

/-- the ways in which the writing of a file ends -/
inductive Ended (fs : FileSystem) (p : FilePath) (bytes : List UInt8) :
    FileSystem → Except (Stage × Breach) Unit → Prop
  | folders {fs' : FileSystem} (q : FilePath) (e : Breach) (hq : (fs.makeFolder q).1 = fs') :
      Ended fs p bytes fs' (.error (.folders, e))
  | temporary {fs' : FileSystem} (e : Breach) (hm : (fs.makeFolder p.parent).1 = fs') :
      Ended fs p bytes fs' (.error (.temporary, e))
  | late {fs' : FileSystem} {folder : List String} {content : List UInt8} {s : Stage} (e : Breach)
      (hm : (fs.makeFolder p.parent).1 = fs') (hfolder : fs'.place? p.parent = some folder)
      (hs : s = .content ∨ s = .move) (hcontent : content <+: bytes) :
      Ended fs p bytes
        ((fs'.put (fs'.temporary folder) (.file content)).clearUp (fs'.temporary folder) e)
        (.error (s, e))
  | done {fs' : FileSystem} (h : fs.replace p bytes = (fs', .ok ())) :
      Ended fs p bytes fs' (.ok ())

theorem ended_attempt (fs : FileSystem) (m : Option Mishap) (p : FilePath) (bytes : List UInt8) :
    Ended fs p bytes (fs.attempt m p bytes).1 (fs.attempt m p bytes).2 := by
  unfold attempt
  cases Mishap.at? m .folders with
  | some x => exact .folders _ _ rfl
  | none =>
    dsimp only
    rcases hm : fs.makeFolder p.parent with ⟨fs', e | _⟩
    · exact .folders _ _ (congrArg Prod.fst hm)
    have hm' : (fs.makeFolder p.parent).1 = fs' := congrArg Prod.fst hm
    dsimp only
    cases Mishap.at? m .temporary with
    | some x => exact .temporary _ hm'
    | none =>
      dsimp only
      rcases hf : fs'.find p.parent with reason | ⟨folder, found⟩
      · exact .temporary _ hm'
      have hfolder := place?_of_find hf
      dsimp only
      cases Mishap.at? m .content with
      | some x => exact .late _ hm' hfolder (.inl rfl) (List.take_prefix _ _)
      | none =>
        dsimp only
        cases Mishap.at? m .move with
        | some x => exact .late _ hm' hfolder (.inr rfl) List.prefix_rfl
        | none =>
          dsimp only
          split
          · exact .late (.ofFile .nulInPath) hm' hfolder (.inr rfl) List.prefix_rfl
          · next hn =>
            rcases hv : (fs'.put (fs'.temporary folder) (.file bytes)).move
              (fs'.temporary folder) bytes p with ⟨fs'', e | _⟩
            · obtain rfl := move_error hv
              cases e with
              | nulInPath => exact absurd (congrArg Prod.snd hv) (move_ne_nul _ _ _ _)
              | os reason path target =>
                exact .late (.ofFile (.os reason path target)) hm' hfolder (.inr rfl)
                  List.prefix_rfl
            · refine .done ?_
              unfold replace
              rw [hm]
              dsimp only
              rw [hf]
              dsimp only
              rw [if_neg hn, hv]

/-! ## what is left -/

theorem attempt_ok {m : Option Mishap} (h : fs.attempt m p bytes = (fs', .ok ())) :
    fs.replace p bytes = (fs', .ok ()) := by
  have hended := fs.ended_attempt m p bytes
  rw [h] at hended
  cases hended with
  | done hr => exact hr

/-- **A file that is written is the only one that is changed.** -/
theorem replace_only (h : fs.replace p bytes = (fs', .ok ())) :
    ∃ place, fs'.find p = .ok (place, some (.file bytes)) ∧ SameFiles [place] fs fs' := by
  obtain ⟨-, temp, hfree, hmove⟩ := move_of_replace h
  obtain ⟨place, rfl, -, hf⟩ := move_ok hfree hmove
  refine ⟨place, hf, ?_⟩
  have hmoved := (fs.sameFiles_makeFolder p.parent).trans (sameFiles_remove_put hfree bytes)
  exact (hmoved.mono (List.nil_subset _)).trans (sameFiles_put _ place _)

/-- one file more than before, in the folder of the path, with bytes that were to be written -/
def LeavesOne (fs : FileSystem) (p : FilePath) (bytes : List UInt8) (fs' : FileSystem) : Prop :=
  ∃ folder name content, fs'.place? p.parent = some folder ∧
    fs.entry? (folder ++ [name]) = none ∧
    fs'.entry? (folder ++ [name]) = some (.file content) ∧ content <+: bytes ∧
    SameFiles [folder ++ [name]] fs fs'

theorem leavesOne_put {folder : List String} {name : String} {content : List UInt8}
    (hkeeps : Keeps [] fs fs') (hsame : SameFiles [] fs fs')
    (hfolder : fs'.place? p.parent = some folder)
    (hfree : fs'.entry? (folder ++ [name]) = none) (hcontent : content <+: bytes) :
    LeavesOne fs p bytes (fs'.put (folder ++ [name]) (.file content)) := by
  obtain ⟨⟨q, found⟩, hf, rfl⟩ := Option.map_eq_some_iff.mp hfolder
  have hfind := find_keeps (keeps_put_free (.file content) hfree) (ok_of_toOption hf)
  refine ⟨q, name, content, place?_of_find hfind, free_of_keeps hkeeps hfree, ?_, hcontent, ?_⟩
  · exact entry?_put_self _ _ (by rw [hfree]; nofun)
  · exact (hsame.mono (List.nil_subset _)).trans (sameFiles_put _ _ _)

/-- **What is left behind when the writing of a file is broken off**: no file, or one temporary
file. -/
theorem attempt_error {m : Option Mishap} {s : Stage} {e : Breach}
    (h : fs.attempt m p bytes = (fs', .error (s, e))) :
    Keeps [] fs fs' ∧ (s.leaves e = false → SameFiles [] fs fs') ∧
      (s.leaves e = true → LeavesOne fs p bytes fs') := by
  have hended := fs.ended_attempt m p bytes
  rw [h] at hended
  cases hended with
  | folders q e hq =>
    subst hq
    exact ⟨fs.makeFolder_keeps q, fun _ => fs.sameFiles_makeFolder q, fun hl => by cases hl⟩
  | temporary e hm =>
    subst hm
    exact ⟨fs.makeFolder_keeps p.parent, fun _ => fs.sameFiles_makeFolder p.parent,
      fun hl => by cases hl⟩
  | @late fs₁ folder content s e hm hfolder hs hcontent =>
    have hfree := fs₁.temporary_free folder
    have hkeeps : Keeps [] fs fs₁ := hm ▸ fs.makeFolder_keeps p.parent
    have hsame : SameFiles [] fs fs₁ := hm ▸ fs.sameFiles_makeFolder p.parent
    have hleaves : s.leaves e = match e with | .system _ => false | .other _ => true := by
      rcases hs with rfl | rfl <;> cases e <;> rfl
    rw [hleaves]
    cases e with
    | system message =>
      exact ⟨hkeeps.trans (remove_put_keeps _ hfree),
        fun _ => hsame.trans (sameFiles_remove_put hfree content), nofun⟩
    | other message =>
      exact ⟨hkeeps.trans (keeps_put_free _ hfree), nofun,
        fun _ => leavesOne_put hkeeps hsame hfolder hfree hcontent⟩

/-- **By itself, only a path that no system takes leaves a file behind**, and only if it is its last
name that the system does not take. -/
theorem nul_of_leaves {s : Stage} {e : Breach}
    (h : (fs.attempt none p bytes).2 = .error (s, e)) (hl : s.leaves e = true) :
    p.hasNul = true ∧ p.parent.hasNul = false := by
  constructor
  · have hreplace := (fs.attempt_none p bytes).2
    rw [h] at hreplace
    rcases hr : (fs.replace p bytes).2 with e' | _
    · rw [hr] at hreplace
      obtain rfl : e = .ofFile e' := Except.error.inj hreplace
      cases e' with
      | nulInPath => exact replace_nul hr
      | os reason path target => cases s <;> cases hl
    · rw [hr] at hreplace
      cases hreplace
  · by_contra hn
    have hparent : fs.makeFolder p.parent = (fs, .error .nulInPath) := by
      unfold makeFolder
      rw [if_pos (by simpa using hn)]
    unfold attempt at h
    rw [hparent] at h
    cases h
    cases hl

end FileSystem

/-! ## the state of an organism -/

namespace Act

open FileSystem

/-- **A save leaves no trace but the file, unless something other than the system breaks it off.**
Whatever breaks off which stage: if the state is written, the file of the path has it and no other
file is changed, lost or new.  If not, all files are as they were, apart from a temporary file that
is left behind if the content or the move of it was broken off by something other than the system.
A save that nothing interferes with leaves one behind only for a path with a zero character in its
last name. -/
theorem saves_traceless (b : Body) (path : FilePath) (m : Option Mishap) :
    let data := Utf8.encode (State.write b.topology)
    let run := (saveState path).run b
    let tried := b.files.attempt m path data
    (m = none → run.2.files = tried.1 ∧ run.1.isOk = tried.2.isOk) ∧
      (tried.2 = .ok () → tried.1.read path = .ok data ∧
        ∃ place, tried.1.place? path = some place ∧ SameFiles [place] b.files tried.1) ∧
      ∀ s e, tried.2 = .error (s, e) →
        (∀ bytes, b.files.read path = .ok bytes → tried.1.read path = .ok bytes) ∧
          (s.leaves e = false → SameFiles [] b.files tried.1) ∧
          (s.leaves e = true → LeavesOne b.files path data tried.1) ∧
          (m = none → s.leaves e = true → path.hasNul = true ∧ path.parent.hasNul = false) := by
  intro data run tried
  refine ⟨?_, ?_, ?_⟩
  · rintro rfl
    obtain ⟨hfiles, hends⟩ := run_saveState b path
    obtain ⟨htree, houtcome⟩ := b.files.attempt_none path data
    refine ⟨hfiles.trans htree.symm, hends.trans ?_⟩
    have hok := congrArg Except.isOk houtcome
    rwa [isOk_mapError, isOk_mapError, eq_comm] at hok
  · intro hok
    have hreplaced := attempt_ok (Prod.ext rfl hok)
    obtain ⟨place, hf, hsame⟩ := replace_only hreplaced
    exact ⟨read_of_find (move_of_replace hreplaced).1 hf, place, place?_of_find hf, hsame⟩
  · intro s e herror
    obtain ⟨hkeeps, hsame, hleaves⟩ := attempt_error (Prod.ext rfl herror)
    refine ⟨fun bytes hread => ?_, hsame, hleaves, ?_⟩
    · exact read_keeps hkeeps hread fun _ _ => List.not_mem_nil
    · rintro rfl
      exact nul_of_leaves herror

/-- the disk is full in the middle of the content -/
theorem saves_traceless_full :
    let b : Body :=
      { topology := .sample 1, senses := .script (fun _ f => .ok f.nominal) 0, dice := .scripted []
        files := ⟨[], [(["state"], .file [48])]⟩ }
    let full : Mishap := ⟨.content, 10, .system "[Errno 28] No space left on device"⟩
    let path : FilePath := .ofString "state"
    let tried := b.files.attempt (some full) path (Utf8.encode (State.write b.topology))
    tried.2 = .error (.content, full.breach) ∧ tried.1.read path = .ok [48] ∧
      SameFiles [] b.files tried.1 := by
  intro b full path tried
  have hbroken : tried.2 = .error (.content, full.breach) := by decide +kernel
  obtain ⟨-, -, herror⟩ := saves_traceless b path (some full)
  obtain ⟨hread, hsame, -⟩ := herror _ _ hbroken
  exact ⟨hbroken, hread [48] (by decide +kernel), hsame rfl⟩

/-- a save to a path with a zero character fails and leaves a file behind -/
theorem not_all_traceless :
    ¬ ∀ (b : Body) (path : FilePath), b.topology.Whole →
      ((saveState path).run b).1.isOk = false →
        SameFiles [] b.files ((saveState path).run b).2.files := by
  intro hall
  let b : Body :=
    { topology := .sample 1, senses := .script (fun _ f => .ok f.nominal) 0, dice := .scripted [] }
  let path : FilePath := .ofString "a\x00b"
  let temp : List String := ["tmp00000000.tmp"]
  have hfails : ((saveState path).run b).1.isOk = false := by decide +kernel
  have hleft : ((saveState path).run b).2.files.entry? temp
      = some (.file (Utf8.encode (State.write b.topology))) := by decide +kernel
  have hsame := hall b path (Topology.sample_whole Number.inUnit_one) hfails
  have hbefore := (hsame temp _ List.not_mem_nil).mp hleft
  cases hbefore

end Act
end Organism
