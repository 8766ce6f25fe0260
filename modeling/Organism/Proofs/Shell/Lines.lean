import Organism.Proofs.Command.Answers
import Organism.Proofs.Request.Accepted
import Organism.Proofs.Scheduler.Ready
import Organism.Shell.Basic

/-!
# What the shell makes of a line

A line that is read ends the session, is refused, or is carried out in a tick of its own, and what
came of it is shown.  The one exception is a command that breaks off, as its path is none that a
system takes: its fault is that of the whole shell.

* `Shell.Jams`           the line is one of the exception; `Shell.BreaksOff` for a load;
* `Shell.Answered`       what is shown of a line, and what it does to the shell;
* `line_cases`           one line: it is answered, or it jams and breaks off;
* `Shell.Told`           lines answered one after the other, none of which ends the session;
* `lines_append`         a run of lines;
* `session_answered`     **all lines that do not jam are answered, and the session is closed**;
* `not_all_lines_answered`   a line that is not.
-/

namespace Organism.Shell

attribute [local instance] Rounding.binary64

/-! ## lines -/

def ends (text : String) : Bool := isQuit (Text.trim text)

/-- the line is a command to save to or load from a path that no system takes -/
def Jams (setup : Setup) (text : String) : Prop :=
  ends text = false ∧ ∃ r ∈ (Request.ofLine (Text.trim text)).toOption, Command.Pathless setup r

structure BreaksOff (setup : Setup) (text : String) (r : Request) : Prop where
  goesOn : ends text = false
  read : Request.ofLine (Text.trim text) = .ok r
  loads : r.operation = .load
  pathless : Command.Pathless setup r

structure Ready (s : Shell) : Prop where
  prompt : s.prompt = true
  scheduler : s.scheduler.Ready

def ticked (s : Shell) (r : Request) : Shell :=
  { s with scheduler := (s.scheduler.submit r).1.step }

def shown (result : CommandResult) : String :=
  (if result.ok then "" else "error: ") ++ result.message

/-- what becomes of a line: whether the session goes on, and the shell after it -/
inductive Answered (s : Shell) (text : String) : Bool → Shell → Prop
  | blank : Text.trim text = "" → Answered s text true s
  | quit : ends text = true → Answered s text false s
  | refused {e : RequestError} :
    Text.trim text ≠ "" → ends text = false → Request.ofLine (Text.trim text) = .error e →
      Answered s text true (s.print s!"error: {e.message}")
  | served {x : Handling} {result : CommandResult} :
    ends text = false → Request.ofLine (Text.trim text) = .ok x.request →
      x ∈ (s.scheduler.submit x.request).1.handled → x.id = (s.scheduler.submit x.request).2 →
      x.outcome = .ok result →
      Answered s text true ((s.ticked x.request).print (shown result))

inductive Told : Shell → List String → Shell → Prop
  | nil (s : Shell) : Told s [] s
  | cons {s s' s'' : Shell} {l : String} {ls : List String} :
    Answered s l true s' → Told s' ls s'' → Told s (l :: ls) s''

instance (setup : Setup) (r : Request) : Decidable (Command.Pathless setup r) :=
  inferInstanceAs (Decidable (_ ∧ _))

instance (setup : Setup) (text : String) : Decidable (Jams setup text) :=
  inferInstanceAs (Decidable (_ ∧ _))

variable {s s' : Shell} {text : String} {go : Bool}

theorem ready_create {scheduler : Scheduler} (h : scheduler.Ready) (autoload autosave : Bool) :
    (create scheduler autoload autosave).Ready :=
  ⟨rfl, h.standard, h.whole, h.tracked⟩

theorem Ready.print (h : s.Ready) (line : String) : (s.print line).Ready :=
  ⟨h.prompt, h.scheduler.standard, h.scheduler.whole, h.scheduler.tracked⟩

theorem Ready.ticked (h : s.Ready) (r : Request) : (s.ticked r).Ready :=
  ⟨h.prompt, (h.scheduler.submit r).step⟩

theorem ask_done (h : s.prompt = true) {r : Request} {result : CommandResult}
    (ho : (s.ticked r).scheduler.queue.outcome? (s.scheduler.submit r).2 = some (.done result)) :
    s.ask r = (.ok true, (s.ticked r).print (shown result)) := by
  unfold ticked at ho
  unfold ask
  dsimp only at ho ⊢
  rewrite [if_pos h, ho]
  rfl

theorem ask_crashed (h : s.prompt = true) {r : Request} {e : Fault}
    (ho : (s.ticked r).scheduler.queue.outcome? (s.scheduler.submit r).2 = some (.crashed e)) :
    s.ask r = (.error e, s.ticked r) := by
  unfold ticked at ho
  unfold ask
  dsimp only at ho ⊢
  rewrite [if_pos h, ho]
  rfl

/-! ## one line -/

theorem ask_handled (hs : s.Ready) (r : Request) :
    ∃ x ∈ (s.scheduler.submit r).1.handled, x.id = (s.scheduler.submit r).2 ∧ x.request = r ∧
      x.before.topology.Whole ∧
      (Command.handle s.scheduler.setup r).run x.before = (x.outcome, x.after) ∧
      (∀ result, x.outcome = .ok result →
        s.ask r = (.ok true, (s.ticked r).print (shown result))) ∧
      ∀ e, x.outcome = .error e → s.ask r = (.error e, s.ticked r) := by
  obtain ⟨x, hx, hid, hr, hw, hrun, hticket⟩ := hs.scheduler.serves r
  unfold Handling.ticket at hticket
  refine ⟨x, hx, hid, hr, hw, hrun, fun result ho => ?_, fun e ho => ?_⟩
  · rw [ho] at hticket
    exact ask_done hs.prompt hticket
  · rw [ho] at hticket
    exact ask_crashed hs.prompt hticket

theorem ask_cases (hs : s.Ready) {r : Request} (hr : r.Accepted) :
    (∃ x ∈ (s.scheduler.submit r).1.handled, ∃ result,
      x.id = (s.scheduler.submit r).2 ∧ x.request = r ∧ x.outcome = .ok result ∧
        s.ask r = (.ok true, (s.ticked r).print (shown result))) ∨
    (Command.Pathless s.scheduler.setup r ∧
      s.ask r = (.error (.file .nulInPath), s.ticked r)) := by
  obtain ⟨x, hx, hid, hreq, hw, hrun, hdone, hcrashed⟩ := ask_handled hs r
  have hanswer := (Command.answers_handle s.scheduler.setup hw hr).after x.before rfl
  rw [hrun] at hanswer
  cases ho : x.outcome with
  | ok result => exact .inl ⟨x, hx, result, hid, hreq, ho, hdone result ho⟩
  | error e =>
    rw [ho] at hanswer
    obtain ⟨rfl, hpath⟩ := hanswer
    exact .inr ⟨hpath, hcrashed _ ho⟩

theorem ask_load (hs : s.Ready) {r : Request} (hop : r.operation = .load)
    (hpath : Command.Pathless s.scheduler.setup r) :
    s.ask r = (.error (.file .nulInPath), s.ticked r) := by
  obtain ⟨x, -, -, -, -, hrun, -, hcrashed⟩ := ask_handled hs r
  have hbreak := (Command.breaks_off (b := x.before) s.scheduler.setup hop hpath.2).after _ rfl
  rw [hrun] at hbreak
  cases ho : x.outcome with
  | ok result =>
    rw [ho] at hbreak
    exact hbreak.elim
  | error e =>
    rw [ho] at hbreak
    obtain ⟨rfl, -⟩ := hbreak
    exact hcrashed _ ho

theorem line_blank (h : Text.trim text = "") : s.line text = (.ok true, s) := by
  unfold line
  rw [h]
  rfl

theorem line_quit (h : ends text = true) : s.line text = (.ok false, s) := by
  have hblank : (Text.trim text).isEmpty = false := by
    rw [← Bool.not_eq_true, String.isEmpty_iff]
    intro he
    unfold ends at h
    rw [he] at h
    exact absurd h (by decide)
  unfold line
  dsimp only
  rw [hblank, if_neg Bool.false_ne_true]
  exact if_pos h

section
variable (hends : ends text = false)
include hends

theorem line_refused (hblank : Text.trim text ≠ "") {e : RequestError}
    (hr : Request.ofLine (Text.trim text) = .error e) :
    s.line text = (.ok true, s.print s!"error: {e.message}") := by
  unfold line
  dsimp only
  rw [if_neg (mt String.isEmpty_iff.mp hblank), show isQuit (Text.trim text) = false from hends,
    if_neg Bool.false_ne_true, hr]

theorem line_request {r : Request} (hr : Request.ofLine (Text.trim text) = .ok r) :
    s.line text = s.ask r := by
  have hblank : ¬ (Text.trim text).isEmpty = true := by
    rw [String.isEmpty_iff]
    intro he
    rw [he] at hr
    cases hr
  unfold line
  dsimp only
  rw [if_neg hblank, show isQuit (Text.trim text) = false from hends,
    if_neg Bool.false_ne_true, hr]

end

/-- **A line is answered, or it jams and breaks off.** -/
theorem line_cases (hs : s.Ready) (text : String) :
    (∃ go s', s.line text = (.ok go, s') ∧ Answered s text go s') ∨
    (ends text = false ∧ ∃ r, Request.ofLine (Text.trim text) = .ok r ∧
      Command.Pathless s.scheduler.setup r ∧
      s.line text = (.error (.file .nulInPath), s.ticked r)) := by
  by_cases hblank : Text.trim text = ""
  · exact .inl ⟨true, s, line_blank hblank, .blank hblank⟩
  cases hends : ends text with
  | true => exact .inl ⟨false, s, line_quit hends, .quit hends⟩
  | false =>
    cases hr : Request.ofLine (Text.trim text) with
    | error e =>
      exact .inl ⟨true, _, line_refused hends hblank hr, .refused hblank hends hr⟩
    | ok r =>
      rw [line_request hends hr]
      rcases ask_cases hs (Request.accepted_ofLine hr) with
        ⟨x, hx, result, hid, rfl, ho, hask⟩ | ⟨hpath, hask⟩
      · exact .inl ⟨true, _, hask, .served hends hr hx hid ho⟩
      · exact .inr ⟨rfl, r, rfl, hpath, hask⟩

theorem BreaksOff.line (hs : s.Ready) {r : Request} (h : BreaksOff s.scheduler.setup text r) :
    s.line text = (.error (.file .nulInPath), s.ticked r) :=
  (line_request h.goesOn h.read).trans (ask_load hs h.loads h.pathless)

theorem line_answered (hs : s.Ready) (h : ¬ Jams s.scheduler.setup text) :
    ∃ go s', s.line text = (.ok go, s') ∧ Answered s text go s' := by
  rcases line_cases hs text with h' | ⟨hends, r, hr, hpath, -⟩
  · exact h'
  · exact absurd ⟨hends, r, by rw [hr]; rfl, hpath⟩ h

namespace Answered

theorem ready (h : Answered s text go s') (hs : s.Ready) : s'.Ready := by
  cases h with
  | blank => exact hs
  | quit => exact hs
  | refused => exact hs.print _
  | served => exact (hs.ticked _).print _

theorem kept (h : Answered s text go s') :
    s'.scheduler.setup = s.scheduler.setup ∧ s'.isClosing = s.isClosing := by
  cases h <;> exact ⟨rfl, rfl⟩

theorem go_eq (h : Answered s text go s') : go = !ends text := by
  cases h with
  | blank hblank =>
    unfold ends
    rw [hblank]
    decide
  | quit hends => rw [hends]; rfl
  | refused _ hends _ => rw [hends]; rfl
  | served hends _ _ _ _ => rw [hends]; rfl

end Answered

/-! ## many lines -/

namespace Told

variable {ls : List String}

theorem ready (h : Told s ls s') (hs : s.Ready) : s'.Ready := by
  induction h with
  | nil => exact hs
  | cons hl _ ih => exact ih (hl.ready hs)

theorem kept (h : Told s ls s') :
    s'.scheduler.setup = s.scheduler.setup ∧ s'.isClosing = s.isClosing := by
  induction h with
  | nil => exact ⟨rfl, rfl⟩
  | cons hl _ ih => exact ⟨ih.1.trans hl.kept.1, ih.2.trans hl.kept.2⟩

end Told

section
variable {l : String} {ls : List String} (hopen : s.isClosing = false)
include hopen

theorem lines_on (h : s.line l = (.ok true, s')) : s.lines (l :: ls) = s'.lines ls := by
  conv_lhs => unfold lines
  rw [hopen, if_neg Bool.false_ne_true, h]

theorem lines_end (h : s.line l = (.ok false, s')) : s.lines (l :: ls) = (.ok (), s') := by
  conv_lhs => unfold lines
  rw [hopen, if_neg Bool.false_ne_true, h]

theorem lines_broken {e : Fault} (h : s.line l = (.error e, s')) :
    s.lines (l :: ls) = (.error e, s') := by
  conv_lhs => unfold lines
  rw [hopen, if_neg Bool.false_ne_true, h]

end

/-- lines that neither jam nor end the session are answered, and the next ones are heard -/
theorem lines_append (hs : s.Ready) (hopen : s.isClosing = false) {before : List String}
    (hbefore : ∀ l ∈ before, ends l = false ∧ ¬ Jams s.scheduler.setup l) (rest : List String) :
    ∃ s', Told s before s' ∧ s.lines (before ++ rest) = s'.lines rest := by
  induction before generalizing s with
  | nil => exact ⟨s, .nil s, rfl⟩
  | cons l ls ih =>
    obtain ⟨⟨hends, hjams⟩, hls⟩ := List.forall_mem_cons.mp hbefore
    obtain ⟨go, s₁, hline, hl⟩ := line_answered hs hjams
    obtain rfl : go = true := by rw [hl.go_eq, hends]; rfl
    obtain ⟨hsetup, hclosing⟩ := hl.kept
    obtain ⟨s₂, htold, hlines⟩ := ih (hl.ready hs) (hclosing.trans hopen) (hsetup.symm ▸ hls)
    exact ⟨s₂, .cons hl htold, (lines_on hopen hline).trans hlines⟩

def heard (input : List String) : List String := input.takeWhile fun l => !ends l

theorem ends_of_mem_heard {input : List String} {l : String} (h : l ∈ heard input) :
    ends l = false := by
  have hl := List.mem_takeWhile_imp h
  rwa [Bool.not_eq_true'] at hl

theorem lines_heard (hs : s.Ready) (hopen : s.isClosing = false) {input : List String}
    (h : ∀ l ∈ heard input, ¬ Jams s.scheduler.setup l) :
    ∃ s', Told s (heard input) s' ∧ s.lines input = (.ok (), s') := by
  obtain ⟨s', htold, hlines⟩ := lines_append hs hopen
    (fun l hl => ⟨ends_of_mem_heard hl, h l hl⟩) (input.dropWhile fun l => !ends l)
  refine ⟨s', htold, ?_⟩
  rw [heard, List.takeWhile_append_dropWhile] at hlines
  rw [hlines]
  cases hrest : input.dropWhile fun l => !ends l with
  | nil => rfl
  | cons l ls =>
    have hl : ends l = true := by
      have := List.head?_dropWhile_not (fun l => !ends l) input
      rw [hrest] at this
      simpa using this
    exact lines_end (htold.kept.2.trans hopen) (line_quit hl)

theorem converse_told {input : List String} (h : (s.print banner).lines input = (.ok (), s')) :
    s.converse input = s'.close.stop := by
  unfold converse
  rw [h]

theorem converse_broken {input : List String} {e : Fault}
    (h : (s.print banner).lines input = (.error e, s')) : s.converse input = (.error e, s') := by
  unfold converse
  rw [h]

theorem isClosing_stop (s : Shell) : s.stop.2.isClosing = s.isClosing := by
  have hkeep : ∀ u : Shell, u.keep.2.isClosing = u.isClosing := by
    intro u
    unfold keep
    split <;> rfl
  unfold stop
  split
  · have hk := hkeep (s.note .info "Stopping AION kernel...")
    generalize (s.note .info "Stopping AION kernel...").keep = r at hk ⊢
    rcases r with ⟨e | _, s'⟩
    · exact hk
    · exact hk
  · rfl

/-- **Every line that does not jam is answered, and the session goes on to its end.**  In a shell
that carries its commands out in a tick of their own, for an organism with all its organs, as it was
built and whatever happened to it since:

* a line is answered, which ends the session exactly if it is the word for that, or it jams and the
  fault of its path is the fault of the shell;
* a load from such a path always breaks off so;
* if no line before the end of the session jams, each of them is answered in its turn, and then the
  session is closed and the shell stopped;
* if one of them is a load that jams, those before it are answered, and nothing asks for the end. -/
theorem session_answered (hs : s.Ready) :
    let setup := s.scheduler.setup
    (∀ text,
      (∃ go s', s.line text = (.ok go, s') ∧ Answered s text go s' ∧
        (go = false ↔ ends text = true) ∧ s'.Ready ∧ s'.scheduler.setup = setup ∧
        s'.isClosing = s.isClosing) ∨
      (Jams setup text ∧ ∃ r, Request.ofLine (Text.trim text) = .ok r ∧
        s.line text = (.error (.file .nulInPath), s.ticked r))) ∧
    (∀ text r, BreaksOff setup text r →
      s.line text = (.error (.file .nulInPath), s.ticked r)) ∧
    (s.isClosing = false →
      (∀ input, (∀ l ∈ heard input, ¬ Jams setup l) →
        ∃ s', Told (s.print banner) (heard input) s' ∧ s.converse input = s'.close.stop ∧
          (s.converse input).2.isClosing = true) ∧
      ∀ before text r after, (∀ l ∈ before, ends l = false ∧ ¬ Jams setup l) →
        BreaksOff setup text r →
          ∃ s', Told (s.print banner) before s' ∧
            s.converse (before ++ text :: after) = (.error (.file .nulInPath), s'.ticked r) ∧
            (s'.ticked r).isClosing = false) := by
  intro setup
  refine ⟨fun text => ?_, fun text r h => h.line hs, fun hopen => ⟨fun input hinput => ?_, ?_⟩⟩
  · rcases line_cases hs text with ⟨go, s', hline, ha⟩ | ⟨hends, r, hr, hpath, hline⟩
    · refine .inl ⟨go, s', hline, ha, ?_, ha.ready hs, ha.kept⟩
      rw [ha.go_eq]
      cases ends text <;> decide
    · exact .inr ⟨⟨hends, r, by rw [hr]; rfl, hpath⟩, r, hr, hline⟩
  · obtain ⟨s', htold, hlines⟩ := lines_heard (hs.print banner) hopen hinput
    have hconverse := converse_told hlines
    refine ⟨s', htold, hconverse, ?_⟩
    rw [hconverse, isClosing_stop]
    rfl
  · intro before text r after hbefore h
    obtain ⟨s', htold, hlines⟩ := lines_append (hs.print banner) hopen hbefore (text :: after)
    obtain ⟨hsetup, hclosing⟩ := htold.kept
    have hopen' : s'.isClosing = false := hclosing.trans hopen
    have h' : BreaksOff s'.scheduler.setup text r := by
      rw [hsetup]
      exact h
    have hline := h'.line (htold.ready (hs.print banner))
    exact ⟨s', htold, converse_broken (hlines.trans (lines_broken hopen' hline)), hopen'⟩

theorem exists_ready :
    ∃ s : Shell, s.Ready ∧ s.isClosing = false ∧ s.scheduler.setup = setupOf .standard := by
  obtain ⟨scheduler, hbuild⟩ := ok_of_isOk (r := Scheduler.build .standard (setupOf .standard)
    (.sample 1) (.script (fun _ f => .ok f.nominal) 0) {}) (by decide +kernel)
  have hnew := Scheduler.ready_build hbuild (Topology.sample_whole Number.inUnit_one)
  have hready := hnew.applyAll [.submit { operation := .help }, .step]
  exact ⟨_, ready_create hready false false, rfl, (Scheduler.build_parts hbuild).1⟩

/-- a command, a blank line, another command, a word that is none, and the end in another case -/
theorem session_answered_quit :
    let lines := ["damage io 0.25", " ", "save a", "hello"]
    let input := lines ++ [" Quit", "status"]
    ∃ s : Shell, s.Ready ∧ s.isClosing = false ∧
      (∀ l ∈ heard input, ¬ Jams s.scheduler.setup l) ∧
      ∃ s', Told (s.print banner) lines s' ∧ s.converse input = s'.close.stop ∧
        (s.converse input).2.isClosing = true := by
  intro lines input
  obtain ⟨s, hs, hopen, hsetup⟩ := exists_ready
  have hheard : heard input = lines := by decide +kernel
  have hjams : ∀ l ∈ heard input, ¬ Jams s.scheduler.setup l := by
    rw [hsetup]
    decide +kernel
  obtain ⟨-, -, hsession⟩ := session_answered hs
  have h := (hsession hopen).1 input hjams
  rw [hheard] at h
  exact ⟨s, hs, hopen, hjams, h⟩

theorem breaksOff_zero : ∃ r, BreaksOff (setupOf .standard) "load a\x00b" r := by
  obtain ⟨r, hr, hop, hpath⟩ : ∃ r ∈ (Request.ofLine (Text.trim "load a\x00b")).toOption,
      r.operation = .load ∧ Command.Pathless (setupOf .standard) r := by
    decide +kernel
  exact ⟨r, by decide +kernel, ok_of_toOption hr, hop, hpath⟩

/-- a load from there has no answer, and ends a session that is never closed -/
theorem not_all_lines_answered :
    (¬ ∀ (s : Shell) (text : String), s.Ready →
      ∃ go s', s.line text = (.ok go, s') ∧ Answered s text go s') ∧
    ¬ ∀ (s : Shell) (input : List String), s.Ready → s.isClosing = false →
      (s.converse input).2.isClosing = true := by
  obtain ⟨s, hs, hopen, hsetup⟩ := exists_ready
  obtain ⟨r, hr⟩ := breaksOff_zero
  rw [← hsetup] at hr
  constructor
  · intro h
    obtain ⟨go, s', hok, -⟩ := h s _ hs
    rw [hr.line hs] at hok
    cases hok
  · intro h
    have hclosing := h s ["load a\x00b", "status", "quit"] hs hopen
    have hopen' : (s.print banner).isClosing = false := hopen
    rw [converse_broken (lines_broken hopen' (hr.line (hs.print banner)))] at hclosing
    exact Bool.false_ne_true (hopen.symm.trans hclosing)

end Organism.Shell
