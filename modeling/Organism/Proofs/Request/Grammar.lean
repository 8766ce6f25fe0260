import Organism.Proofs.Text.Lines
import Organism.Request
import Mathlib.Data.List.Basic

/-!
# The grammar of command lines

A line is read as a request exactly if its words are spelled as one of a few forms allow, and all
other lines are refused, each with the one message that its words call for.  Nothing but the words
counts, and of the first word only its lower case.

* `Operation.words`, `OrganKind.words`   the words that stand for an operation or an organ;
* `Spelled`              how the words of a line say a request;
* `Refused`              what is wrong with words that say none;
* `Spelled.read`, `Refused.read`   lines are read and refused accordingly;
* `spelled_or_refused`   any words say a request, or have something wrong with them;
* `read_iff_spelled`     **lines are read as the grammar says, and refused otherwise**.
-/

namespace Organism

/-! ## words -/

def Operation.words : Operation → List String
  | setSim => ["set_sim", "sim"]
  | setLogs => ["set_logs", "logs", "log"]
  | capabilities => ["capabilities", "caps"]
  | op => [op.label]

theorem Operation.label_mem_words (op : Operation) : op.label ∈ op.words := by
  cases op <;> decide

theorem Operation.find?_label (op : Operation) : Named.find? op.label = some op := by
  cases op <;> decide

theorem Request.operation?_eq_some_iff {head : String} {op : Operation} :
    operation? head = some op ↔ head ∈ op.words := by
  constructor
  · intro h
    unfold operation? at h
    split at h
    · next hs =>
      cases h
      rw [hs]
      decide
    · split at h
      · next hs =>
        cases h
        rw [Bool.or_eq_true, decide_eq_true_eq, decide_eq_true_eq] at hs
        rcases hs with hs | hs <;> (rw [hs]; decide)
      · split at h
        · next hs =>
          cases h
          rw [hs]
          decide
        · rw [← Named.label_of_find? h]
          exact op.label_mem_words
  · have hall : ∀ word ∈ op.words, operation? word = some op := by
      cases op <;> decide
    exact hall head

/-- the form in which a word for an organ is looked up: trimmed, in lower case, with `-` for `_` -/
def OrganKind.key (word : String) : String :=
  .ofList ((Text.lower (Text.strip Text.isBlank word.toList)).map fun c =>
    if c == '-' then '_' else c)

def OrganKind.words : OrganKind → List String
  | cortex => ["cortex"]
  | memory => ["memory"]
  | ioBridge => ["io", "io_bridge", "iobridge"]

theorem OrganKind.ofWord?_eq_some_iff {word : String} {k : OrganKind} :
    ofWord? word = some k ↔ key word ∈ k.words := by
  unfold ofWord? key
  dsimp only
  generalize (Text.lower (Text.strip Text.isBlank word.toList)).map _ = cs
  have hword : ∀ w : String, cs == w.toList ↔ String.ofList cs = w := by
    intro w
    rw [beq_iff_eq, ← String.toList_inj, String.toList_ofList]
  simp only [Bool.or_eq_true, hword]
  generalize String.ofList cs = key
  split
  · next h =>
    rw [h]
    cases k <;> decide
  · split
    · next h =>
      rw [h]
      cases k <;> decide
    · split
      · next h =>
        rcases h with (h | h) | h <;> (rw [h]; cases k <;> decide)
      · next hc hm hio =>
        rw [not_or, not_or] at hio
        cases k <;> simp [words, hc, hm, hio]

/-! ## the grammar -/

namespace Request

def wordsOf (line : String) : List String := (Text.words line.toList).map String.ofList

theorem isWord_of_mem_wordsOf {line word : String} (h : word ∈ wordsOf line) :
    Text.IsWord word.toList := by
  obtain ⟨w, hw, rfl⟩ := List.mem_map.mp h
  rw [String.toList_ofList]
  exact Text.isWord_of_mem_words hw

/-- the words of lines are all lists of words that are not empty and hold no blank -/
theorem exists_line_iff (ws : List String) :
    (∃ line, wordsOf line = ws) ↔ ∀ w ∈ ws, Text.IsWord w.toList := by
  constructor
  · rintro ⟨line, rfl⟩ w hw
    exact isWord_of_mem_wordsOf hw
  · intro h
    refine ⟨.ofList ((ws.map String.toList).intersperse [' ']).flatten, ?_⟩
    unfold wordsOf
    rw [String.toList_ofList, Text.words_spaced (List.forall_mem_map.mpr h), List.map_map]
    exact List.map_id'' (fun w => String.ofList_toList) ws

def namedPath (args : List String) : Option String :=
  args.head?.filter fun path => Text.toLower path ≠ "state"

inductive OrganComplaint (word : String) : List FieldError → Prop
  | known {k : OrganKind} : OrganKind.key word ∈ k.words → OrganComplaint word []
  | unknown : (∀ k : OrganKind, OrganKind.key word ∉ k.words) →
    OrganComplaint word [.unknownOrgan word]

section
variable [Rounding]

inductive AmountComplaint (word : String) : List FieldError → Prop
  | finite {x : Number} : Number.ofField? word = some x → x.isFinite = true →
    AmountComplaint word []
  | notNumeral : Number.ofField? word = none → AmountComplaint word [.notNumeral]
  | notFinite {x : Number} : Number.ofField? word = some x → x.isFinite = false →
    AmountComplaint word [.notFinite]

/-- how the words of a line say a request -/
inductive Spelled : List String → Request → Prop
  | change {head organ amount : String} {op : Operation} {k : OrganKind} {x : Number} :
    op.needsOrgan = true → Text.toLower head ∈ op.words → OrganKind.key organ ∈ k.words →
      Number.ofField? amount = some x → x.isFinite = true →
        Spelled [head, organ, amount] { operation := op, organ := some k, amount := some x }
  | level {head level : String} {op : Operation} :
    op.needsLevel = true → Text.toLower head ∈ op.words →
      Spelled [head, level] { operation := op, level := some level }
  | file {head : String} {args : List String} {op : Operation} :
    op = .save ∨ op = .load → Text.toLower head ∈ op.words →
      Spelled (head :: args) { operation := op, path := namedPath args }
  | query {head : String} {args : List String} {op : Operation} :
    op.needsOrgan = false → op.needsLevel = false → ¬ (op = .save ∨ op = .load) →
      Text.toLower head ∈ op.words → Spelled (head :: args) { operation := op }

/-- what is wrong with the words of a line -/
inductive Refused : List String → RequestError → Prop
  | empty : Refused [] .emptyLine
  | unknown {head : String} {args : List String} :
    (∀ op : Operation, Text.toLower head ∉ op.words) →
      Refused (head :: args) (.unknownCommand (Text.toLower head))
  | changeUsage {head : String} {args : List String} {op : Operation} :
    op.needsOrgan = true → Text.toLower head ∈ op.words → args.length ≠ 2 →
      Refused (head :: args) (.usage s!"{op.label} <organ> <amount>")
  | levelUsage {head : String} {args : List String} {op : Operation} :
    op.needsLevel = true → Text.toLower head ∈ op.words → args.length ≠ 1 →
      Refused (head :: args) (.usage s!"{Text.toLower head} <level>")
  | fields {head organ amount : String} {op : Operation} {es es' : List FieldError} :
    op.needsOrgan = true → Text.toLower head ∈ op.words → OrganComplaint organ es →
      AmountComplaint amount es' → es ++ es' ≠ [] →
        Refused [head, organ, amount] (.fields (es ++ es'))

end

/-! ## arguments -/

section
variable {op : Operation} {head : String} {args : List String}

theorem lineFields_change (h : op.needsOrgan = true) (organ amount : String) :
    lineFields op head [organ, amount] =
      .ok { operation := .text op.label, organ := .text organ, amount := .text amount } := by
  unfold lineFields
  rw [if_pos h]

theorem lineFields_change_usage (h : op.needsOrgan = true) (hlen : args.length ≠ 2) :
    lineFields op head args = .error (.usage s!"{op.label} <organ> <amount>") := by
  unfold lineFields
  rw [if_pos h]
  split
  · exact absurd rfl hlen
  · rfl

theorem not_needsOrgan (h : op.needsLevel = true) : op.needsOrgan = false := by
  cases op <;> first | rfl | cases h

theorem lineFields_level (h : op.needsLevel = true) (level : String) :
    lineFields op head [level] = .ok { operation := .text op.label, level := .text level } := by
  unfold lineFields
  rw [not_needsOrgan h, if_neg Bool.false_ne_true, if_pos h]

theorem lineFields_level_usage (h : op.needsLevel = true) (hlen : args.length ≠ 1) :
    lineFields op head args = .error (.usage s!"{head} <level>") := by
  unfold lineFields
  rw [not_needsOrgan h, if_neg Bool.false_ne_true, if_pos h]
  split
  · exact absurd rfl hlen
  · rfl

theorem lineFields_file (h : op = .save ∨ op = .load) (args : List String) :
    lineFields op head args =
      .ok { operation := .text op.label, path := (namedPath args).elim .none .text } := by
  cases args with
  | nil => rcases h with rfl | rfl <;> rfl
  | cons path args =>
    have hread : lineFields op head (path :: args) =
        .ok (if isDefaultPath path then { operation := .text op.label }
          else { operation := .text op.label, path := .text path }) := by
      rcases h with rfl | rfl <;> rfl
    have hpath : namedPath (path :: args) = if isDefaultPath path then none else some path := by
      show (if decide (Text.toLower path ≠ "state") then some path else none) = _
      unfold isDefaultPath
      by_cases hstate : Text.toLower path = "state" <;> simp [hstate]
    rw [hread, hpath]
    split <;> rfl

theorem lineFields_query (horgan : op.needsOrgan = false) (hlevel : op.needsLevel = false)
    (hfile : ¬ (op = .save ∨ op = .load)) (args : List String) :
    lineFields op head args = .ok { operation := .text op.label } := by
  unfold lineFields
  rw [horgan, if_neg Bool.false_ne_true, hlevel, if_neg Bool.false_ne_true,
    if_neg (by simpa using hfile)]

end

/-! ## fields -/

open RequestFields

theorem readOperation_label (op : Operation) : readOperation (.text op.label) = .ok op := by
  show (Named.find? op.label).elim _ _ = _
  rw [op.find?_label]
  rfl

theorem readOrgan_known {word : String} {k : OrganKind} (h : OrganKind.key word ∈ k.words) :
    readOrgan (.text word) = .ok (some k) := by
  show (OrganKind.ofWord? word).elim _ _ = _
  rw [OrganKind.ofWord?_eq_some_iff.mpr h]
  rfl

theorem OrganComplaint.found {word : String} {es : List FieldError} (h : OrganComplaint word es) :
    complaint (readOrgan (.text word)) = es := by
  cases h with
  | known hk =>
    rw [readOrgan_known hk]
    rfl
  | unknown hno =>
    have hnone : OrganKind.ofWord? word = none :=
      Option.eq_none_iff_forall_ne_some.mpr fun k hk => hno k (OrganKind.ofWord?_eq_some_iff.mp hk)
    show complaint ((OrganKind.ofWord? word).elim _ _) = _
    rw [hnone]
    rfl

theorem exists_organComplaint (word : String) : ∃ es, OrganComplaint word es := by
  by_cases h : ∃ k : OrganKind, OrganKind.key word ∈ k.words
  · obtain ⟨k, hk⟩ := h
    exact ⟨_, .known hk⟩
  · exact ⟨_, .unknown (not_exists.mp h)⟩

section
variable [Rounding]

theorem readAmount_text (word : String) : readAmount (.text word) =
    match Number.ofField? word with
    | none => .error .notNumeral
    | some x => if x.isFinite then .ok (some x) else .error .notFinite := by
  show ((Number.ofField? word).elim _ _ >>= _) = _
  cases Number.ofField? word <;> rfl

theorem AmountComplaint.found {word : String} {es : List FieldError}
    (h : AmountComplaint word es) : complaint (readAmount (.text word)) = es := by
  rw [readAmount_text]
  cases h with
  | finite hx hf =>
    rw [hx]
    dsimp only
    rw [if_pos hf]
    rfl
  | notNumeral hx =>
    rw [hx]
    rfl
  | notFinite hx hf =>
    rw [hx]
    dsimp only
    rw [hf]
    rfl

theorem exists_amountComplaint (word : String) : ∃ es, AmountComplaint word es := by
  cases hx : Number.ofField? word with
  | none => exact ⟨_, .notNumeral hx⟩
  | some x =>
    cases hf : x.isFinite with
    | true => exact ⟨_, .finite hx hf⟩
    | false => exact ⟨_, .notFinite hx hf⟩

theorem request_of_read {f : RequestFields} {r : Request}
    (hop : readOperation f.operation = .ok r.operation) (horgan : readOrgan f.organ = .ok r.organ)
    (hamount : readAmount f.amount = .ok r.amount) (hlevel : readText f.level = .ok r.level)
    (hpath : readText f.path = .ok r.path) (hm : missing r = []) : f.request = .ok r := by
  unfold RequestFields.request
  rw [hop, horgan, hamount, hlevel, hpath]
  show (if (missing r).isEmpty then Except.ok r else _) = _
  rw [hm]
  rfl

/-- where there is something to complain about, the complaints are all there is -/
theorem request_of_complaints {f : RequestFields}
    (h : complaint (readOperation f.operation) ++ complaint (readOrgan f.organ) ++
      complaint (readAmount f.amount) ++ complaint (readText f.level) ++
        complaint (readText f.path) ≠ []) :
    f.request = .error (.fields
      (complaint (readOperation f.operation) ++ complaint (readOrgan f.organ) ++
        complaint (readAmount f.amount) ++ complaint (readText f.level) ++
          complaint (readText f.path))) := by
  unfold RequestFields.request
  split
  · next hop horgan hamount hlevel hpath =>
    rw [hop, horgan, hamount, hlevel, hpath] at h
    exact absurd rfl h
  · rfl

/-! ## lines -/

section
variable {line head : String} {args : List String} {op : Operation}

theorem ofLine_nil (hw : wordsOf line = []) : ofLine line = .error .emptyLine := by
  unfold ofLine
  rw [show (Text.words line.toList).map String.ofList = [] from hw]

theorem ofLine_words (hw : wordsOf line = head :: args) :
    ofLine line = match operation? (Text.toLower head) with
      | none => .error (.unknownCommand (Text.toLower head))
      | some op => lineFields op (Text.toLower head) args >>= RequestFields.request := by
  unfold ofLine
  rewrite [show (Text.words line.toList).map String.ofList = head :: args from hw]
  rfl

theorem ofLine_unknown (hw : wordsOf line = head :: args)
    (hop : ∀ op : Operation, Text.toLower head ∉ op.words) :
    ofLine line = .error (.unknownCommand (Text.toLower head)) := by
  have hnone : operation? (Text.toLower head) = none :=
    Option.eq_none_iff_forall_ne_some.mpr fun op h => hop op (operation?_eq_some_iff.mp h)
  rw [ofLine_words hw, hnone]

theorem ofLine_cons (hw : wordsOf line = head :: args) (hop : Text.toLower head ∈ op.words) :
    ofLine line = lineFields op (Text.toLower head) args >>= RequestFields.request := by
  rw [ofLine_words hw, operation?_eq_some_iff.mpr hop]

end

/-- **What is spelled is read.** -/
theorem Spelled.read {line : String} {r : Request} (h : Spelled (wordsOf line) r) :
    ofLine line = .ok r := by
  generalize hw : wordsOf line = ws at h
  cases h with
  | @change head organ amount op k x hneeds hop hk hx hf =>
    have hamount : readAmount (.text amount) = .ok (some x) := by
      rw [readAmount_text, hx]
      exact if_pos hf
    rw [ofLine_cons hw hop, lineFields_change hneeds]
    refine request_of_read (readOperation_label op) (readOrgan_known hk) hamount rfl rfl ?_
    cases op <;> first | rfl | cases hneeds
  | @level head level op hneeds hop =>
    have hmem : level ∈ wordsOf line := by
      rw [hw]
      exact .tail _ (.head _)
    have hne : level.isEmpty = false := by simpa using (isWord_of_mem_wordsOf hmem).1
    rw [ofLine_cons hw hop, lineFields_level hneeds]
    refine request_of_read (readOperation_label op) rfl rfl rfl rfl ?_
    unfold missing
    dsimp only
    rw [not_needsOrgan hneeds, hneeds, Option.getD_some, hne]
    rfl
  | @file head args op hfile hop =>
    have hpath : readText ((namedPath args).elim .none .text) = .ok (namedPath args) := by
      cases namedPath args <;> rfl
    rw [ofLine_cons hw hop, lineFields_file hfile]
    refine request_of_read (readOperation_label op) rfl rfl rfl hpath ?_
    rcases hfile with rfl | rfl <;> rfl
  | @query head args op horgan hlevel hfile hop =>
    rw [ofLine_cons hw hop, lineFields_query horgan hlevel hfile]
    refine request_of_read (readOperation_label op) rfl rfl rfl rfl ?_
    unfold missing
    rw [horgan, hlevel]
    rfl

/-- **What is not spelled is refused**, with what is wrong with it. -/
theorem Refused.read {line : String} {e : RequestError} (h : Refused (wordsOf line) e) :
    ofLine line = .error e := by
  generalize hw : wordsOf line = ws at h
  cases h with
  | empty => exact ofLine_nil hw
  | unknown hop => exact ofLine_unknown hw hop
  | changeUsage hneeds hop hlen =>
    rw [ofLine_cons hw hop, lineFields_change_usage hneeds hlen]
    rfl
  | levelUsage hneeds hop hlen =>
    rw [ofLine_cons hw hop, lineFields_level_usage hneeds hlen]
    rfl
  | @fields head organ amount op es es' hneeds hop hes hes' hne =>
    rw [ofLine_cons hw hop, lineFields_change hneeds]
    have hall := request_of_complaints
      (f := { operation := .text op.label, organ := .text organ, amount := .text amount })
    rw [readOperation_label, hes.found, hes'.found] at hall
    show RequestFields.request _ = _
    simpa [complaint, readText] using hall (by simpa [complaint, readText] using hne)

/-- **Any words say a request, or have something wrong with them.** -/
theorem spelled_or_refused (ws : List String) :
    (∃ r, Spelled ws r) ∨ ∃ e, Refused ws e := by
  cases ws with
  | nil => exact .inr ⟨_, .empty⟩
  | cons head args =>
    by_cases hop : ∃ op : Operation, Text.toLower head ∈ op.words
    · obtain ⟨op, hop⟩ := hop
      by_cases horgan : op.needsOrgan = true
      · by_cases hlen : args.length = 2
        · obtain ⟨organ, amount, rfl⟩ := List.length_eq_two.mp hlen
          obtain ⟨es, hes⟩ := exists_organComplaint organ
          obtain ⟨es', hes'⟩ := exists_amountComplaint amount
          by_cases hnone : es ++ es' = []
          · obtain ⟨rfl, rfl⟩ := List.append_eq_nil_iff.mp hnone
            cases hes with
            | known hk =>
              cases hes' with
              | finite hx hf => exact .inl ⟨_, .change horgan hop hk hx hf⟩
          · exact .inr ⟨_, .fields horgan hop hes hes' hnone⟩
        · exact .inr ⟨_, .changeUsage horgan hop hlen⟩
      · rw [Bool.not_eq_true] at horgan
        by_cases hlevel : op.needsLevel = true
        · by_cases hlen : args.length = 1
          · obtain ⟨level, rfl⟩ := List.length_eq_one_iff.mp hlen
            exact .inl ⟨_, .level hlevel hop⟩
          · exact .inr ⟨_, .levelUsage hlevel hop hlen⟩
        · rw [Bool.not_eq_true] at hlevel
          by_cases hfile : op = .save ∨ op = .load
          · exact .inl ⟨_, .file hfile hop⟩
          · exact .inl ⟨_, .query horgan hlevel hfile hop⟩
    · exact .inr ⟨_, .unknown (not_exists.mp hop)⟩

/-- **Lines are read as the grammar says, and refused otherwise.**  Whatever else two lines may
differ in, they are read alike if they have the same words, the first of them in any case. -/
theorem read_iff_spelled (line : String) :
    (∀ r, ofLine line = .ok r ↔ Spelled (wordsOf line) r) ∧
      (∀ e, ofLine line = .error e ↔ Refused (wordsOf line) e) ∧
      ∀ line', (wordsOf line').head?.map Text.toLower = (wordsOf line).head?.map Text.toLower →
        (wordsOf line').tail = (wordsOf line).tail → ofLine line' = ofLine line := by
  refine ⟨fun r => ⟨fun h => ?_, Spelled.read⟩, fun e => ⟨fun h => ?_, Refused.read⟩, ?_⟩
  · rcases spelled_or_refused (wordsOf line) with ⟨r', hr⟩ | ⟨e, he⟩
    · obtain rfl : r' = r := Except.ok.inj (hr.read.symm.trans h)
      exact hr
    · cases he.read.symm.trans h
  · rcases spelled_or_refused (wordsOf line) with ⟨r, hr⟩ | ⟨e', he⟩
    · cases hr.read.symm.trans h
    · obtain rfl : e' = e := Except.error.inj (he.read.symm.trans h)
      exact he
  · intro line' hhead htail
    cases hw : wordsOf line with
    | nil =>
      rw [hw, List.head?_nil, Option.map_none, Option.map_eq_none_iff, List.head?_eq_none_iff]
        at hhead
      rw [ofLine_nil hw, ofLine_nil hhead]
    | cons head args =>
      cases hw' : wordsOf line' with
      | nil =>
        rw [hw, hw'] at hhead
        cases hhead
      | cons head' args' =>
        rw [hw, hw'] at hhead htail
        obtain rfl : args' = args := htail
        have hlower : Text.toLower head' = Text.toLower head := Option.some.inj hhead
        rw [ofLine_words hw, ofLine_words hw', hlower]

end
end Request
end Organism
