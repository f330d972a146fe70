/-
  Keys that are handed in as answers.

  The key of an exercise, handed in by a student, earns full marks (`Task.KeyAnswer` says in which
  form). Text that is handed in is freed of the blanks around it; this changes neither its
  spelling nor the formula that it stands for, so it does no harm where formulas are compared. The
  identifier of a fallacy keeps its blanks, and one with blanks around it is matched by no answer
  (`stored_key_earns_full_marks_unless_padded`).
-/
import PropTutor.Proofs.Exercise.Decode
import PropTutor.Proofs.Grading.Cells
import PropTutor.Proofs.Grading.Choices
import PropTutor.Proofs.Grading.Equivalence
import PropTutor.Proofs.Grading.Matching

namespace PropTutor

variable {s : Except SettingsError Settings}

/-- The answer hands in the key of the task. A target has to be a formula within the limit, and the
    cells of a table are handed in under their names. A derivation has no key of this sort. -/
def Task.KeyAnswer (s : Except SettingsError Settings) (answer : Json) : Task → Prop
  | equivalence content key => ∃ target f settings, IsTarget content key target ∧
      Formula.parse target = .ok f ∧ s = .ok settings ∧
      (f.vars.length : Int) ≤ settings.maxVariables ∧ answer = .str target
  | multipleChoice _ key =>
    ∃ ids : List String, ids.Perm key.correctIds ∧ answer = .list (ids.map .str)
  | symbolArrangement _ key => ∃ text ∈ key.formulas, answer = .str text
  | formulation _ key => ∃ text ∈ key.formulas, answer = .str text
  | normalForm _ key => ∃ text ∈ key.formulas, answer = .str text
  | validation _ key => answer = .bool key.isValid
  | truthTable content key => content.hidden ≠ [] ∧ ∃ filled : List (Cell × Bool),
      (∀ cell ∈ content.hidden, ∃ b, (cell, b) ∈ filled) ∧
      (∀ cell b, (cell, b) ∈ filled → cell ∈ content.hidden ∧ key.value? cell = some b) ∧
      answer = .object (filled.map fun p => (p.1.name, .bool p.2))
  | identifyFallacy _ key => answer = .str key.correctId
  | proof _ _ => False

/-! ## Spelling -/

theorem normalSpelling_strip (t : String) : normalSpelling (Text.strip t) = normalSpelling t := by
  rw [normalSpelling, normalSpelling, Text.strip, String.toList_ofList, Text.filter_trimWith]

/-- The blanks around a text are no part of its spelling. -/
theorem sameSpelling_strip (t : String) : sameSpelling (Text.strip t) t = true := by
  rw [sameSpelling, signature?_strip, normalSpelling_strip]
  split
  · next a b ha hb => exact beq_iff_eq.2 (Option.some.inj (ha.symm.trans hb))
  · exact beq_self_eq_true _

namespace Grading

/-- The answer earns full marks. -/
def FullMarks (s : Except SettingsError Settings) (e : Exercise) (answer : Json) : Prop :=
  ∃ feedback explanation details,
    (evaluate e answer).Gives s (.correct feedback explanation details)

variable {e : Exercise} {explanation : Option String} {answer : Json}

theorem fullMarks_equivalence {content key : EquivalenceTarget}
    (h : (Task.equivalence content key).KeyAnswer s answer) :
    FullMarks s ⟨.equivalence content key, explanation⟩ answer := by
  obtain ⟨target, f, settings, htarget, hparse, rfl, hlimit, rfl⟩ := h
  have hstripped : Formula.parse (Text.strip target) = .ok f :=
    (Formula.parse_congr (signature?_strip target)).2 hparse
  have hfits : (Formula.iff f f).vars.length ≤ settings.maxVariables := by
    rwa [Formula.length_vars_bin .iff, Finset.union_self,
      List.toFinset_card_of_nodup (Formula.nodup_vars f)]
  refine ⟨"Correct! Your formula is logically equivalent.", explanation, .nothing,
    (gives_equivalence htarget hparse rfl).2 ?_⟩
  rw [hstripped]
  exact gives_equivalenceResult hfits fun _ => rfl

theorem fullMarks_multipleChoice {content : ChoiceContent} {key : ChoiceKey}
    (h : (Task.multipleChoice content key).KeyAnswer s answer) :
    FullMarks s ⟨.multipleChoice content key, explanation⟩ answer := by
  obtain ⟨ids, hperm, rfl⟩ := h
  have hids : Answer.optionIds (.list (ids.map .str)) = .ok ids := by
    show Except.ok ((ids.map Json.str).map Json.toText) = _
    rw [List.map_map]
    exact congrArg Except.ok (List.map_id ids)
  have hcomplete : ChoiceCounts.complete (choiceCounts ids key.correctIds) = true :=
    complete_choiceCounts.2 (List.toFinset_eq_of_perm _ _ hperm)
  have hgraded : ∃ feedback details, multipleChoice content key explanation
      (.list (ids.map .str)) = .ok (.correct feedback explanation details) := by
    simp only [multipleChoice, hids, bind, Except.bind, hcomplete, if_true]
    split
    · exact ⟨_, _, rfl⟩
    · exact ⟨_, _, rfl⟩
  obtain ⟨feedback, details, hgraded⟩ := hgraded
  exact ⟨feedback, explanation, details, Action.gives_ofExcept.2 hgraded⟩

theorem fullMarks_accepted {accepted : List String} {text : String}
    (htask : e.task.accepted? = some accepted) (htext : text ∈ accepted) :
    FullMarks s e (.str text) := by
  obtain ⟨found, hfound⟩ : ∃ found,
      (matchAccepted accepted (Text.strip text)).Gives s (.ok (some found)) :=
    exists_gives_matchAccepted.2 (.inl ⟨text, htext, sameSpelling_strip text⟩)
  have hread : Answer.formula (.str text) = .ok (Text.strip text) := rfl
  obtain ⟨feedback, details, h⟩ := exists_correct_of_matched htask hread hfound
  exact ⟨feedback, _, details, h⟩

theorem fullMarks_validation {content : ArgumentContent} {key : ValidityKey}
    (h : (Task.validation content key).KeyAnswer s answer) :
    FullMarks s ⟨.validation content key, explanation⟩ answer := by
  obtain rfl : answer = .bool key.isValid := h
  have hgraded : ∃ feedback details, validation key explanation (.bool key.isValid) =
      .ok (.correct feedback (explanationOr explanation key.explanation) details) := by
    simp only [validation, Answer.truth, bind, Except.bind, beq_self_eq_true, if_true]
    exact ⟨_, _, rfl⟩
  obtain ⟨feedback, details, hgraded⟩ := hgraded
  exact ⟨feedback, _, details, Action.gives_ofExcept.2 hgraded⟩

/-- The cells of a table that is filled in with truth values. -/
def filledCells (filled : List (Cell × Bool)) : Answer.Cells :=
  filled.map fun p => (p.1, .bool p.2)

theorem cells_filled {filled : List (Cell × Bool)} (hrows : ∀ p ∈ filled, 0 ≤ p.1.row) :
    Answer.cells (.object (filled.map fun p => (p.1.name, .bool p.2))) =
      .ok (dedupKeys (filledCells filled)) := by
  rw [← Answer.cells_named, filledCells, List.map_map]
  · rfl
  · intro p hp
    obtain ⟨q, hq, rfl⟩ := List.mem_map.1 hp
    exact ⟨hrows q hq, nofun⟩

/-- A cell that is filled in with one value only has this value. -/
theorem submittedValue?_filled {filled : List (Cell × Bool)} {cell : Cell} {b : Bool}
    (hmem : ∃ b', (cell, b') ∈ filled) (hvalue : ∀ b', (cell, b') ∈ filled → b' = b) :
    submittedValue? (dedupKeys (filledCells filled)) cell = some b := by
  have hlookup : (filledCells filled).reverse.lookup cell = some (.bool b) := by
    refine lookup_eq_some ?_ fun v hv => ?_
    · obtain ⟨b', hb'⟩ := hmem
      exact ⟨.bool b', List.mem_reverse.2 (List.mem_map.2 ⟨_, hb', rfl⟩)⟩
    · obtain ⟨p, hp, heq⟩ := List.mem_map.1 (List.mem_reverse.1 hv)
      obtain ⟨rfl, rfl⟩ := Prod.mk.inj heq
      rw [hvalue p.2 hp]
  rw [submittedValue?, lookup_dedupKeys, hlookup]
  rfl

theorem fullMarks_truthTable {content : TableContent} {key : TableKey}
    (hrows : ∀ cell ∈ content.hidden, 0 ≤ cell.row)
    (h : (Task.truthTable content key).KeyAnswer s answer) :
    FullMarks s ⟨.truthTable content key, explanation⟩ answer := by
  obtain ⟨hhidden, filled, hall, hstored, rfl⟩ := h
  have hcells := cells_filled fun p hp => hrows p.1 (hstored p.1 p.2 hp).1
  have hright : ∀ cell ∈ content.hidden,
      submittedValue? (dedupKeys (filledCells filled)) cell = key.value? cell := by
    intro cell hcell
    obtain ⟨b, hb⟩ := hall cell hcell
    have hvalue : key.value? cell = some b := (hstored cell b hb).2
    rw [hvalue]
    refine submittedValue?_filled ⟨b, hb⟩ fun b' hb' => ?_
    exact Option.some.inj ((hstored cell b' hb').2.symm.trans hvalue)
  have hwrong : wrongCells key (dedupKeys (filledCells filled)) content.hidden = .ok [] := by
    rw [wrongCells_eq fun cell hcell => (hall cell hcell).imp fun b hb => (hstored cell b hb).2,
      List.filter_eq_nil_iff.2 fun cell hcell => ?_]
    rw [hright cell hcell]
    simp only [bne_self_eq_false, Bool.false_eq_true, not_false_eq_true]
  have hgraded : ∃ feedback details, truthTable content key explanation
      (.object (filled.map fun p => (p.1.name, .bool p.2))) =
        .ok (.correct feedback explanation details) := by
    simp only [truthTable, List.isEmpty_eq_false_iff.2 hhidden, hcells, hwrong, bind, Except.bind,
      Except.mapError]
    exact ⟨_, _, rfl⟩
  obtain ⟨feedback, details, hgraded⟩ := hgraded
  exact ⟨feedback, explanation, details, Action.gives_ofExcept.2 hgraded⟩

/-- The key of a fallacy exercise is correct exactly if it has no blanks around it. -/
theorem exists_gives_fallacy (content : FallacyContent) (key : FallacyKey) :
    ∃ r, (evaluate ⟨.identifyFallacy content key, explanation⟩ (.str key.correctId)).Gives s r ∧
      (r.isCorrect = true ∧ r.score = 1 ↔ Text.strip key.correctId = key.correctId) := by
  have hread : Answer.fallacyId (.str key.correctId) = .ok key.correctId := rfl
  have hgraded : ∃ r, fallacy key explanation (.str key.correctId) = .ok r ∧
      (r.isCorrect = true ∧ r.score = 1 ↔ Text.strip key.correctId = key.correctId) := by
    simp only [fallacy, hread, bind, Except.bind]
    split
    · next h => exact ⟨_, rfl, iff_of_true ⟨rfl, rfl⟩ (beq_iff_eq.1 h)⟩
    · next h => exact ⟨_, rfl, iff_of_false (fun hr => Bool.false_ne_true hr.1) (mt beq_iff_eq.2 h)⟩
  obtain ⟨r, hr, hverdict⟩ := hgraded
  exact ⟨r, Action.gives_ofExcept.2 hr, hverdict⟩

/-- A fallacy with blanks around its identifier is matched by no answer, since an answer is freed
    of them. -/
theorem plainId_of_isCorrect {content : FallacyContent} {key : FallacyKey} {r : GradingResult}
    (h : (evaluate ⟨.identifyFallacy content key, explanation⟩ answer).Gives s r)
    (hcorrect : r.isCorrect = true) : Text.strip key.correctId = key.correctId := by
  have hgraded : fallacy key explanation answer = .ok r := Action.gives_ofExcept.1 h
  obtain ⟨submitted, -, hgraded⟩ := bind_eq_ok.1 hgraded
  split at hgraded
  · next hid => rw [← beq_iff_eq.1 hid, Text.strip_strip]
  · obtain rfl := Except.ok.inj hgraded
    cases hcorrect

end Grading

/-- The identifier of a fallacy exercise has no blanks around it; other exercises have none. -/
def Task.PlainId : Task → Prop
  | identifyFallacy _ key => Text.strip key.correctId = key.correctId
  | _ => True

/-- The key of a stored exercise that is handed in as an answer earns full marks, with one
    exception: the identifier of a fallacy does not if it has blanks around it, and then there is
    no correct answer at all. -/
theorem stored_key_earns_full_marks_unless_padded {record answer : Json} {e : Exercise}
    (hrecord : Exercise.decode record = .ok e) (hkey : e.task.KeyAnswer s answer) :
    (∃ r, (gradeStored record answer).Gives s r ∧
      (r.isCorrect = true ∧ r.score = 1 ↔ e.task.PlainId)) ∧
    ∀ other r, (gradeStored record other).Gives s r → r.isCorrect = true → e.task.PlainId := by
  have hfull (hmarks : Grading.FullMarks s e answer) (hplain : e.task.PlainId) :
      ∃ r, (gradeStored record answer).Gives s r ∧
        (r.isCorrect = true ∧ r.score = 1 ↔ e.task.PlainId) := by
    obtain ⟨feedback, explanation, details, hmarks⟩ := hmarks
    exact ⟨_, (gives_gradeStored hrecord).2 (.inl hmarks), iff_of_true ⟨rfl, rfl⟩ hplain⟩
  have hrows : ∀ content key, e.task = .truthTable content key →
      ∀ cell ∈ content.hidden, 0 ≤ cell.row := fun content key htask cell hcell =>
    Exercise.row_nonneg_of_mem_hidden hrecord htask hcell
  obtain ⟨task, explanation⟩ := e
  refine ⟨?_, fun other r hr hcorrect => ?_⟩
  · cases task with
    | equivalence content key => exact hfull (Grading.fullMarks_equivalence hkey) trivial
    | multipleChoice content key => exact hfull (Grading.fullMarks_multipleChoice hkey) trivial
    | symbolArrangement content key =>
      obtain ⟨text, htext, rfl⟩ := hkey
      exact hfull (Grading.fullMarks_accepted rfl htext) trivial
    | formulation content key =>
      obtain ⟨text, htext, rfl⟩ := hkey
      exact hfull (Grading.fullMarks_accepted rfl htext) trivial
    | validation content key => exact hfull (Grading.fullMarks_validation hkey) trivial
    | truthTable content key =>
      exact hfull (Grading.fullMarks_truthTable (hrows content key rfl) hkey) trivial
    | proof content key => exact hkey.elim
    | normalForm content key =>
      obtain ⟨text, htext, rfl⟩ := hkey
      exact hfull (Grading.fullMarks_accepted rfl htext) trivial
    | identifyFallacy content key =>
      obtain rfl : answer = .str key.correctId := hkey
      obtain ⟨r, hr, hverdict⟩ := Grading.exists_gives_fallacy content key
      exact ⟨r, (gives_gradeStored hrecord).2 (.inl hr), hverdict⟩
  · cases task with
    | identifyFallacy content key =>
      exact Grading.plainId_of_isCorrect (evaluated_of_isCorrect hrecord hr hcorrect) hcorrect
    | _ => exact trivial

/-- A stored exercise with two hidden cells; the name of a column has a hyphen. -/
def hyphenRecord : Json :=
  .object [("type", .str "TRUTH_TABLE"),
    ("content", .object [("formula", .str "~P"), ("hiddenCells", .list [
      .object [("row", .int 0), ("column", .str "result")],
      .object [("row", .int 1), ("column", .str "not-P")]])]),
    ("solution", .object [("values", .object [
      ("result", .list [.bool false, .bool true]), ("not-P", .list [.bool false, .bool true])])])]

/-- The exercise of this record. -/
def hyphenExercise : Exercise :=
  ⟨.truthTable ⟨"~P", [⟨0, "result"⟩, ⟨1, "not-P"⟩], false⟩
    ⟨[("result", [false, true]), ("not-P", [false, true])]⟩, none⟩

/-- The values of its key under the names of its cells, in another order. -/
def hyphenAnswer : Json := .object [("1-not-P", .bool true), ("0-result", .bool false)]

/-- Such an answer earns full marks. -/
theorem stored_key_earns_full_marks_unless_padded_hyphen :
    Exercise.decode hyphenRecord = .ok hyphenExercise ∧
    hyphenExercise.task.KeyAnswer (.ok .standard) hyphenAnswer ∧
    ∃ r, (gradeStored hyphenRecord hyphenAnswer).Gives (.ok .standard) r ∧
      r.isCorrect = true ∧ r.score = 1 := by
  have hrecord : Exercise.decode hyphenRecord = .ok hyphenExercise := rfl
  have hkey : hyphenExercise.task.KeyAnswer (.ok .standard) hyphenAnswer := by
    refine ⟨nofun, [(⟨1, "not-P"⟩, true), (⟨0, "result"⟩, false)], ?_, ?_, rfl⟩
    · intro cell hcell
      rcases List.mem_cons.1 hcell with rfl | hcell
      · exact ⟨false, by decide⟩
      · obtain rfl := List.mem_singleton.1 hcell
        exact ⟨true, by decide⟩
    · intro cell b hfilled
      rcases List.mem_cons.1 hfilled with hfilled | hfilled
      · obtain ⟨rfl, rfl⟩ := Prod.mk.inj hfilled
        exact ⟨by decide, rfl⟩
      · obtain ⟨rfl, rfl⟩ := Prod.mk.inj (List.mem_singleton.1 hfilled)
        exact ⟨by decide, rfl⟩
  obtain ⟨⟨r, hr, hfull⟩, -⟩ := stored_key_earns_full_marks_unless_padded hrecord hkey
  exact ⟨hrecord, hkey, r, hr, hfull.2 trivial⟩

/-- A stored exercise whose fallacy has an identifier with a blank on either side. -/
def paddedRecord : Json :=
  .object [("type", .str "IDENTIFY_FALLACY"), ("content", .object []),
    ("solution", .object [("correctFallacyId", .str " ad_hominem ")])]

/-- The exercise of this record. -/
def paddedExercise : Exercise := ⟨.identifyFallacy ⟨"", []⟩ ⟨" ad_hominem ", ""⟩, none⟩

/-- This identifier is not accepted as it stands. -/
theorem padded_identifier_is_rejected :
    Exercise.decode paddedRecord = .ok paddedExercise ∧
    paddedExercise.task.KeyAnswer (.ok .standard) (.str " ad_hominem ") ∧
    ∃ r, (gradeStored paddedRecord (.str " ad_hominem ")).Gives (.ok .standard) r ∧
      r.isCorrect = false ∧ r.score = 0 :=
  ⟨rfl, rfl, _, rfl, rfl, rfl⟩

end PropTutor
