/-
  Malformed answers are diagnosed, unless the row of a cell is infinite.

  An answer may be any value. Where the tables that grading needs fit the limit, a grader that
  fails does so with a diagnosis of the exercise or the answer, whatever its kind
  (`Grading.failsWith_evaluate`). There is a single exception: in a list of cells, a cell that has a
  value and whose row is an infinite float, in front of which all cells can be read
  (`Answer.MeetsInfiniteRow`). A row is taken as an integer, and for an infinite float that fails
  in a way of its own, which is logged as unexpected. Any other cell that cannot be read has a
  fault, and the answer is reported as malformed with the wording of the fault.
-/
import PropTutor.Proofs.Grading.Cells
import PropTutor.Proofs.Grading.Derivation
import PropTutor.Proofs.Grading.Equivalence
import PropTutor.Proofs.Grading.Records
import PropTutor.Proofs.Grading.Verdict

namespace PropTutor

/-- The exercise or the answer is said to be wrong. -/
def Failure.IsDiagnosed (failure : Failure) : Prop := ∃ error, failure = .diagnosed error

/-- The tables that grading the answer needs fit the limit: the one over the answer and the target,
    those over the answer and the accepted formulas up to the first that matches, and those over
    the premises, the steps and the conclusion. -/
def Task.WithinLimit (limit : Int) (answer : Json) : Task → Prop
  | equivalence content key => ∀ target t text f, IsTarget content key target →
      Formula.parse target = .ok t → Answer.formula answer = .ok text →
      Formula.parse text = .ok f → ((f.vars.toFinset ∪ t.vars.toFinset).card : Int) ≤ limit
  | proof content _ => ∀ premises conclusion steps, ReadAs content.premises premises →
      Formula.parse content.conclusion = .ok conclusion → Answer.steps answer = .ok steps →
      DerivationFits limit premises conclusion steps
  | task => ∀ accepted text f, task.accepted? = some accepted → Answer.formula answer = .ok text →
      ¬ Grading.Spelled text accepted → Formula.parse text = .ok f → ¬ f.Stopped limit accepted

theorem Task.WithinLimit.not_stopped {task : Task} {limit : Int} {answer : Json}
    {accepted : List String} (h : task.WithinLimit limit answer)
    (haccepted : task.accepted? = some accepted) {text : String} {f : Formula}
    (htext : Answer.formula answer = .ok text) (hspelled : ¬ Grading.Spelled text accepted)
    (hf : Formula.parse text = .ok f) : ¬ f.Stopped limit accepted := by
  cases task with
  | equivalence content key => cases haccepted
  | proof content key => cases haccepted
  | _ => exact h accepted text f haccepted htext hspelled hf

/-! ## Cells -/

namespace Answer

/-- A cell that has a value, and an infinite float for its row. -/
def HasInfiniteRow (item : Json) : Prop :=
  ∃ members v negative, item = .object members ∧ members.lookup "value" = some v ∧
    members.lookup "row" = some (.float (.infinite negative))

/-- The answer is a list of cells, and the first one that cannot be read has an infinite row. -/
def MeetsInfiniteRow (answer : Json) : Prop :=
  ∃ before item after, answer = .list (before ++ item :: after) ∧
    (∀ other ∈ before, ∃ cell, itemCell other = .ok cell) ∧ HasInfiniteRow item

/-- The answer has one of the shapes that hold cells. -/
def HoldsCells : Json → Prop
  | .object _ => True
  | .list _ => True
  | _ => False

/-- A cell has a fault. -/
def CellsError.IsFault (e : CellsError) : Prop := ∃ f : CellFault, e = .fault f

variable {v item answer : Json} {key : String} {e : CellsError}

theorem row_eq_error (h : row v = .error e) :
    e.IsFault ∨ e = .infiniteRow ∧ ∃ negative, v = .float (.infinite negative) := by
  unfold row at h
  split at h
  · cases h
  · next hv => exact .inr ⟨(Except.error.inj h).symm, Json.toInteger_eq_infinite.1 hv⟩
  · next fault _ _ => exact .inl ⟨.badRow fault, (Except.error.inj h).symm⟩

theorem row_str_eq_error {s : String} (h : row (.str s) = .error e) : e.IsFault := by
  rcases row_eq_error h with h | ⟨-, negative, h⟩
  · exact h
  · cases h

theorem itemMember_eq_ok : itemMember key item = .ok v ↔
    ∃ members, item = .object members ∧ members.lookup key = some v := by
  constructor
  · intro h
    unfold itemMember at h
    split at h
    · next members =>
      split at h
      · next w hw => exact ⟨members, rfl, hw.trans (congrArg some (Except.ok.inj h))⟩
      · cases h
    · cases h
  · rintro ⟨members, rfl, h⟩
    rw [itemMember, h]

theorem itemMember_eq_error (h : itemMember key item = .error e) : e.IsFault := by
  unfold itemMember at h
  split at h
  · split at h
    · cases h
    · exact ⟨_, (Except.error.inj h).symm⟩
  · exact ⟨_, (Except.error.inj h).symm⟩

theorem itemCell_eq_error (h : itemCell item = .error e) :
    e.IsFault ∨ e = .infiniteRow ∧ HasInfiniteRow item := by
  rcases bind_eq_error.1 h with h | ⟨v, hv, h⟩
  · exact .inl (itemMember_eq_error h)
  rcases bind_eq_error.1 h with h | ⟨w, hw, h⟩
  · exact .inl (itemMember_eq_error h)
  rcases bind_eq_error.1 h with h | ⟨r, -, h⟩
  · refine (row_eq_error h).imp_right fun ⟨he, negative, hinfinite⟩ => ⟨he, ?_⟩
    obtain ⟨members, rfl, hvalue⟩ := itemMember_eq_ok.1 hv
    obtain ⟨_, hobject, hrow⟩ := itemMember_eq_ok.1 hw
    obtain rfl := Json.object.inj hobject
    exact ⟨members, v, negative, rfl, hvalue, hinfinite ▸ hrow⟩
  rcases bind_eq_error.1 h with h | ⟨column, -, h⟩
  · exact .inl (itemMember_eq_error h)
  · cases h

theorem itemCell_of_infinite (h : HasInfiniteRow item) : itemCell item = .error .infiniteRow := by
  obtain ⟨members, v, negative, rfl, hv, hrow⟩ := h
  refine bind_eq_error.2 (.inr ⟨v, itemMember_eq_ok.2 ⟨members, rfl, hv⟩, ?_⟩)
  refine bind_eq_error.2 (.inr ⟨_, itemMember_eq_ok.2 ⟨members, rfl, hrow⟩, ?_⟩)
  exact bind_eq_error.2 (.inl rfl)

theorem memberCells_eq_error (h : memberCells key v = .error e) : e.IsFault := by
  unfold memberCells at h
  split at h
  · obtain ⟨-, column, -, -, -, h⟩ := mapM_eq_error.1 h
    rcases bind_eq_error.1 h with h | ⟨r, -, h⟩
    · exact row_str_eq_error h
    · cases h
  · dsimp only at h
    rcases bind_eq_error.1 h with h | ⟨r, -, h⟩
    · exact row_str_eq_error h
    · cases h

/-- Cells that are not read have a fault, unless an infinite row is met. -/
theorem cells_eq_error (hholds : HoldsCells answer) (h : cells answer = .error e) :
    e.IsFault ∨ e = .infiniteRow ∧ MeetsInfiniteRow answer := by
  cases answer with
  | object members =>
    rcases bind_eq_error.1 h with h | ⟨found, -, h⟩
    · obtain ⟨-, member, -, -, -, h⟩ := mapM_eq_error.1 h
      exact .inl (memberCells_eq_error h)
    · cases h
  | list items =>
    rcases bind_eq_error.1 h with h | ⟨found, -, h⟩
    · obtain ⟨before, item, after, rfl, hbefore, h⟩ := mapM_eq_error.1 h
      exact (itemCell_eq_error h).imp_right fun ⟨he, hitem⟩ =>
        ⟨he, before, item, after, rfl, hbefore, hitem⟩
    · cases h
  | _ => cases hholds

theorem cells_of_infinite (h : MeetsInfiniteRow answer) :
    cells answer = .error .infiniteRow := by
  obtain ⟨before, item, after, rfl, hbefore, hitem⟩ := h
  refine bind_eq_error.2 (.inl (mapM_eq_error.2 ⟨before, item, after, rfl, hbefore, ?_⟩))
  exact itemCell_of_infinite hitem

theorem cells_of_not_holdsCells (h : ¬ HoldsCells answer) :
    cells answer = .error (.diagnosed .notCells) := by
  cases answer with
  | object members => exact absurd trivial h
  | list items => exact absurd trivial h
  | _ => rfl

end Answer

/-- The exercise has hidden cells, and the answer meets an infinite row before any other cell that
    cannot be read. -/
def Task.MeetsInfiniteRow (answer : Json) : Task → Prop
  | truthTable content _ => content.hidden ≠ [] ∧ Answer.MeetsInfiniteRow answer
  | _ => False

namespace Grading

variable {s : Except SettingsError Settings} {settings : Settings} {explanation : Option String}
  {answer : Json}

/-! ## The graders of formulas -/

/-- What is demanded and not there is diagnosed. -/
theorem failsWith_demand {α : Type} (x : Except GradingError α) :
    (demand x).FailsWith s Failure.IsDiagnosed :=
  Action.failsWith_ofExcept fun error _ => ⟨error, rfl⟩

theorem failsWith_equivalence {content key : EquivalenceTarget}
    (hfits : (Task.equivalence content key).WithinLimit settings.maxVariables answer) :
    (equivalence content key explanation answer).FailsWith (.ok settings) Failure.IsDiagnosed := by
  refine Action.failsWith_bind (failsWith_demand _) fun t ht => ?_
  refine Action.failsWith_bind (failsWith_demand _) fun text htext => ?_
  obtain ⟨target, htarget, ht⟩ := bind_eq_ok.1 (Action.gives_ofExcept.1 ht)
  split
  · exact Action.failsWith_of_gives (Action.gives_pure.2 rfl)
  · next f hf =>
    have hlimit := hfits target t text f (targetText_eq_ok.1 htarget) (exerciseFormula_eq_ok.1 ht)
      (Action.gives_ofExcept.1 htext) hf
    rw [← Formula.length_vars_bin .iff] at hlimit
    obtain ⟨r, hr, -⟩ := exists_gives_equivalenceResult hlimit
    exact Action.failsWith_of_gives hr

section

variable {key : AcceptedFormulas}
  (hfree : ∀ {text f}, Answer.formula answer = .ok text → ¬ Spelled text key.formulas →
    Formula.parse text = .ok f → ¬ f.Stopped settings.maxVariables key.formulas)

include hfree

/-- Where nothing stops the search, holding an answer against accepted formulas fails only if the
    answer is no text. -/
theorem failsWith_matchAccepted
    {report : String → Except SyntaxError (Option Match) → Action GradingResult}
    (hreport : ∀ text v, (report text v).FailsWith (.ok settings) Failure.IsDiagnosed) :
    (do
      let text ← demand (Answer.formula answer)
      report text (← matchAccepted key.formulas text)).FailsWith (.ok settings)
        Failure.IsDiagnosed := by
  refine Action.failsWith_bind (failsWith_demand _) fun text htext => ?_
  obtain ⟨v, hverdict⟩ := exists_verdict text key.formulas
  have hv := hverdict.gives_of_free fun f => hfree (Action.gives_ofExcept.1 htext)
  exact Action.failsWith_bind (Action.failsWith_of_gives hv) fun v _ => hreport text v

theorem failsWith_acceptedFormula : (acceptedFormula key explanation answer).FailsWith
    (.ok settings) Failure.IsDiagnosed := by
  refine failsWith_matchAccepted hfree fun text v => ?_
  split <;> exact Action.failsWith_of_gives (Action.gives_pure.2 rfl)

theorem failsWith_normalForm (content : NormalFormContent) :
    (normalForm content key explanation answer).FailsWith (.ok settings) Failure.IsDiagnosed := by
  refine failsWith_matchAccepted hfree fun text v => ?_
  split
  · exact Action.failsWith_of_gives (Action.gives_pure.2 rfl)
  · dsimp only
    split <;> exact Action.failsWith_of_gives (Action.gives_pure.2 rfl)

end

/-! ## The grader of derivations -/

/-- Where the tables fit, a derivation is graded once the exercise and the answer are read. -/
theorem failsWith_derivation {content : ProofContent} {key : ProofKey}
    (hfits : (Task.proof content key).WithinLimit settings.maxVariables answer) :
    (derivation content key explanation answer).FailsWith (.ok settings) Failure.IsDiagnosed := by
  refine Action.failsWith_bind (failsWith_demand _) fun premises hpremises => ?_
  refine Action.failsWith_bind (failsWith_demand _) fun conclusion hconclusion => ?_
  refine Action.failsWith_bind (failsWith_demand _) fun steps hsteps => ?_
  have hread : ReadAs content.premises premises :=
    (forall₂_of_mapM (Action.gives_ofExcept.1 hpremises)).imp fun _ _ => exerciseFormula_eq_ok.1
  have hparse := exerciseFormula_eq_ok.1 (Action.gives_ofExcept.1 hconclusion)
  have hlisted := Action.gives_ofExcept.1 hsteps
  have hfits := hfits premises conclusion steps hread hparse hlisted
  obtain ⟨r, hr⟩ := exists_gives_derivation hread hparse hlisted hfits
  -- the whole derivation is graded, so the rest is
  rw [derivation, Action.gives_bind_of_gives hpremises, Action.gives_bind_of_gives hconclusion,
    Action.gives_bind_of_gives hsteps] at hr
  exact Action.failsWith_of_gives hr

/-! ## The grader of truth tables -/

variable {content : TableContent} {key : TableKey}

theorem truthTable_of_cells_error {e : Answer.CellsError} (hhidden : content.hidden ≠ [])
    (h : Answer.cells answer = .error e) :
    truthTable content key explanation answer = .error (cellsFailure e) := by
  have hnonempty : ¬ content.hidden.isEmpty = true := mt List.isEmpty_iff.1 hhidden
  rw [truthTable, if_neg hnonempty, h]
  rfl

theorem truthTable_eq_error {failure : Failure}
    (h : truthTable content key explanation answer = .error failure) : failure.IsDiagnosed ∨
      failure = .infiniteRow ∧ content.hidden ≠ [] ∧ Answer.MeetsInfiniteRow answer := by
  unfold truthTable at h
  dsimp only at h
  split at h
  · exact .inl ⟨.noHiddenCells, (Except.error.inj h).symm⟩
  · next hhidden =>
    rcases bind_eq_error.1 h with h | ⟨submitted, -, h⟩
    · obtain ⟨e, he, rfl⟩ := Action.mapError_eq_error.1 h
      by_cases hholds : Answer.HoldsCells answer
      · rcases Answer.cells_eq_error hholds he with ⟨f, rfl⟩ | ⟨rfl, hmeets⟩
        · exact .inl ⟨.badCells f, rfl⟩
        · exact .inr ⟨rfl, mt List.isEmpty_iff.2 hhidden, hmeets⟩
      · obtain rfl := Except.error.inj (he.symm.trans (Answer.cells_of_not_holdsCells hholds))
        exact .inl ⟨.notCells, rfl⟩
    · rcases bind_eq_error.1 h with h | ⟨wrong, -, h⟩
      · obtain ⟨e, -, rfl⟩ := Action.mapError_eq_error.1 h
        exact .inl ⟨e, rfl⟩
      · split at h <;> cases h

/-! ## Every grader -/

/-- Where the tables fit, every failure is diagnosed, unless an infinite row is met. -/
theorem failsWith_evaluate {e : Exercise}
    (hfits : e.task.WithinLimit settings.maxVariables answer) :
    (evaluate e answer).FailsWith (.ok settings) fun failure =>
      failure.IsDiagnosed ∨ failure = .infiniteRow ∧ e.task.MeetsInfiniteRow answer := by
  intro failure h
  obtain ⟨task, explanation⟩ := e
  cases task with
  | equivalence content key => exact .inl (failsWith_equivalence hfits failure h)
  | multipleChoice content key => exact .inl (failsWith_demand _ failure h)
  | symbolArrangement content key =>
    exact .inl (failsWith_acceptedFormula (hfits.not_stopped rfl) failure h)
  | formulation content key =>
    exact .inl (failsWith_acceptedFormula (hfits.not_stopped rfl) failure h)
  | validation content key => exact .inl (failsWith_demand _ failure h)
  | truthTable content key =>
    obtain ⟨e, he, rfl⟩ := Action.mapError_eq_error.1 ((Action.result_ofExcept id _ _).symm.trans h)
    exact truthTable_eq_error he
  | proof content key => exact .inl (failsWith_derivation hfits failure h)
  | normalForm content key =>
    exact .inl (failsWith_normalForm (hfits.not_stopped rfl) content failure h)
  | identifyFallacy content key => exact .inl (failsWith_demand _ failure h)

theorem result_evaluate_of_cells_error {content : TableContent} {key : TableKey}
    {e : Answer.CellsError} (hhidden : content.hidden ≠ []) (h : Answer.cells answer = .error e) :
    ((evaluate ⟨.truthTable content key, explanation⟩ answer).run s).result =
      .error (cellsFailure e) := by
  refine (Action.result_ofExcept id _ s).trans ?_
  rw [truthTable_of_cells_error hhidden h]
  rfl

/-- Where every failure of a grader is diagnosed, a warning of grading is that of a diagnosis. -/
theorem startsWith_of_isGradingWarning {e : Exercise}
    (hfails : (evaluate e answer).FailsWith s Failure.IsDiagnosed) {record : LogRecord}
    (hrecord : record ∈ ((e.grade answer).run s).records)
    (hwarning : record.isGradingWarning = true) :
    Text.startsWith record.message "Grading failed (" = true := by
  have hquiet : record ∉ ((evaluate e answer).run s).records := fun h => by
    rw [(quiet_evaluate e answer s record h).not_warning] at hwarning
    cases hwarning
  have hsubmission : record ≠ submissionRecord e.kind := by
    rintro rfl
    cases hwarning
  cases hresult : ((evaluate e answer).run s).result with
  | ok r =>
    rw [Exercise.records_grade_of_gives hresult, List.mem_cons] at hrecord
    exact absurd hrecord (not_or.2 ⟨hsubmission, hquiet⟩)
  | error failure =>
    obtain ⟨error, rfl⟩ := hfails failure hresult
    rw [Exercise.records_grade_of_error hresult, List.mem_append, List.mem_cons,
      List.mem_singleton, or_iff_right (not_or.2 ⟨hsubmission, hquiet⟩)] at hrecord
    rw [hrecord, failureRecord, String.append_assoc, String.append_assoc]
    exact Text.startsWith_append _ _

end Grading

/-- Where the tables that are needed fit the limit, an answer to a stored exercise meets an infinite
    row, or the grader fails, if at all, with a diagnosis, and no warning of grading but that of a
    diagnosis is logged. If it meets an infinite row, the grader fails in another way, and that is
    logged as unexpected.

    The answer to a table exercise with hidden cells that is an object or a list and cannot be read
    as cells is reported as malformed, with the fault, unless it meets an infinite row; one that is
    neither is reported to be no cells. -/
theorem malformed_answers_are_diagnosed_unless_row_infinite {record answer : Json} {e : Exercise}
    {settings : Settings} (hrecord : Exercise.decode record = .ok e)
    (hfits : e.task.WithinLimit settings.maxVariables answer) :
    (¬ e.task.MeetsInfiniteRow answer →
      (Grading.evaluate e answer).FailsWith (.ok settings) Failure.IsDiagnosed ∧
      ∀ log ∈ ((gradeStored record answer).run (.ok settings)).records,
        log.isGradingWarning = true → Text.startsWith log.message "Grading failed (" = true) ∧
    (e.task.MeetsInfiniteRow answer →
      ((Grading.evaluate e answer).run (.ok settings)).result = .error .infiniteRow ∧
      ⟨.grading, .warning, "Unexpected grading failure (ExerciseType.TRUTH_TABLE)"⟩ ∈
        ((gradeStored record answer).run (.ok settings)).records) ∧
    ∀ content key, e.task = .truthTable content key → content.hidden ≠ [] →
      (∀ cells, Answer.cells answer ≠ .ok cells) → ¬ Answer.MeetsInfiniteRow answer →
      ∃ r, (gradeStored record answer).Gives (.ok settings) r ∧
        (Answer.HoldsCells answer →
          ∃ fault : CellFault, Answer.cells answer = .error (.fault fault) ∧
            r.feedback = "Could not grade this answer: " ++
              ("Malformed truth table answer: " ++ fault.message)) ∧
        (¬ Answer.HoldsCells answer →
          r.feedback = "Could not grade this answer: Expected truth table cells") := by
  have hgraded := gradeStored_eq hrecord answer
  refine ⟨fun hmeets => ?_, fun hmeets => ?_, fun content key htask hhidden hunread hmeets => ?_⟩
  · have hfails : (Grading.evaluate e answer).FailsWith (.ok settings) Failure.IsDiagnosed :=
      fun failure h => (Grading.failsWith_evaluate hfits failure h).resolve_right
        fun h => hmeets h.2
    refine ⟨hfails, fun log hlog => ?_⟩
    rw [hgraded] at hlog
    exact Grading.startsWith_of_isGradingWarning hfails hlog
  · obtain ⟨task, explanation⟩ := e
    cases task with
    | truthTable content key =>
      have hresult : ((Grading.evaluate ⟨.truthTable content key, explanation⟩ answer).run
          (.ok settings)).result = .error .infiniteRow :=
        Grading.result_evaluate_of_cells_error hmeets.1 (Answer.cells_of_infinite hmeets.2)
      refine ⟨hresult, ?_⟩
      rw [hgraded, Exercise.records_grade_of_error hresult]
      exact List.mem_append_right _ (List.mem_singleton_self _)
    | _ => cases hmeets
  · obtain ⟨task, explanation⟩ := e
    obtain rfl : task = .truthTable content key := htask
    cases hcells : Answer.cells answer with
    | ok cells => exact absurd hcells (hunread cells)
    | error error =>
      have hresult : ((Grading.evaluate ⟨.truthTable content key, explanation⟩ answer).run
          (.ok settings)).result = .error (Grading.cellsFailure error) :=
        Grading.result_evaluate_of_cells_error hhidden hcells
      refine ⟨_, (gives_gradeStored hrecord).2 (.inr ⟨_, hresult, rfl⟩), fun hholds => ?_,
        fun hholds => ?_⟩
      · rcases Answer.cells_eq_error hholds hcells with ⟨fault, rfl⟩ | ⟨-, h⟩
        · exact ⟨fault, rfl, rfl⟩
        · exact absurd h hmeets
      · obtain rfl := Except.error.inj
          (hcells.symm.trans (Answer.cells_of_not_holdsCells hholds))
        rfl

/-- A stored exercise on the table of `P` with one hidden cell. -/
def oneHiddenCellRecord : Json :=
  .object [("type", .str "TRUTH_TABLE"),
    ("content", .object [("formula", .str "P"),
      ("hiddenCells", .list [.object [("row", .int 0), ("column", .str "P")]])]),
    ("solution", .object [("values", .object [("P", .list [.bool true, .bool false])])])]

/-- This exercise. -/
def oneHiddenCell : Exercise :=
  ⟨.truthTable ⟨"P", [⟨0, "P"⟩], false⟩ ⟨[("P", [true, false])]⟩, none⟩

/-- A cell with an infinite row. -/
def infiniteRowCell : Json :=
  .object [("row", .float (.infinite false)), ("column", .str "P"), ("value", .bool true)]

/-- An answer in which a cell without a row stands in front of one with an infinite row. -/
def rowlessAnswer : Json := .list [.object [("value", .null)], infiniteRowCell]

/-- The infinite row is not met, so the answer is reported as malformed. -/
theorem malformed_answers_are_diagnosed_unless_row_infinite_behind :
    Exercise.decode oneHiddenCellRecord = .ok oneHiddenCell ∧
    oneHiddenCell.task.WithinLimit Settings.standard.maxVariables rowlessAnswer ∧
    ∃ r, (gradeStored oneHiddenCellRecord rowlessAnswer).Gives (.ok .standard) r ∧
      r.feedback = "Could not grade this answer: Malformed truth table answer: 'row'" := by
  have hrecord : Exercise.decode oneHiddenCellRecord = .ok oneHiddenCell := rfl
  have hfits : oneHiddenCell.task.WithinLimit Settings.standard.maxVariables rowlessAnswer := nofun
  have hcells : Answer.cells rowlessAnswer = .error (.fault (.missingKey "row")) := rfl
  obtain ⟨-, -, hgraded⟩ := malformed_answers_are_diagnosed_unless_row_infinite hrecord hfits
  obtain ⟨r, hr, hfault, -⟩ := hgraded _ _ rfl (List.cons_ne_nil _ _)
    (fun cells h => nomatch hcells.symm.trans h)
    (fun h => nomatch hcells.symm.trans (Answer.cells_of_infinite h))
  obtain ⟨fault, hread, hfeedback⟩ := hfault trivial
  obtain rfl : CellFault.missingKey "row" = fault := by
    cases hcells.symm.trans hread
    rfl
  exact ⟨hrecord, hfits, r, hr, hfeedback⟩

/-- An answer with an infinite row fails without a diagnosis. -/
theorem infinite_row_is_not_diagnosed : ¬ ∀ (record answer : Json) (e : Exercise)
    (settings : Settings), Exercise.decode record = .ok e →
      e.task.WithinLimit settings.maxVariables answer →
      (Grading.evaluate e answer).FailsWith (.ok settings) Failure.IsDiagnosed := by
  intro h
  obtain ⟨error, herror⟩ := h oneHiddenCellRecord (.list [infiniteRowCell]) oneHiddenCell .standard
    rfl nofun .infiniteRow rfl
  cases herror

end PropTutor
