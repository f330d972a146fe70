/-
  What grading logs, and when it says that an answer could not be graded.

  A grader fails or gives a result, and no result of its own begins with the announcement of a
  failure (`Grading.graded_evaluate`). Neither does it write a warning of grading or the record of
  a submission (`Grading.quiet_evaluate`), since those are written around it: the record of the
  submission in front, once the exercise is known, and a warning behind, where the grader or the
  decoding failed. So a failure can be told from the feedback as well as from the log, and each
  is there exactly once (`grading_failures_logged_once`).
-/
import PropTutor.Proofs.Exercise.Decode
import PropTutor.Proofs.Grading.Matching
import PropTutor.Proofs.Text.Beginning

namespace PropTutor

/-! ## Records and feedback -/

namespace LogRecord

/-- A warning of grading. -/
def isGradingWarning (record : LogRecord) : Bool :=
  record.source == .grading && record.level == .warning

/-- The record that a submission is graded. -/
def isSubmission (record : LogRecord) : Bool :=
  record.source == .grading && record.level == .debug && Text.startsWith record.message "Grading "

/-- The record is neither. -/
structure Quiet (record : LogRecord) : Prop where
  not_warning : record.isGradingWarning = false
  not_submission : record.isSubmission = false

theorem quiet_of_tables (record : LogRecord) (h : record.source = .tables) : record.Quiet := by
  constructor
  · rw [isGradingWarning, h]
    rfl
  · rw [isSubmission, h]
    rfl

theorem quiet_debug {message : String} (h : Text.Apart message "Grading ") :
    Quiet ⟨.grading, .debug, message⟩ where
  not_warning := rfl
  not_submission := by rw [isSubmission, h.left, Bool.and_false]

variable {records : List LogRecord} (h : ∀ record ∈ records, record.Quiet)

include h

theorem countP_isGradingWarning_of_quiet : records.countP isGradingWarning = 0 :=
  List.countP_eq_zero.2 fun record hrecord => Bool.eq_false_iff.1 (h record hrecord).not_warning

theorem filter_isSubmission_of_quiet : records.filter isSubmission = [] :=
  List.filter_eq_nil_iff.2 fun record hrecord =>
    Bool.eq_false_iff.1 (h record hrecord).not_submission

end LogRecord

/-- The feedback says that the answer could not be graded. -/
def GradingResult.isUngraded (r : GradingResult) : Bool :=
  Text.startsWith r.feedback "Could not grade this answer: "

namespace Grading

variable {explanation : Option String} {answer : Json}

theorem isUngraded_failed (e : Failure) : (failed e).isUngraded = true := Text.startsWith_append _ _

section

variable {feedback : String} (h : Text.Apart feedback "Could not grade this answer: ")

include h

theorem graded_correct {details : Details} :
    (GradingResult.correct feedback explanation details).isUngraded = false :=
  h.left

theorem graded_incorrect {score : Rat} {details : Details} :
    (GradingResult.incorrect feedback explanation score details).isUngraded = false :=
  h.left

end

theorem graded_syntaxErrorResult (e : SyntaxError) :
    (syntaxErrorResult e explanation).isUngraded = false := by
  have hapart : Text.Apart "Syntax error: " "Could not grade this answer: " :=
    Text.apart_ofList rfl rfl
  exact graded_incorrect (hapart.append _)

/-! ## The feedback of the graders -/

theorem graded_equivalence (content key : EquivalenceTarget) :
    (equivalence content key explanation answer).Ensures (·.isUngraded = false) := by
  refine Action.ensures_bind fun target => Action.ensures_bind fun text => ?_
  split
  · exact Action.ensures_pure (graded_syntaxErrorResult _)
  · refine Action.ensures_bind fun equivalent => ?_
    split
    · exact Action.ensures_pure (graded_correct (Text.apart_ofList rfl rfl))
    · refine Action.ensures_bind fun differences => ?_
      split
      · exact Action.ensures_pure (graded_incorrect (Text.apart_ofList rfl rfl))
      · exact Action.ensures_fail

theorem graded_multipleChoice {content : ChoiceContent} {key : ChoiceKey} {r : GradingResult}
    (h : multipleChoice content key explanation answer = .ok r) : r.isUngraded = false := by
  have hpartial : Text.Apart "Partially correct: " "Could not grade this answer: " :=
    Text.apart_ofList rfl rfl
  obtain ⟨selected, -, h⟩ := bind_eq_ok.1 h
  dsimp only at h
  split at h
  · split at h
    · obtain rfl := Except.ok.inj h
      exact graded_correct (Text.apart_ofList rfl rfl)
    · obtain rfl := Except.ok.inj h
      exact graded_incorrect
        ((((((hpartial.append _).append _).append _).append _).append _).append _)
  · split at h
    · obtain rfl := Except.ok.inj h
      exact graded_correct (Text.apart_ofList rfl rfl)
    · obtain rfl := Except.ok.inj h
      exact graded_incorrect (Text.apart_ofList rfl rfl)

theorem graded_acceptedFormula (key : AcceptedFormulas) :
    (acceptedFormula key explanation answer).Ensures (·.isUngraded = false) := by
  refine Action.ensures_bind fun text => Action.ensures_bind fun outcome => ?_
  split
  · exact Action.ensures_pure (graded_syntaxErrorResult _)
  · exact Action.ensures_pure (graded_incorrect (Text.apart_ofList rfl rfl))
  · exact Action.ensures_pure (graded_correct (Text.apart_ofList rfl rfl))

theorem graded_normalForm (content : NormalFormContent) (key : AcceptedFormulas) :
    (normalForm content key explanation answer).Ensures (·.isUngraded = false) := by
  have hshape : Text.Apart "Correct, your formula is equivalent, but it is not written in "
      "Could not grade this answer: " :=
    Text.apart_ofList rfl rfl
  refine Action.ensures_bind fun text => Action.ensures_bind fun outcome => ?_
  split
  · exact Action.ensures_pure (graded_syntaxErrorResult _)
  · dsimp only
    split
    · exact Action.ensures_pure (graded_incorrect (Text.apart_ofList rfl rfl))
    · refine Action.ensures_pure (graded_correct ?_)
      split
      · exact (hshape.append _).append _
      · exact Text.apart_ofList rfl rfl

theorem graded_validation {key : ValidityKey} {r : GradingResult}
    (h : validation key explanation answer = .ok r) : r.isUngraded = false := by
  have hverdict : Text.Apart "Correct! The argument is " "Could not grade this answer: " :=
    Text.apart_ofList rfl rfl
  obtain ⟨submitted, -, h⟩ := bind_eq_ok.1 h
  dsimp only at h
  split at h
  · obtain rfl := Except.ok.inj h
    exact graded_correct ((hverdict.append _).append _)
  · obtain rfl := Except.ok.inj h
    exact graded_incorrect (Text.apart_ofList rfl rfl)

theorem graded_truthTable {content : TableContent} {key : TableKey} {r : GradingResult}
    (h : truthTable content key explanation answer = .ok r) : r.isUngraded = false := by
  unfold truthTable at h
  dsimp only at h
  split at h
  · cases h
  · obtain ⟨submitted, -, h⟩ := bind_eq_ok.1 h
    obtain ⟨wrong, -, h⟩ := bind_eq_ok.1 h
    split at h
    · obtain rfl := Except.ok.inj h
      exact graded_correct (Text.apart_ofList rfl rfl)
    · obtain rfl := Except.ok.inj h
      have hcount : Text.Apart (toString (content.hidden.length - wrong.length))
          "Could not grade this answer: " := Text.apart_number _ rfl rfl
      exact graded_incorrect (((hcount.append _).append _).append _)

theorem apart_derivationFeedback (report : ProofReport) (limit : Option Int) :
    Text.Apart (derivationFeedback report limit) "Could not grade this answer: " := by
  have hsteps : Text.Apart "Steps " "Could not grade this answer: " :=
    Text.apart_ofList rfl rfl
  have hlong : Text.Apart "The proof uses " "Could not grade this answer: " :=
    Text.apart_ofList rfl rfl
  unfold derivationFeedback
  split
  · exact (hsteps.append _).append _
  · split
    · exact Text.apart_ofList rfl rfl
    · exact (((hlong.append _).append _).append _).append _

theorem graded_derivation (content : ProofContent) (key : ProofKey) :
    (derivation content key explanation answer).Ensures (·.isUngraded = false) := by
  refine Action.ensures_bind fun premises => Action.ensures_bind fun conclusion =>
    Action.ensures_bind fun steps => ?_
  split
  · exact Action.ensures_pure (graded_incorrect (Text.apart_ofList rfl rfl))
  · refine Action.ensures_bind fun unsupported => Action.ensures_bind fun reached => ?_
    dsimp only
    split
    · exact Action.ensures_pure (graded_correct (Text.apart_ofList rfl rfl))
    · exact Action.ensures_pure (graded_incorrect (apart_derivationFeedback _ _))

theorem graded_fallacy {key : FallacyKey} {r : GradingResult}
    (h : fallacy key explanation answer = .ok r) : r.isUngraded = false := by
  obtain ⟨submitted, -, h⟩ := bind_eq_ok.1 h
  split at h
  · obtain rfl := Except.ok.inj h
    exact graded_correct (Text.apart_ofList rfl rfl)
  · obtain rfl := Except.ok.inj h
    exact graded_incorrect (Text.apart_ofList rfl rfl)

/-- No result of a grader says that the answer could not be graded. -/
theorem graded_evaluate (e : Exercise) (answer : Json) :
    (evaluate e answer).Ensures (·.isUngraded = false) := by
  obtain ⟨task, explanation⟩ := e
  cases task with
  | equivalence content key => exact graded_equivalence content key
  | multipleChoice content key => exact Action.ensures_ofExcept fun r => graded_multipleChoice
  | symbolArrangement content key => exact graded_acceptedFormula key
  | formulation content key => exact graded_acceptedFormula key
  | validation content key => exact Action.ensures_ofExcept fun r => graded_validation
  | truthTable content key => exact Action.ensures_ofExcept fun r => graded_truthTable
  | proof content key => exact graded_derivation content key
  | normalForm content key => exact graded_normalForm content key
  | identifyFallacy content key => exact Action.ensures_ofExcept fun r => graded_fallacy

/-! ## The records of the graders -/

theorem quiet_tabulating {α : Type} (f : Int → Except TableError α) :
    (Action.tabulating f).Logs LogRecord.Quiet :=
  Action.logs_tabulating LogRecord.quiet_of_tables

theorem quiet_equivalence (content key : EquivalenceTarget) :
    (equivalence content key explanation answer).Logs LogRecord.Quiet := by
  refine Action.logs_bind Action.logs_ofExcept fun target =>
    Action.logs_bind Action.logs_ofExcept fun text => ?_
  split
  · exact Action.logs_pure
  · refine Action.logs_bind (quiet_tabulating _) fun equivalent => ?_
    split
    · exact Action.logs_pure
    · refine Action.logs_bind (quiet_tabulating _) fun differences => ?_
      split
      · exact Action.logs_pure
      · exact Action.logs_fail

/-- That an entry is passed over is worth no warning. -/
theorem quiet_searchEquivalent (student : Formula) (accepted : List String) :
    (searchEquivalent student accepted).Logs LogRecord.Quiet := by
  have hskip : Text.Apart "Skipping unparsable accepted formula " "Grading " :=
    Text.apart_ofList rfl rfl
  induction accepted with
  | nil => exact Action.logs_pure
  | cons candidate rest ih =>
    rw [searchEquivalent]
    split
    · refine Action.logs_bind (Action.logs_log (LogRecord.quiet_debug ?_)) fun _ => ih
      exact ((hskip.append _).append _).append _
    · refine Action.logs_bind (quiet_tabulating _) fun equivalent => ?_
      split
      · exact Action.logs_pure
      · exact ih

theorem quiet_matchAccepted (accepted : List String) (text : String) :
    (matchAccepted accepted text).Logs LogRecord.Quiet := by
  unfold matchAccepted
  split
  · exact Action.logs_pure
  · split
    · exact Action.logs_pure
    · exact Action.logs_bind (quiet_searchEquivalent _ _) fun found => Action.logs_pure

theorem quiet_acceptedFormula (key : AcceptedFormulas) :
    (acceptedFormula key explanation answer).Logs LogRecord.Quiet := by
  refine Action.logs_bind Action.logs_ofExcept fun text =>
    Action.logs_bind (quiet_matchAccepted _ _) fun outcome => ?_
  split <;> exact Action.logs_pure

theorem quiet_normalForm (content : NormalFormContent) (key : AcceptedFormulas) :
    (normalForm content key explanation answer).Logs LogRecord.Quiet := by
  refine Action.logs_bind Action.logs_ofExcept fun text =>
    Action.logs_bind (quiet_matchAccepted _ _) fun outcome => ?_
  split
  · exact Action.logs_pure
  · dsimp only
    split <;> exact Action.logs_pure

theorem quiet_isSupported (premises : List Formula) (step : String) :
    (isSupported premises step).Logs LogRecord.Quiet := by
  unfold isSupported
  split
  · exact Action.logs_pure
  · exact quiet_tabulating _

theorem quiet_unsupportedFrom (premises : List Formula) (n : Nat) (steps : List String) :
    (unsupportedFrom premises n steps).Logs LogRecord.Quiet := by
  induction steps generalizing n with
  | nil => exact Action.logs_pure
  | cons step rest ih =>
    exact Action.logs_bind (quiet_isSupported premises step) fun supported =>
      Action.logs_bind (ih (n + 1)) fun others => Action.logs_pure

theorem quiet_concludes (conclusion : Formula) (step : String) :
    (concludes conclusion step).Logs LogRecord.Quiet := by
  unfold concludes
  split
  · exact Action.logs_pure
  · exact quiet_tabulating _

theorem quiet_derivation (content : ProofContent) (key : ProofKey) :
    (derivation content key explanation answer).Logs LogRecord.Quiet := by
  refine Action.logs_bind Action.logs_ofExcept fun premises =>
    Action.logs_bind Action.logs_ofExcept fun conclusion =>
      Action.logs_bind Action.logs_ofExcept fun steps => ?_
  split
  · exact Action.logs_pure
  · refine Action.logs_bind (quiet_unsupportedFrom _ _ _) fun unsupported =>
      Action.logs_bind (quiet_concludes _ _) fun reached => ?_
    dsimp only
    split <;> exact Action.logs_pure

/-- No grader writes a warning of grading or the record of a submission. -/
theorem quiet_evaluate (e : Exercise) (answer : Json) :
    (evaluate e answer).Logs LogRecord.Quiet := by
  obtain ⟨task, explanation⟩ := e
  cases task with
  | equivalence content key => exact quiet_equivalence content key
  | symbolArrangement content key => exact quiet_acceptedFormula key
  | formulation content key => exact quiet_acceptedFormula key
  | proof content key => exact quiet_derivation content key
  | normalForm content key => exact quiet_normalForm content key
  | _ => exact Action.logs_ofExcept

/-! ## Around the graders -/

variable {s : Except SettingsError Settings} {kind : Option ExerciseKind}
  {a : Action GradingResult}

theorem records_recover_of_gives {r : GradingResult} (h : a.Gives s r) :
    ((recover kind a).run s).records = (a.run s).records := by
  revert h
  unfold Action.Gives Action.run recover
  rcases a s with ⟨e | x, events⟩
  · exact fun h => nomatch h
  · exact fun _ => rfl

theorem records_recover_of_error {failure : Failure} (h : (a.run s).result = .error failure) :
    ((recover kind a).run s).records = (a.run s).records ++ [failureRecord kind failure] := by
  revert h
  unfold Action.run recover
  rcases a s with ⟨e | x, events⟩
  · intro h
    obtain rfl := Except.error.inj h
    exact List.filterMap_append
  · exact fun h => nomatch h

/-- The record of a submission to an exercise of this kind. -/
def submissionRecord (kind : ExerciseKind) : LogRecord :=
  ⟨.grading, .debug, "Grading " ++ kind.name ++ " submission"⟩

theorem isSubmission_submissionRecord (kind : ExerciseKind) :
    (submissionRecord kind).isSubmission = true := by
  rw [submissionRecord, LogRecord.isSubmission, String.append_assoc, Text.startsWith_append]
  rfl

theorem isGradingWarning_failureRecord (kind : Option ExerciseKind) (failure : Failure) :
    (failureRecord kind failure).isGradingWarning = true := by
  cases failure <;> rfl

theorem isSubmission_failureRecord (kind : Option ExerciseKind) (failure : Failure) :
    (failureRecord kind failure).isSubmission = false := by
  cases failure <;> rfl

end Grading

namespace Exercise

variable {e : Exercise} {answer : Json} {s : Except SettingsError Settings}

/-- The record of the submission comes before those of the grader. -/
theorem records_grade_of_gives {r : GradingResult} (h : (Grading.evaluate e answer).Gives s r) :
    ((e.grade answer).run s).records =
      Grading.submissionRecord e.kind :: ((Grading.evaluate e answer).run s).records := by
  rw [grade, Grading.records_recover_of_gives (Action.gives_log_bind.2 h), Action.records_log_bind]
  rfl

theorem records_grade_of_error {failure : Failure}
    (h : ((Grading.evaluate e answer).run s).result = .error failure) :
    ((e.grade answer).run s).records =
      Grading.submissionRecord e.kind :: ((Grading.evaluate e answer).run s).records ++
        [Grading.failureRecord (some e.kind) failure] := by
  rw [grade, Grading.records_recover_of_error ((Action.result_log_bind ..).trans h),
    Action.records_log_bind]
  rfl

end Exercise

/-! ## What is given for an exercise -/

/-- What is handed to grading for an exercise: a stored record, or an exercise. -/
inductive Given where
  | record (v : Json)
  | exercise (e : Exercise)

namespace Given

/-- The exercise that it is or holds. -/
def decoded : Given → Except DecodeError Exercise
  | record v => Exercise.decode v
  | exercise e => .ok e

/-- Grade an answer to it. -/
def grade (given : Given) (answer : Json) : Action GradingResult :=
  match given with
  | record v => gradeStored v answer
  | exercise e => e.grade answer

/-- Decode it and let the grader of its kind evaluate the answer; either may fail. -/
def evaluate (given : Given) (answer : Json) : Action GradingResult :=
  match given.decoded with
  | .ok e => Grading.evaluate e answer
  | .error error => Action.fail (.ofDecodeError error)

/-- The record of the submission, if there is an exercise. -/
def announcement (given : Given) : List LogRecord :=
  match given.decoded with
  | .ok e => [Grading.submissionRecord e.kind]
  | .error _ => []

variable {given : Given} {answer : Json} {s : Except SettingsError Settings}

section

variable {e : Exercise} (h : given.decoded = .ok e)

include h

theorem grade_of_ok : given.grade answer = e.grade answer := by
  cases given with
  | record v => exact gradeStored_eq h answer
  | exercise e' =>
    obtain rfl := Except.ok.inj h
    rfl

theorem evaluate_of_ok : given.evaluate answer = Grading.evaluate e answer := by
  rw [evaluate, h]

theorem announcement_of_ok : given.announcement = [Grading.submissionRecord e.kind] := by
  rw [announcement, h]

end

section

variable {error : DecodeError} (h : given.decoded = .error error)

include h

theorem grade_of_error :
    given.grade answer = Grading.recover none (Action.fail (.ofDecodeError error)) := by
  cases given with
  | record v =>
    have hdecode : Exercise.decode v = .error error := h
    rw [grade, gradeStored, hdecode]
  | exercise e => cases h

theorem evaluate_of_error : given.evaluate answer = Action.fail (.ofDecodeError error) := by
  rw [evaluate, h]

theorem announcement_of_error : given.announcement = [] := by
  rw [announcement, h]

end

theorem quiet_evaluate : (given.evaluate answer).Logs LogRecord.Quiet := by
  cases h : given.decoded with
  | ok e =>
    rw [evaluate_of_ok h]
    exact Grading.quiet_evaluate e answer
  | error error =>
    rw [evaluate_of_error h]
    exact Action.logs_fail

theorem countP_announcement : given.announcement.countP LogRecord.isGradingWarning = 0 := by
  cases h : given.decoded with
  | ok e =>
    rw [announcement_of_ok h]
    rfl
  | error error =>
    rw [announcement_of_error h]
    rfl

theorem filter_announcement :
    given.announcement.filter LogRecord.isSubmission = given.announcement := by
  cases h : given.decoded with
  | ok e =>
    rw [announcement_of_ok h, List.filter_singleton, Grading.isSubmission_submissionRecord]
    rfl
  | error error =>
    rw [announcement_of_error h]
    rfl

/-- Only an exercise is evaluated to a result. -/
theorem exists_of_gives {r : GradingResult} (hr : (given.evaluate answer).Gives s r) :
    ∃ e, given.decoded = .ok e ∧ (Grading.evaluate e answer).Gives s r := by
  cases h : given.decoded with
  | ok e =>
    rw [evaluate_of_ok h] at hr
    exact ⟨e, rfl, hr⟩
  | error error =>
    rw [evaluate_of_error h] at hr
    cases hr

/-- Where the evaluation gives a result, grading gives it too, and adds nothing to the log but the
    announcement. -/
theorem grade_of_gives {r : GradingResult} (hr : (given.evaluate answer).Gives s r) :
    (given.grade answer).Gives s r ∧ ((given.grade answer).run s).records =
      given.announcement ++ ((given.evaluate answer).run s).records := by
  obtain ⟨e, h, hr⟩ := exists_of_gives hr
  rw [grade_of_ok h, evaluate_of_ok h, announcement_of_ok h]
  exact ⟨Exercise.gives_grade.2 (.inl hr), Exercise.records_grade_of_gives hr⟩

/-- Where the evaluation fails, grading gives the result for the failure and adds its record. -/
theorem grade_of_fails {failure : Failure}
    (hfails : ((given.evaluate answer).run s).result = .error failure) :
    (given.grade answer).Gives s (Grading.failed failure) ∧
      ∃ kind, ((given.grade answer).run s).records = given.announcement ++
        ((given.evaluate answer).run s).records ++ [Grading.failureRecord kind failure] := by
  cases h : given.decoded with
  | ok e =>
    rw [evaluate_of_ok h] at hfails
    rw [grade_of_ok h, evaluate_of_ok h, announcement_of_ok h]
    exact ⟨Exercise.gives_grade.2 (.inr ⟨failure, hfails, rfl⟩), some e.kind,
      Exercise.records_grade_of_error hfails⟩
  | error error =>
    rw [evaluate_of_error h] at hfails
    rw [grade_of_error h, evaluate_of_error h, announcement_of_error h]
    exact ⟨Grading.gives_recover.2 (.inr ⟨failure, hfails, rfl⟩), none,
      Grading.records_recover_of_error hfails⟩

end Given

/-- Every answer has a result, whatever is given for an exercise and whatever the settings are.
    There is one warning of grading if the feedback of the result says that the answer could not be
    graded, and none otherwise. If it says so, decoding or the grader failed, the feedback ends with
    the wording of that failure, and the result has neither score nor explanation nor details.
    Otherwise the exercise was decoded and the result is the one of its grader. The record of the
    submission is written once if there is an exercise, and not at all otherwise. -/
theorem grading_failures_logged_once (given : Given) (answer : Json)
    (s : Except SettingsError Settings) :
    ∃ r, (given.grade answer).Gives s r ∧
      ((given.grade answer).run s).records.countP LogRecord.isGradingWarning =
        (if r.isUngraded then 1 else 0) ∧
      (r.isUngraded = true →
        ∃ failure, ((given.evaluate answer).run s).result = .error failure ∧
          r = ⟨false, 0, "Could not grade this answer: " ++ failure.message, none, .nothing⟩) ∧
      (r.isUngraded = false →
        ∃ e, given.decoded = .ok e ∧ (Grading.evaluate e answer).Gives s r) ∧
      ((given.grade answer).run s).records.filter LogRecord.isSubmission =
        match given.decoded with
        | .ok e => [Grading.submissionRecord e.kind]
        | .error _ => [] := by
  have hquiet : ∀ record ∈ ((given.evaluate answer).run s).records, record.Quiet :=
    Given.quiet_evaluate s
  have hwarnings := LogRecord.countP_isGradingWarning_of_quiet hquiet
  have hsubmissions := LogRecord.filter_isSubmission_of_quiet hquiet
  cases hresult : ((given.evaluate answer).run s).result with
  | error failure =>
    obtain ⟨hgives, kind, hrecords⟩ := Given.grade_of_fails hresult
    have hungraded := Grading.isUngraded_failed failure
    refine ⟨Grading.failed failure, hgives, ?_, fun _ => ⟨failure, rfl, rfl⟩, ?_, ?_⟩
    · rw [hrecords, List.countP_append, List.countP_append, Given.countP_announcement, hwarnings,
        List.countP_singleton, Grading.isGradingWarning_failureRecord, hungraded]
      rfl
    · intro hgraded
      cases hgraded.symm.trans hungraded
    · rw [hrecords, List.filter_append, List.filter_append, Given.filter_announcement, hsubmissions,
        List.filter_singleton, Grading.isSubmission_failureRecord, List.append_nil]
      exact List.append_nil _
  | ok r =>
    obtain ⟨hgives, hrecords⟩ := Given.grade_of_gives hresult
    obtain ⟨e, hdecoded, hr⟩ := Given.exists_of_gives hresult
    have hgraded : r.isUngraded = false := Grading.graded_evaluate e answer s r hr
    refine ⟨r, hgives, ?_, ?_, fun _ => ⟨e, hdecoded, hr⟩, ?_⟩
    · rw [hrecords, List.countP_append, Given.countP_announcement, hwarnings, hgraded]
      rfl
    · intro hungraded
      cases hgraded.symm.trans hungraded
    · rw [hrecords, List.filter_append, Given.filter_announcement, hsubmissions]
      exact List.append_nil _

/-- Where one entry has been passed over, another one has been compared and the table with the next
    one is too large, that failure is what is logged and reported. -/
theorem grading_failures_logged_once_oversized :
    let a := (Given.record (acceptingRecord ["P -", "Q", "A & B & C"])).grade (.str "P")
    a.Gives (.ok twoVariables) (Grading.failed (.table (.tooLarge 4 2))) ∧
      (a.run (.ok twoVariables)).records.length = 4 ∧
      (a.run (.ok twoVariables)).records.countP LogRecord.isGradingWarning = 1 ∧
      (a.run (.ok twoVariables)).records.filter LogRecord.isSubmission =
        [Grading.submissionRecord .formulation] := by
  intro a
  have hfails : a.Gives (.ok twoVariables) (Grading.failed (.table (.tooLarge 4 2))) := rfl
  obtain ⟨r, hr, hwarnings, -, -, hsubmissions⟩ := grading_failures_logged_once
    (.record (acceptingRecord ["P -", "Q", "A & B & C"])) (.str "P") (.ok twoVariables)
  obtain rfl := Except.ok.inj (hr.symm.trans hfails)
  rw [Grading.isUngraded_failed] at hwarnings
  exact ⟨hfails, rfl, hwarnings, hsubmissions⟩

end PropTutor
