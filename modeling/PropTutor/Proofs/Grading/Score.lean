/-
  Scores and verdicts.

  The score of a result lies between zero and one, and it is one exactly if the result is
  correct (`GradingResult.Scored`). A score in between is a quotient of counts, by a number that
  is not zero. Only three kinds of tasks have such scores (`Task.DividesScore`): a multiple choice
  of several options, a truth table and a derivation. Each grader ensures this for itself; what
  could not be graded has no score at all.
-/
import Mathlib.Tactic.Linarith
import PropTutor.Proofs.Exercise.Decode
import PropTutor.Proofs.Grading.Choices
import PropTutor.Proofs.Grading.Grade

namespace PropTutor

/-- The number by which the score of a result with these details was divided. -/
def Details.divisor? : Details → Option Nat
  | choice (some counts) _ => some counts.total
  | cells _ total _ => some total
  | proof report => some report.total
  | _ => none

/-- The score is a part of the whole, and the whole exactly if the result is correct. It is less
    than the whole and more than nothing only where scores are divided, and no score is divided by
    zero. -/
structure GradingResult.Scored (r : GradingResult) (divided : Prop) : Prop where
  nonneg : 0 ≤ r.score
  le_one : r.score ≤ 1
  isCorrect_iff : r.isCorrect = true ↔ r.score = 1
  divided : 0 < r.score → r.score < 1 → divided
  divisor_pos : ∀ n ∈ r.details.divisor?, 0 < n

/-- The tasks with a score between nothing and the whole. -/
def Task.DividesScore : Task → Prop
  | multipleChoice content _ => content.allowMultiple = true
  | truthTable .. => True
  | proof .. => True
  | _ => False

/-- All of them are of a kind for which such scores are announced. -/
theorem Task.partialCredit_of_dividesScore {task : Task} (h : task.DividesScore) :
    task.kind.info.partialCredit = true := by
  cases task with
  | multipleChoice content key => rfl
  | truthTable content key => rfl
  | proof content key => rfl
  | _ => exact h.elim

variable {divided : Prop} {feedback : String} {explanation : Option String} {details : Details}

namespace GradingResult

theorem Scored.imp {r : GradingResult} {divided' : Prop} (h : r.Scored divided)
    (himp : divided → divided') : r.Scored divided' :=
  { h with divided := fun hpos hlt => himp (h.divided hpos hlt) }

/-! ## Results by their scores -/

theorem scored_correct (h : ∀ n ∈ details.divisor?, 0 < n) :
    (correct feedback explanation details).Scored divided where
  nonneg := rfl
  le_one := Rat.le_refl
  isCorrect_iff := iff_of_true rfl rfl
  divided _ hlt := absurd hlt (lt_irrefl 1)
  divisor_pos := h

/-- A part of the score is earned by an incorrect answer. -/
theorem scored_incorrect {score : Rat} (hnonneg : 0 ≤ score) (hlt : score < 1)
    (hdivided : 0 < score → divided) (h : ∀ n ∈ details.divisor?, 0 < n) :
    (incorrect feedback explanation score details).Scored divided where
  nonneg := hnonneg
  le_one := hlt.le
  isCorrect_iff := iff_of_false Bool.false_ne_true hlt.ne
  divided hpos _ := hdivided hpos
  divisor_pos := h

theorem scored_incorrect_zero (h : ∀ n ∈ details.divisor?, 0 < n) :
    (incorrect feedback explanation 0 details).Scored divided :=
  scored_incorrect le_rfl zero_lt_one (fun hpos => absurd hpos (lt_irrefl 0)) h

end GradingResult

namespace Grading

open GradingResult

theorem scored_failed (e : Failure) : (failed e).Scored divided := scored_incorrect_zero nofun

theorem scored_syntaxErrorResult (e : SyntaxError) :
    (syntaxErrorResult e explanation).Scored divided :=
  scored_incorrect_zero nofun

/-! ## Shares -/

theorem share_nonneg (k n : Nat) : (0 : Rat) ≤ (k : Rat) / n :=
  div_nonneg (Nat.cast_nonneg _) (Nat.cast_nonneg _)

theorem share_lt_one {k n : Nat} (h : k < n) : (k : Rat) / n < 1 := by
  have hpos : (0 : Rat) < n := Nat.cast_pos.2 (Nat.zero_lt_of_lt h)
  rw [div_lt_one hpos]
  exact Nat.cast_lt.2 h

theorem share_le_one {k n : Nat} (h : k ≤ n) : (k : Rat) / n ≤ 1 :=
  div_le_one_of_le₀ (Nat.cast_le.2 h) (Nat.cast_nonneg _)

/-- A derivation with an unsupported step, or one that fails otherwise, has less than the whole
    score. -/
theorem derivationScore_lt_one {report : ProofReport}
    (hsupported : report.supported = report.total - report.unsupported.length)
    (htotal : 0 < report.total)
    (h : (report.unsupported.isEmpty && report.reachesConclusion && report.withinLimit) = false) :
    derivationScore report < 1 := by
  unfold derivationScore
  dsimp only
  split
  · next hrest =>
    -- the rest is as it should be, so a step is unsupported
    rw [Bool.and_assoc, hrest, Bool.and_true, List.isEmpty_eq_false_iff] at h
    have hlength := List.length_pos_of_ne_nil h
    exact share_lt_one (by omega)
  · have hshare : (report.supported : Rat) / report.total ≤ 1 := share_le_one (by omega)
    linarith

theorem derivationScore_nonneg (report : ProofReport) : 0 ≤ derivationScore report := by
  have hshare := share_nonneg report.supported report.total
  unfold derivationScore
  dsimp only
  split
  · exact hshare
  · linarith

/-! ## The graders -/

variable {answer : Json}

theorem scored_equivalence (content key : EquivalenceTarget) :
    (equivalence content key explanation answer).Ensures (·.Scored divided) := by
  refine Action.ensures_bind fun target => Action.ensures_bind fun text => ?_
  split
  · exact Action.ensures_pure (scored_syntaxErrorResult _)
  · refine Action.ensures_bind fun equivalent => ?_
    split
    · exact Action.ensures_pure (scored_correct nofun)
    · refine Action.ensures_bind fun differences => ?_
      split
      · exact Action.ensures_pure (scored_incorrect_zero nofun)
      · exact Action.ensures_fail

theorem scored_multipleChoice {content : ChoiceContent} {key : ChoiceKey}
    (hids : key.correctIds ≠ []) {r : GradingResult}
    (h : multipleChoice content key explanation answer = .ok r) :
    r.Scored (content.allowMultiple = true) := by
  obtain ⟨selected, -, h⟩ := bind_eq_ok.1 h
  have htotal : 0 < (choiceCounts selected key.correctIds).total := total_pos hids
  dsimp only at h
  split at h
  · next hmultiple =>
    have hdivisor : ∀ n ∈ some (choiceCounts selected key.correctIds).total, 0 < n := by
      rintro n ⟨⟩
      exact htotal
    split at h
    · obtain rfl := Except.ok.inj h
      exact scored_correct hdivisor
    · next hcomplete =>
      obtain rfl := Except.ok.inj h
      have hlt := choiceScore_lt_one (right_le_total _ _) htotal (Bool.eq_false_iff.2 hcomplete)
      exact scored_incorrect (choiceScore_nonneg _) hlt (fun _ => hmultiple) hdivisor
  · split at h
    · obtain rfl := Except.ok.inj h
      exact scored_correct nofun
    · obtain rfl := Except.ok.inj h
      exact scored_incorrect_zero nofun

theorem scored_acceptedFormula (key : AcceptedFormulas) :
    (acceptedFormula key explanation answer).Ensures (·.Scored divided) := by
  refine Action.ensures_bind fun text => Action.ensures_bind fun outcome => ?_
  split
  · exact Action.ensures_pure (scored_syntaxErrorResult _)
  · exact Action.ensures_pure (scored_incorrect_zero nofun)
  · exact Action.ensures_pure (scored_correct nofun)

theorem scored_normalForm (content : NormalFormContent) (key : AcceptedFormulas) :
    (normalForm content key explanation answer).Ensures (·.Scored divided) := by
  refine Action.ensures_bind fun text => Action.ensures_bind fun outcome => ?_
  split
  · exact Action.ensures_pure (scored_syntaxErrorResult _)
  · dsimp only
    split
    · exact Action.ensures_pure (scored_incorrect_zero nofun)
    · exact Action.ensures_pure (scored_correct nofun)

theorem scored_validation {key : ValidityKey} {r : GradingResult}
    (h : validation key explanation answer = .ok r) : r.Scored divided := by
  obtain ⟨submitted, -, h⟩ := bind_eq_ok.1 h
  dsimp only at h
  split at h
  · obtain rfl := Except.ok.inj h
    refine scored_correct ?_
    split <;> exact nofun
  · obtain rfl := Except.ok.inj h
    refine scored_incorrect_zero ?_
    split <;> exact nofun

theorem scored_truthTable {content : TableContent} {key : TableKey} {r : GradingResult}
    (h : truthTable content key explanation answer = .ok r) : r.Scored True := by
  unfold truthTable at h
  dsimp only at h
  split at h
  · cases h
  · next hhidden =>
    obtain ⟨submitted, -, h⟩ := bind_eq_ok.1 h
    obtain ⟨wrong, -, h⟩ := bind_eq_ok.1 h
    have htotal : 0 < content.hidden.length := List.length_pos_iff.2 (mt List.isEmpty_iff.2 hhidden)
    have hdivisor : ∀ n ∈ some content.hidden.length, 0 < n := by
      rintro n ⟨⟩
      exact htotal
    split at h
    · obtain rfl := Except.ok.inj h
      exact scored_correct hdivisor
    · next hwrong =>
      obtain rfl := Except.ok.inj h
      have hlength : 0 < wrong.length := List.length_pos_iff.2 (mt List.isEmpty_iff.2 hwrong)
      have hlt : ((content.hidden.length - wrong.length : Nat) : Rat) / content.hidden.length < 1 :=
        share_lt_one (by omega)
      exact scored_incorrect (share_nonneg _ _) hlt (fun _ => trivial) hdivisor

theorem scored_derivation (content : ProofContent) (key : ProofKey) :
    (derivation content key explanation answer).Ensures (·.Scored True) := by
  refine Action.ensures_bind fun premises => Action.ensures_bind fun conclusion =>
    Action.ensures_bind fun steps => ?_
  split
  · exact Action.ensures_pure (scored_incorrect_zero nofun)
  · next last hlast =>
    refine Action.ensures_bind fun unsupported => Action.ensures_bind fun reached => ?_
    have htotal : 0 < steps.length := List.length_pos_of_mem (List.mem_of_getLast? hlast)
    have hdivisor : ∀ n ∈ some steps.length, 0 < n := by
      rintro n ⟨⟩
      exact htotal
    dsimp only
    split
    · exact Action.ensures_pure (scored_correct hdivisor)
    · next hnot =>
      exact Action.ensures_pure (scored_incorrect (derivationScore_nonneg _)
        (derivationScore_lt_one rfl htotal (Bool.eq_false_iff.2 hnot)) (fun _ => trivial) hdivisor)

theorem scored_fallacy {key : FallacyKey} {r : GradingResult}
    (h : fallacy key explanation answer = .ok r) : r.Scored divided := by
  obtain ⟨submitted, -, h⟩ := bind_eq_ok.1 h
  split at h
  · obtain rfl := Except.ok.inj h
    exact scored_correct nofun
  · obtain rfl := Except.ok.inj h
    exact scored_incorrect_zero nofun

/-! ## All kinds -/

/-- What an evaluation gives is scored as its task says. -/
theorem scored_evaluate {e : Exercise} (hids : ∀ content key,
      e.task = .multipleChoice content key → key.correctIds ≠ []) (answer : Json) :
    (evaluate e answer).Ensures (·.Scored e.task.DividesScore) := by
  obtain ⟨task, explanation⟩ := e
  cases task with
  | equivalence content key => exact scored_equivalence content key
  | multipleChoice content key =>
    exact Action.ensures_ofExcept fun r => scored_multipleChoice (hids content key rfl)
  | symbolArrangement content key => exact scored_acceptedFormula key
  | formulation content key => exact scored_acceptedFormula key
  | validation content key => exact Action.ensures_ofExcept fun r => scored_validation
  | truthTable content key => exact Action.ensures_ofExcept fun r => scored_truthTable
  | proof content key => exact scored_derivation content key
  | normalForm content key => exact scored_normalForm content key
  | identifyFallacy content key => exact Action.ensures_ofExcept fun r => scored_fallacy

/-- An exercise that was decoded gives every answer a result, and its score goes with its
    verdict. -/
theorem exists_scored_grade {record : Json} {e : Exercise}
    (hrecord : Exercise.decode record = .ok e) (answer : Json) (s : Except SettingsError Settings) :
    ∃ r, (e.grade answer).Gives s r ∧ r.Scored e.task.DividesScore := by
  obtain ⟨r, hr, hevaluate | ⟨failure, rfl⟩⟩ := e.exists_gives_grade answer s
  · have hids : ∀ content key, e.task = .multipleChoice content key → key.correctIds ≠ [] :=
      fun _ _ htask => Exercise.correctIds_ne_nil hrecord htask
    exact ⟨r, hr, scored_evaluate hids answer s r hevaluate⟩
  · exact ⟨_, hr, scored_failed failure⟩

end Grading

/-- Whatever is given for an exercise, every answer has a result under all settings, even where
    they cannot be read. Its score lies between zero and one, and is one exactly if the answer is
    correct. A score in between occurs only for a multiple choice of several options, for a truth
    table and for a derivation, which are kinds for which it is announced. -/
theorem score_goes_with_verdict :
    (∀ record answer s, ∃ r, (gradeStored record answer).Gives s r ∧
      r.Scored (∃ e, Exercise.decode record = .ok e ∧ e.task.DividesScore)) ∧
    (∀ record e, Exercise.decode record = .ok e → ∀ answer s, ∃ r, (e.grade answer).Gives s r ∧
      r.Scored e.task.DividesScore) ∧
    ∀ task : Task, task.DividesScore → task.kind.info.partialCredit = true := by
  refine ⟨fun record answer s => ?_, fun record e => Grading.exists_scored_grade,
    fun task => Task.partialCredit_of_dividesScore⟩
  cases hrecord : Exercise.decode record with
  | error error =>
    refine ⟨Grading.failed (.ofDecodeError error), ?_, Grading.scored_failed _⟩
    rw [gradeStored, hrecord]
    rfl
  | ok e =>
    obtain ⟨r, hr, hscored⟩ := Grading.exists_scored_grade hrecord answer s
    refine ⟨r, ?_, hscored.imp fun hdivides => ⟨e, rfl, hdivides⟩⟩
    rwa [gradeStored_eq hrecord]

/-- A stored exercise with three right options, of which several may be selected. -/
def threeOptionsRecord : Json :=
  .object [("type", .str "MULTIPLE_CHOICE"), ("content", .object [("allowMultiple", .bool true)]),
    ("solution", .object [("correctOptionIds", .list [.str "a", .str "b", .str "c"])])]

/-- The exercise of this record. -/
def threeOptions : Exercise :=
  ⟨.multipleChoice ⟨"", [], true, false⟩ ⟨["a", "b", "c"], []⟩, none⟩

/-- Two right options and a wrong one have a third of the score. -/
theorem score_goes_with_verdict_third :
    Exercise.decode threeOptionsRecord = .ok threeOptions ∧
    ∃ r, (threeOptions.grade (.list [.str "a", .str "b", .str "d"])).Gives (.ok .standard) r ∧
      r.score = 1 / 3 ∧ r.Scored threeOptions.task.DividesScore := by
  have hrecord : Exercise.decode threeOptionsRecord = .ok threeOptions := rfl
  obtain ⟨r, hr, hscored⟩ := score_goes_with_verdict.2.1 threeOptionsRecord threeOptions hrecord
    (.list [.str "a", .str "b", .str "d"]) (.ok .standard)
  have hthird : (threeOptions.grade (.list [.str "a", .str "b", .str "d"])).Gives (.ok .standard)
      (.incorrect "Partially correct: 2 of 3 right options selected, 1 wrong." none (mkRat 1 3)
        (.choice (some ⟨2, 1, 3⟩) [])) := rfl
  obtain rfl := Except.ok.inj (hr.symm.trans hthird)
  exact ⟨hrecord, _, hr, Rat.mkRat_eq_div 1 3, hscored⟩

end PropTutor
