/-
  What grading gives.

  Grading gives the result of the evaluation, or the result for a failure where the evaluation
  fails (`gives_gradeStored`). A failure is never correct, so a correct result was evaluated
  (`evaluated_of_isCorrect`). Answers to exercises of one kind that are evaluated alike are graded
  alike.
-/
import PropTutor.Grading.Grade
import PropTutor.Proofs.Action

namespace PropTutor

variable {s : Except SettingsError Settings}

namespace Grading

/-- Recovery gives what the action gives, or the result for its failure. -/
theorem gives_recover {kind : Option ExerciseKind} {a : Action GradingResult}
    {r : GradingResult} : (recover kind a).Gives s r ↔
      a.Gives s r ∨ ∃ e, (a.run s).result = .error e ∧ r = failed e := by
  unfold Action.Gives Action.run recover
  rcases a s with ⟨e | x, events⟩
  · constructor
    · exact fun h => .inr ⟨e, rfl, (Except.ok.inj h).symm⟩
    · rintro (h | ⟨e', he, rfl⟩)
      · cases h
      · rw [Except.error.inj he]
  · constructor
    · exact .inl
    · rintro (h | ⟨e, he, -⟩)
      · exact h
      · cases he

/-- Recovery gives something in every case: what the action gives, or the result for a
    failure. -/
theorem exists_gives_recover (kind : Option ExerciseKind) (a : Action GradingResult)
    (s : Except SettingsError Settings) :
    ∃ r, (recover kind a).Gives s r ∧ (a.Gives s r ∨ ∃ e, r = failed e) := by
  cases hresult : (a.run s).result with
  | ok r => exact ⟨r, gives_recover.2 (.inl hresult), .inl hresult⟩
  | error e => exact ⟨failed e, gives_recover.2 (.inr ⟨e, hresult, rfl⟩), .inr ⟨e, rfl⟩⟩

theorem isCorrect_failed (e : Failure) : (failed e).isCorrect = false := rfl

end Grading

/-- A stored exercise is graded as the exercise that it is decoded to. -/
theorem gradeStored_eq {record : Json} {e : Exercise} (hrecord : Exercise.decode record = .ok e)
    (answer : Json) : gradeStored record answer = e.grade answer := by
  rw [gradeStored, hrecord]

/-- Grading gives what the evaluation gives, or the result for its failure. -/
theorem Exercise.gives_grade {e : Exercise} {answer : Json} {r : GradingResult} :
    (e.grade answer).Gives s r ↔ (Grading.evaluate e answer).Gives s r ∨
      ∃ failure, ((Grading.evaluate e answer).run s).result = .error failure ∧
        r = Grading.failed failure := by
  rw [grade, Grading.gives_recover, Action.gives_log_bind, Action.result_log_bind]

/-- Grading a stored exercise gives what its evaluation gives, or the result for its failure. -/
theorem gives_gradeStored {record answer : Json} {e : Exercise} {r : GradingResult}
    (hrecord : Exercise.decode record = .ok e) : (gradeStored record answer).Gives s r ↔
      (Grading.evaluate e answer).Gives s r ∨
        ∃ failure, ((Grading.evaluate e answer).run s).result = .error failure ∧
          r = Grading.failed failure := by
  rw [gradeStored_eq hrecord, Exercise.gives_grade]

/-- A correct result is one that the evaluation gives. -/
theorem evaluated_of_isCorrect {record answer : Json} {e : Exercise} {r : GradingResult}
    (hrecord : Exercise.decode record = .ok e) (hgives : (gradeStored record answer).Gives s r)
    (hcorrect : r.isCorrect = true) : (Grading.evaluate e answer).Gives s r := by
  rcases (gives_gradeStored hrecord).1 hgives with hgives | ⟨failure, -, rfl⟩
  · exact hgives
  · rw [Grading.isCorrect_failed] at hcorrect
    cases hcorrect

/-- Grading an exercise gives a result in every case. -/
theorem Exercise.exists_gives_grade (e : Exercise) (answer : Json)
    (s : Except SettingsError Settings) : ∃ r, (e.grade answer).Gives s r ∧
      ((Grading.evaluate e answer).Gives s r ∨ ∃ failure, r = Grading.failed failure) := by
  obtain ⟨r, hr, hcases⟩ := Grading.exists_gives_recover (some e.kind) (do
    Action.log .grading .debug ("Grading " ++ e.kind.name ++ " submission")
    Grading.evaluate e answer) s
  exact ⟨r, hr, hcases.imp_left Action.gives_log_bind.1⟩

/-- Answers to exercises of one kind that are evaluated alike are graded alike. -/
theorem Exercise.grade_congr {e e' : Exercise} {answer answer' : Json} (hkind : e.kind = e'.kind)
    (hevaluate : Grading.evaluate e answer = Grading.evaluate e' answer') :
    e.grade answer = e'.grade answer' := by
  rw [grade, grade, hkind, hevaluate]

end PropTutor
