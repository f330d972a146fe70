/-
  Grading an answer.

  Grading has a result in every case. Whatever goes wrong is logged once and reported as an
  answer that could not be graded, without score, explanation and details.
-/
import PropTutor.Grading.Cells
import PropTutor.Grading.Choices
import PropTutor.Grading.Derivation

namespace PropTutor

namespace Grading

/-- The result of an answer to an exercise; it may fail. -/
def evaluate (e : Exercise) (answer : Json) : Action GradingResult :=
  match e.task with
  | .equivalence content key => equivalence content key e.explanation answer
  | .multipleChoice content key => demand (multipleChoice content key e.explanation answer)
  | .symbolArrangement _ key => acceptedFormula key e.explanation answer
  | .formulation _ key => acceptedFormula key e.explanation answer
  | .validation _ key => demand (validation key e.explanation answer)
  | .truthTable content key => Action.ofExcept id (truthTable content key e.explanation answer)
  | .proof content key => derivation content key e.explanation answer
  | .normalForm content key => normalForm content key e.explanation answer
  | .identifyFallacy _ key => demand (fallacy key e.explanation answer)

/-- The kind of an exercise in log records; it may be unknown. -/
def kindText : Option ExerciseKind → String
  | none => "None"
  | some kind => "ExerciseType." ++ kind.name

/-- The log record of a failure. -/
def failureRecord (kind : Option ExerciseKind) : Failure → LogRecord
  | .diagnosed error =>
    ⟨.grading, .warning, "Grading failed (" ++ kindText kind ++ "): " ++ error.message⟩
  | _ => ⟨.grading, .warning, "Unexpected grading failure (" ++ kindText kind ++ ")"⟩

/-- The result of an answer that could not be graded. -/
def failed (e : Failure) : GradingResult :=
  .incorrect ("Could not grade this answer: " ++ e.message) none 0 .nothing

/-- Log a failure and report it as a result. -/
def recover (kind : Option ExerciseKind) (a : Action GradingResult) : Action GradingResult :=
  fun s =>
    match a s with
    | ⟨.ok r, events⟩ => ⟨.ok r, events⟩
    | ⟨.error e, events⟩ => ⟨.ok (failed e), events ++ [.logged (failureRecord kind e)]⟩

end Grading

/-- Grade an answer to an exercise. -/
def Exercise.grade (e : Exercise) (answer : Json) : Action GradingResult :=
  Grading.recover (some e.kind) do
    Action.log .grading .debug ("Grading " ++ e.kind.name ++ " submission")
    Grading.evaluate e answer

/-- Grade an answer to a stored exercise. -/
def gradeStored (exercise answer : Json) : Action GradingResult :=
  match Exercise.decode exercise with
  | .ok e => e.grade answer
  | .error error => Grading.recover none (Action.fail (.ofDecodeError error))

end PropTutor
