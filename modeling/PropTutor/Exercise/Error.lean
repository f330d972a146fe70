/-
  Why a stored exercise cannot be used, and why an answer cannot be graded.

  Both kinds of trouble are diagnosed in the same way and shown to the student in the same
  place, so one type holds them all.
-/
import PropTutor.Exercise.Basic
import PropTutor.Exercise.Field
import PropTutor.Json.Display
import PropTutor.Json.Reader
import PropTutor.Number.Integral
import PropTutor.Token.Basic

namespace PropTutor

/-- The parts of a stored exercise. -/
inductive ExercisePart where
  | content
  | solution
  deriving DecidableEq

/-- The name of a part. -/
def ExercisePart.name : ExercisePart → String
  | content => "content"
  | solution => "solution"

/-- What a formula of an exercise is for. -/
inductive FormulaRole where
  | target
  | premise
  | conclusion
  deriving DecidableEq

/-- The name of a role. -/
def FormulaRole.name : FormulaRole → String
  | target => "target formula"
  | premise => "premise"
  | conclusion => "conclusion"

/-- Why the cells of a truth table answer cannot be read. -/
inductive CellFault where
  | missingKey (key : String)
  /-- A cell is a value of this kind, which has no members. -/
  | noMembers (kind : String)
  | badRow (fault : IntegerFault)
  deriving DecidableEq

/-- The wording of a fault. -/
def CellFault.message : CellFault → String
  | missingKey key => Text.quoted key
  | noMembers "str" => "string indices must be integers, not 'str'"
  | noMembers "list" => "list indices must be integers or slices, not str"
  | noMembers kind => "'" ++ kind ++ "' object is not subscriptable"
  | badRow fault => fault.message

/-- Why a stored exercise cannot be used, or an answer to it cannot be graded. -/
inductive GradingError where
  | unknownKind (v : Json)
  | badJson (part : ExercisePart) (error : JsonError)
  | badRecord (kind : ExerciseKind) (count : Nat) (first : Issue)
  | notFormulaText
  | notTruthValue (v : Json)
  | notOptionIds (v : Json)
  | badFormula (role : FormulaRole) (text : String) (error : SyntaxError)
  | noTarget
  | noHiddenCells
  | badCells (fault : CellFault)
  | notCells
  | noCellValue (cell : Cell)
  | notSteps
  | notFallacyId (v : Json)

/-- The wording of an error. -/
def GradingError.message : GradingError → String
  | unknownKind v => "Unknown exercise type: " ++ v.display
  | badJson part error => "Exercise " ++ part.name ++ " is not valid JSON: " ++ error.message
  | badRecord kind count first =>
      "Invalid " ++ kind.name ++ " exercise: " ++ toString count ++ " schema error(s): "
        ++ first.message
  | notFormulaText => "Expected a formula as text"
  | notTruthValue v => "Expected a true/false answer, got " ++ v.display
  | notOptionIds v => "Expected option id(s), got " ++ v.display
  | badFormula role text error =>
      "Exercise " ++ role.name ++ " " ++ Text.quoted text ++ " is not a valid formula: "
        ++ error.message
  | noTarget => "Equivalence exercise has no target formula"
  | noHiddenCells => "Truth table exercise has no hidden cells"
  | badCells fault => "Malformed truth table answer: " ++ fault.message
  | notCells => "Expected truth table cells"
  | noCellValue cell =>
      "Solution has no value for row " ++ toString cell.row ++ ", column "
        ++ Text.quoted cell.column
  | notSteps => "Expected a list of proof steps"
  | notFallacyId v => "Expected a fallacy id, got " ++ v.display

end PropTutor
