/-
  Grading truth tables: the hidden cells are compared one by one with the values of the key. A key
  can be made from the text of a formula.
-/
import PropTutor.Formula.Parser
import PropTutor.Grading.Answer
import PropTutor.Grading.Result

namespace PropTutor

/-- The key with the columns of the table of a formula that is given as a text. -/
def TableKey.ofText (text : String) : Except SyntaxError (Action TableKey) := do
  let f ← Formula.parse text
  return do return ⟨(← TruthTable.action f none).valueColumns⟩

namespace Grading

/-- The value of the key at a cell. -/
def keyValue (key : TableKey) (cell : Cell) : Except GradingError Bool :=
  match (key.values.lookup cell.column).bind (·[cell.row.toNat]?) with
  | some b => .ok b
  | none => .error (.noCellValue cell)

/-- The truth value that was filled in at a cell, if there is one. -/
def submittedValue? (cells : Answer.Cells) (cell : Cell) : Option Bool :=
  (cells.lookup cell).bind fun v => (Answer.truth v).toOption

/-- The hidden cells that are not filled in as the key says. -/
def wrongCells (key : TableKey) (submitted : Answer.Cells) (hidden : List Cell) :
    Except GradingError (List Cell) := do
  let checked ← hidden.mapM fun cell => do
    return (cell, submittedValue? submitted cell == some (← keyValue key cell))
  return (checked.filter (!·.2)).map (·.1)

/-- The failure of reading cells. -/
def cellsFailure : Answer.CellsError → Failure
  | .diagnosed error => .diagnosed error
  | .infiniteRow => .infiniteRow

/-- Grade the hidden cells of a truth table. -/
def truthTable (content : TableContent) (key : TableKey) (explanation : Option String)
    (answer : Json) : Except Failure GradingResult := do
  let hidden := content.hidden
  if hidden.isEmpty then throw (.diagnosed .noHiddenCells)
  let submitted ← (Answer.cells answer).mapError cellsFailure
  let wrong ← (wrongCells key submitted hidden).mapError .diagnosed
  let total := hidden.length
  let right := total - wrong.length
  let details := Details.cells right total wrong
  if wrong.isEmpty then return .correct "Correct! Every cell is right." explanation details
  else
    return .incorrect (toString right ++ " of " ++ toString total ++ " cells are correct.")
      explanation ((right : Rat) / total) details

end Grading

end PropTutor
