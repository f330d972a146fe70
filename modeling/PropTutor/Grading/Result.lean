/-
  Results of grading.

  The score is an exact number from zero to one; it is rounded only where it is written. The
  details depend on the kind of exercise.
-/
import PropTutor.Exercise.Basic
import PropTutor.Json.Basic
import PropTutor.Semantics.Assignment

namespace PropTutor

/-- How an answer agrees with an accepted formula. -/
inductive Match where
  /-- Same spelling. -/
  | exact
  /-- Same value under every assignment. -/
  | equivalent
  deriving DecidableEq

/-- The name of a match. -/
def Match.name : Match → String
  | exact => "exact"
  | equivalent => "equivalent"

/-- How many right and wrong options were selected, and how many are right. -/
structure ChoiceCounts where
  right : Nat
  wrong : Nat
  total : Nat
  deriving DecidableEq

/-- What was found about a derivation. -/
structure ProofReport where
  supported : Nat
  total : Nat
  /-- The numbers of the steps that do not follow, counted from one. -/
  unsupported : List Nat
  reachesConclusion : Bool
  withinLimit : Bool
  referenceSteps : Nat
  deriving DecidableEq

/-- What goes with a result. -/
inductive Details where
  | nothing
  | syntaxError (position : Nat) (token : String)
  | counterexample (a : Assignment)
  | choice (counts : Option ChoiceCounts) (remarks : List (String × String))
  | formula (found : Match)
  | normalForm (found : Option Match) (inForm : Bool)
  | cells (correct total : Nat) (wrong : List Cell)
  | proof (report : ProofReport)
  deriving DecidableEq

/-- The result of grading an answer. -/
structure GradingResult where
  isCorrect : Bool
  score : Rat
  feedback : String
  explanation : Option String
  details : Details

namespace GradingResult

/-- Full marks. -/
def correct (feedback : String) (explanation : Option String) (details : Details) :
    GradingResult :=
  ⟨true, 1, feedback, explanation, details⟩

/-- Not correct, with a score that may be partial. -/
def incorrect (feedback : String) (explanation : Option String) (score : Rat)
    (details : Details) : GradingResult :=
  ⟨false, score, feedback, explanation, details⟩

end GradingResult

/-! ## Written form -/

/-- An assignment as an object. -/
def Assignment.toJson (a : Assignment) : Json := .object (a.map fun (n, b) => (n, .bool b))

/-- The name of a cell: its row and its column with a hyphen between them. -/
def Cell.name (c : Cell) : String := toString c.row ++ "-" ++ c.column

namespace Details

/-- A number as JSON. -/
def count (n : Nat) : Json := .int n

/-- The members of the written details. -/
def members : Details → List (String × Json)
  | nothing => []
  | syntaxError position token => [("position", count position), ("token", .str token)]
  | counterexample a => [("counterexample", a.toJson)]
  | choice counts remarks =>
    let counted := match counts with
      | some c =>
        [("correctSelected", count c.right), ("incorrectSelected", count c.wrong),
          ("totalCorrect", count c.total)]
      | none => []
    let remarked :=
      if remarks.isEmpty then []
      else [("optionExplanations", Json.object (remarks.map fun (k, s) => (k, .str s)))]
    counted ++ remarked
  | formula found => [("match", .str found.name)]
  | normalForm found inForm =>
    (found.map fun m => ("match", Json.str m.name)).toList ++ [("inTargetForm", .bool inForm)]
  | cells correct total wrong =>
    [("correctCells", count correct), ("totalCells", count total),
      ("incorrectCells", .list (wrong.map fun c => .str c.name))]
  | proof r =>
    [("supportedSteps", count r.supported), ("totalSteps", count r.total),
      ("unsupportedSteps", .list (r.unsupported.map count)),
      ("reachesConclusion", .bool r.reachesConclusion),
      ("withinStepLimit", .bool r.withinLimit), ("referenceSteps", count r.referenceSteps)]

end Details

/-- The written form of a result. Explanation and details are left out where there are
    none. -/
def GradingResult.toJson (r : GradingResult) : Json :=
  let explanation := match r.explanation with
    | some s => [("explanation", Json.str s)]
    | none => []
  let details :=
    if r.details.members.isEmpty then [] else [("details", Json.object r.details.members)]
  .object ([("isCorrect", Json.bool r.isCorrect), ("score", .float (.ofRat r.score)),
    ("feedback", .str r.feedback)] ++ explanation ++ details)

end PropTutor
