/-
  Exercises.

  An exercise has the content that a student sees and the key that answers are held
  against; the shapes of both depend on its kind. An explanation may go with it.
-/
import PropTutor.Exercise.Kind
import PropTutor.NormalForm.Shape

namespace PropTutor

/-- The target of an equivalence exercise; it may stand in the content or in the key. -/
structure EquivalenceTarget where
  target : Option String
  deriving DecidableEq

/-- One option of a multiple choice. -/
structure ChoiceOption where
  id : String
  text : String
  isFormula : Bool
  deriving DecidableEq

/-- The content of a multiple choice. -/
structure ChoiceContent where
  question : String
  options : List ChoiceOption
  allowMultiple : Bool
  randomizeOrder : Bool
  deriving DecidableEq

/-- The key of a multiple choice: the right options, and remarks on options. -/
structure ChoiceKey where
  correctIds : List String
  remarks : List (String × String)
  deriving DecidableEq

/-- A symbol that may be placed, and how often. -/
structure AvailableSymbol where
  id : String
  symbol : String
  count : Int
  deriving DecidableEq

/-- The content of a symbol arrangement. -/
structure ArrangementContent where
  instruction : String
  symbols : List AvailableSymbol
  goal : Option String
  deriving DecidableEq

/-- The key of the exercises that ask for a formula: the formulas that are accepted. -/
structure AcceptedFormulas where
  formulas : List String
  deriving DecidableEq

/-- The content of a formulation. -/
structure FormulationContent where
  statement : String
  meanings : List (String × String)
  hint : Option String
  deriving DecidableEq

/-- The content of an argument validation. -/
structure ArgumentContent where
  premises : List String
  conclusion : String
  inWords : Option String
  deriving DecidableEq

/-- The key of an argument validation. -/
structure ValidityKey where
  isValid : Bool
  explanation : String
  counterexample : Option (List (String × Bool))
  deriving DecidableEq

/-- A cell of a truth table: a row, and a variable or `result`. -/
structure Cell where
  row : Int
  column : String
  deriving DecidableEq

/-- The content of a truth table exercise. -/
structure TableContent where
  formula : String
  hidden : List Cell
  showIntermediate : Bool
  deriving DecidableEq

/-- The key of a truth table exercise: the values of each column, row by row. -/
structure TableKey where
  values : List (String × List Bool)
  deriving DecidableEq

/-- The content of a normal form exercise. -/
structure NormalFormContent where
  formula : String
  form : NormalForm
  deriving DecidableEq

/-- One step of a derivation. -/
structure ProofStep where
  formula : String
  justification : String
  lineRefs : List Int
  deriving DecidableEq

/-- The content of a proof exercise. -/
structure ProofContent where
  premises : List String
  conclusion : String
  allowedRules : List String
  maxSteps : Option Int
  deriving DecidableEq

/-- The key of a proof exercise: a derivation to show, which no answer is held against. -/
structure ProofKey where
  steps : List ProofStep
  deriving DecidableEq

/-- A fallacy to choose from. -/
structure FallacyOption where
  id : String
  name : String
  description : String
  deriving DecidableEq

/-- The content of a fallacy exercise. -/
structure FallacyContent where
  argument : String
  options : List FallacyOption
  deriving DecidableEq

/-- The key of a fallacy exercise. -/
structure FallacyKey where
  correctId : String
  explanation : String
  deriving DecidableEq

/-- The content and the key of an exercise. -/
inductive Task where
  | equivalence (content key : EquivalenceTarget)
  | multipleChoice (content : ChoiceContent) (key : ChoiceKey)
  | symbolArrangement (content : ArrangementContent) (key : AcceptedFormulas)
  | formulation (content : FormulationContent) (key : AcceptedFormulas)
  | validation (content : ArgumentContent) (key : ValidityKey)
  | truthTable (content : TableContent) (key : TableKey)
  | proof (content : ProofContent) (key : ProofKey)
  | normalForm (content : NormalFormContent) (key : AcceptedFormulas)
  | identifyFallacy (content : FallacyContent) (key : FallacyKey)
  deriving DecidableEq

/-- The kind of a task. -/
def Task.kind : Task → ExerciseKind
  | equivalence .. => .equivalence
  | multipleChoice .. => .multipleChoice
  | symbolArrangement .. => .symbolArrangement
  | formulation .. => .formulation
  | validation .. => .validation
  | truthTable .. => .truthTable
  | proof .. => .proof
  | normalForm .. => .normalForm
  | identifyFallacy .. => .identifyFallacy

/-- An exercise. -/
structure Exercise where
  task : Task
  explanation : Option String
  deriving DecidableEq

/-- The kind of an exercise. -/
def Exercise.kind (e : Exercise) : ExerciseKind := e.task.kind

end PropTutor
