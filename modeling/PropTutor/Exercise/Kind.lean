/-
  The kinds of exercise, and what is listed about each.
-/
namespace PropTutor

/-- The kinds of exercise. -/
inductive ExerciseKind where
  /-- Write a formula equivalent to a given one. -/
  | equivalence
  | multipleChoice
  /-- Build a formula from given symbols. -/
  | symbolArrangement
  /-- Turn a sentence into a formula. -/
  | formulation
  /-- Tell whether an argument is valid. -/
  | validation
  /-- Fill in hidden cells of a truth table. -/
  | truthTable
  | proof
  /-- Bring a formula to a normal form. -/
  | normalForm
  | identifyFallacy
  deriving DecidableEq, Inhabited

/-- How hard a kind of exercise is. -/
inductive Difficulty where
  | easy
  | medium
  | hard
  deriving DecidableEq

/-- The name of a difficulty. -/
def Difficulty.name : Difficulty → String
  | easy => "EASY"
  | medium => "MEDIUM"
  | hard => "HARD"

/-- What is listed about a kind of exercise. -/
structure ExerciseInfo where
  title : String
  description : String
  difficulty : Difficulty
  interactive : Bool
  /-- A score between zero and one can be earned. -/
  partialCredit : Bool

namespace ExerciseKind

/-- The kinds in the order in which they are listed. -/
def all : List ExerciseKind := [
  equivalence, multipleChoice, symbolArrangement, formulation, validation, truthTable, proof,
  normalForm, identifyFallacy]

/-- The name of a kind. -/
def name : ExerciseKind → String
  | equivalence => "EQUIVALENCE"
  | multipleChoice => "MULTIPLE_CHOICE"
  | symbolArrangement => "SYMBOL_ARRANGEMENT"
  | formulation => "FORMULATION"
  | validation => "VALIDATION"
  | truthTable => "TRUTH_TABLE"
  | proof => "PROOF"
  | normalForm => "NORMAL_FORM"
  | identifyFallacy => "IDENTIFY_FALLACY"

/-- The kind with this name. -/
def ofName? (s : String) : Option ExerciseKind := all.find? (·.name == s)

theorem ofName?_name (k : ExerciseKind) : ofName? k.name = some k := by
  cases k <;> decide

/-- What is listed about a kind. -/
def info : ExerciseKind → ExerciseInfo
  | equivalence =>
    ⟨"Logical Equivalence", "Write a formula logically equivalent to the given one.",
      .medium, false, false⟩
  | multipleChoice =>
    ⟨"Multiple Choice", "Select the correct answer among the options.", .easy, false, true⟩
  | symbolArrangement =>
    ⟨"Symbol Arrangement", "Arrange the symbols to build a well-formed formula.",
      .medium, true, false⟩
  | formulation =>
    ⟨"Formulation", "Translate the natural-language statement into formal logic.",
      .hard, false, true⟩
  | validation =>
    ⟨"Argument Validation", "Decide whether the argument is logically valid.",
      .hard, false, true⟩
  | truthTable =>
    ⟨"Truth Table", "Fill in the missing cells of the truth table.", .medium, true, true⟩
  | proof =>
    ⟨"Proof Construction", "Build a step-by-step derivation of the conclusion.",
      .hard, true, true⟩
  | normalForm =>
    ⟨"Normal Form Conversion", "Convert the formula to the requested normal form (CNF/DNF/NNF).",
      .medium, false, false⟩
  | identifyFallacy =>
    ⟨"Identify Fallacy", "Identify which logical fallacy the argument commits.",
      .medium, false, false⟩

/-- The kinds of this difficulty. -/
def ofDifficulty (difficulty : String) : List ExerciseKind :=
  all.filter fun k => k.info.difficulty.name == difficulty

end ExerciseKind

end PropTutor
