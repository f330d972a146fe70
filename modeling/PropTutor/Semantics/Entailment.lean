/-
  What a formula says over all assignments, read off its truth table.

  Equivalence and entailment of two formulas are validity of their biconditional and of
  their implication, so they range over the variables of both. Every answer fails if the
  table would be larger than the limit.
-/
import PropTutor.Semantics.TruthTable

namespace PropTutor

/-- The three kinds of formula: true everywhere, false everywhere, neither. -/
inductive Classification where
  | tautology
  | contradiction
  | contingent
  deriving DecidableEq

namespace Classification

/-- The name of a classification. -/
def name : Classification → String
  | tautology => "TAUTOLOGY"
  | contradiction => "CONTRADICTION"
  | contingent => "CONTINGENT"

/-- The classification of a formula with these results. -/
def ofResults (results : List Bool) : Classification :=
  if results.all id then tautology else if !results.any id then contradiction else contingent

end Classification

namespace Formula

/-- The truth table of a formula over its own variables. -/
def table (limit : Int) (f : Formula) : Except TableError TruthTable :=
  TruthTable.build limit f none

/-- The classification of a formula. -/
def classify (limit : Int) (f : Formula) : Except TableError Classification :=
  return .ofResults (← f.table limit).results

/-- The formula is true under every assignment. -/
def isTautology (limit : Int) (f : Formula) : Except TableError Bool :=
  return (← f.classify limit) == .tautology

/-- The formula is false under every assignment. -/
def isContradiction (limit : Int) (f : Formula) : Except TableError Bool :=
  return (← f.classify limit) == .contradiction

/-- The formula is true under some assignment. -/
def isSatisfiable (limit : Int) (f : Formula) : Except TableError Bool :=
  return (← f.table limit).results.any id

/-- The assignments under which the formula has the value `b`, in table order. -/
def assignmentsGiving (b : Bool) (limit : Int) (f : Formula) :
    Except TableError (List Assignment) :=
  return ((← f.table limit).rows.filter (·.result == b)).map (·.assignment)

/-- The assignments under which the formula is true, in table order. -/
def models : Int → Formula → Except TableError (List Assignment) := assignmentsGiving true

/-- The assignments under which the formula is false, in table order. -/
def counterModels : Int → Formula → Except TableError (List Assignment) :=
  assignmentsGiving false

/-- The two formulas have the same value under every assignment. -/
def isEquivalent (limit : Int) (f g : Formula) : Except TableError Bool :=
  (iff f g).isTautology limit

/-- Every assignment that makes the first formula true makes the second one true. -/
def entails (limit : Int) (f g : Formula) : Except TableError Bool :=
  (imp f g).isTautology limit

end Formula

end PropTutor
