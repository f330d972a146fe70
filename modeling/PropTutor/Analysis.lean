/-
  Everything that is shown about one formula.
-/
import PropTutor.Formula.Printer
import PropTutor.NormalForm.Passes
import PropTutor.Semantics.Entailment

namespace PropTutor

/-- A summary of one formula: its meaning, its shape, and its normal forms. -/
structure Analysis where
  formula : String
  classification : Classification
  names : List String
  modelCount : Nat
  rowCount : Nat
  depth : Nat
  connectiveCount : Nat
  nnf : String
  cnf : String
  dnf : String
  deriving DecidableEq

namespace Analysis

/-- The formula has a model. -/
def satisfiable (a : Analysis) : Bool := 0 < a.modelCount

/-- The summary of a formula. -/
def of (limit : Int) (f : Formula) : Except TableError Analysis := do
  let table ← f.table limit
  let results := table.results
  return {
    formula := f.text
    classification := .ofResults results
    names := table.names
    modelCount := results.count true
    rowCount := results.length
    depth := f.depth
    connectiveCount := f.connectiveCount
    nnf := f.toNNF.text
    cnf := f.toCNF.text
    dnf := f.toDNF.text }

end Analysis

end PropTutor
