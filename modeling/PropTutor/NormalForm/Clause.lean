/-
  The clauses of a formula: its conjunctive or disjunctive normal form as lists of
  literals.
-/
import PropTutor.NormalForm.Shape

namespace PropTutor

/-- An atom name, and whether it is negated. -/
structure Literal where
  name : String
  negated : Bool
  deriving DecidableEq

/-- The literals of a clause from left to right. -/
abbrev Clause := List Literal

namespace Formula

/-- The literal that a formula is, if it is one. -/
def literal? : Formula → Option Literal
  | atom n => some ⟨n, false⟩
  | neg (atom n) => some ⟨n, true⟩
  | _ => none

/-- The literals of a chain of `c`; an operand that is no literal is skipped. -/
def clause (c : Connective) (f : Formula) : Clause := (f.operands c).filterMap literal?

/-- The clauses of the conjunctive normal form: each is a disjunction of literals. -/
def cnfClauses (f : Formula) : List Clause := (f.toCNF.operands .and).map (clause .or)

/-- The terms of the disjunctive normal form: each is a conjunction of literals. -/
def dnfTerms (f : Formula) : List Clause := (f.toDNF.operands .or).map (clause .and)

end Formula

end PropTutor
