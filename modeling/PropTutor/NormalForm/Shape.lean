/-
  The three normal forms, and the shapes that belong to them.
-/
import PropTutor.NormalForm.Passes

namespace PropTutor

/-- The normal forms. -/
inductive NormalForm where
  | nnf
  | cnf
  | dnf
  deriving DecidableEq, Inhabited

namespace NormalForm

/-- The normal forms in the order in which they are listed. -/
def all : List NormalForm := [nnf, cnf, dnf]

/-- The name of a normal form. -/
def name : NormalForm → String
  | nnf => "NNF"
  | cnf => "CNF"
  | dnf => "DNF"

/-- The normal form with this name. -/
def ofName? (s : String) : Option NormalForm := all.find? (·.name == s)

theorem ofName?_name (form : NormalForm) : ofName? form.name = some form := by
  cases form <;> decide

end NormalForm

namespace Formula

/-- The formula in a normal form. -/
def convert (form : NormalForm) (f : Formula) : Formula :=
  match form with
  | .nnf => f.toNNF
  | .cnf => f.toCNF
  | .dnf => f.toDNF

/-- An atom or the negation of an atom. -/
def isLiteral : Formula → Bool
  | atom _ => true
  | neg (atom _) => true
  | _ => false

/-- Conjunctions and disjunctions of literals. -/
def isNNF : Formula → Bool
  | bin c l r => c.isBasic && l.isNNF && r.isNNF
  | f => f.isLiteral

/-- A literal, or literals joined by `c` alone. -/
def isFlat (c : Connective) : Formula → Bool
  | bin d l r => d == c && l.isFlat c && r.isFlat c
  | f => f.isLiteral

/-- The operands of a chain of `c` from left to right; a formula that is no such chain is
    its only operand. -/
def operands (c : Connective) : Formula → List Formula
  | bin d l r => if d = c then l.operands c ++ r.operands c else [bin d l r]
  | f => [f]

/-- A conjunction of disjunctions of literals. -/
def isCNF (f : Formula) : Bool := (f.operands .and).all (isFlat .or)

/-- A disjunction of conjunctions of literals. -/
def isDNF (f : Formula) : Bool := (f.operands .or).all (isFlat .and)

/-- The formula has the shape of a normal form. -/
def isInForm (form : NormalForm) (f : Formula) : Bool :=
  match form with
  | .nnf => f.isNNF
  | .cnf => f.isCNF
  | .dnf => f.isDNF

end Formula

end PropTutor
