/-
  Formulas of propositional logic: atoms, negation and four binary connectives.

  A formula is a finite tree, so equality of formulas is equality of trees. The
  strength of a connective and the side on which it groups are stated here once;
  the printer and the parser both read them.
-/
namespace PropTutor

/-- The binary connectives. -/
inductive Connective where
  | and
  | or
  | implies
  | iff
  deriving DecidableEq, Inhabited

namespace Connective

/-- How tightly a connective binds; the greater number binds tighter. -/
def strength : Connective → Nat
  | iff => 1
  | implies => 2
  | or => 3
  | and => 4

/-- Only the implication groups to the right: `P → Q → R` is `P → (Q → R)`. -/
def groupsRight : Connective → Bool
  | implies => true
  | _ => false

/-- The name a connective has in messages. -/
def name : Connective → String
  | and => "AND"
  | or => "OR"
  | implies => "IMPLIES"
  | iff => "IFF"

/-- The sign a connective is printed with. -/
def symbol : Connective → String
  | and => "∧"
  | or => "∨"
  | implies => "→"
  | iff => "↔"

/-- The truth function of a connective. -/
def holds : Connective → Bool → Bool → Bool
  | and, a, b => a && b
  | or, a, b => a || b
  | implies, a, b => !a || b
  | iff, a, b => a == b

end Connective

/-- The sign a negation is printed with. -/
def negationSymbol : String := "¬"

/-- A formula of propositional logic. -/
inductive Formula where
  | atom (name : String)
  | neg (operand : Formula)
  | bin (connective : Connective) (left right : Formula)
  deriving DecidableEq, Inhabited

namespace Formula

/-- `f ∧ g`. -/
abbrev conj (f g : Formula) : Formula := bin .and f g

/-- `f ∨ g`. -/
abbrev disj (f g : Formula) : Formula := bin .or f g

/-- `f → g`. -/
abbrev imp (f g : Formula) : Formula := bin .implies f g

/-- `f ↔ g`. -/
abbrev iff (f g : Formula) : Formula := bin .iff f g

/-- The atom names of a formula from left to right, repetitions kept. -/
def atoms : Formula → List String
  | atom n => [n]
  | neg f => f.atoms
  | bin _ l r => l.atoms ++ r.atoms

/-- The number of edges on the longest way from the root to an atom. -/
def depth : Formula → Nat
  | atom _ => 0
  | neg f => 1 + f.depth
  | bin _ l r => 1 + max l.depth r.depth

/-- The number of negations and binary connectives. -/
def connectiveCount : Formula → Nat
  | atom _ => 0
  | neg f => 1 + f.connectiveCount
  | bin _ l r => 1 + l.connectiveCount + r.connectiveCount

/-- Every node of a formula, a node before its operands and the left operand before the
    right one; repeated shapes are kept. -/
def subformulas : Formula → List Formula
  | atom n => [atom n]
  | neg f => neg f :: f.subformulas
  | bin c l r => bin c l r :: (l.subformulas ++ r.subformulas)

/-- The root of the formula is a binary connective. -/
def isBinary : Formula → Bool
  | bin .. => true
  | _ => false

end Formula

end PropTutor
