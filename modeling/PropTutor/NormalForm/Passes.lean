/-
  The passes that bring a formula to a normal form.

  Three passes keep the meaning of a formula. The first removes implications and
  biconditionals, the second moves negations down to the atoms, the third distributes one
  connective over another. Negation normal form is defined directly, by one recursion with
  a flag that says whether the formula or its complement is wanted.
-/
import PropTutor.Formula.Basic

namespace PropTutor

/-- Why a pass does not apply. -/
inductive PassError where
  /-- Negations move past conjunctions and disjunctions only. -/
  | arrowLeft (c : Connective)
  deriving DecidableEq

/-- The wording of the error. -/
def PassError.message : PassError → String
  | arrowLeft c =>
      "push_negations_inward expects no " ++ c.name ++ "; run eliminate_implications first"

/-- Conjunction and disjunction change places under a negation. -/
def Connective.dual : Connective → Connective
  | and => or
  | or => and
  | c => c

/-- The connective is a conjunction or a disjunction. -/
def Connective.isBasic : Connective → Bool
  | and => true
  | or => true
  | _ => false

namespace Formula

/-- Remove implications and biconditionals: `A → B` becomes `¬A ∨ B`, and `A ↔ B` becomes
    `(¬A ∨ B) ∧ (¬B ∨ A)`. -/
def eliminateArrows : Formula → Formula
  | atom n => atom n
  | neg f => neg f.eliminateArrows
  | bin c l r =>
    let a := l.eliminateArrows
    let b := r.eliminateArrows
    match c with
    | .implies => disj (neg a) b
    | .iff => conj (disj (neg a) b) (disj (neg b) a)
    | c => bin c a b

/-- An atom, or its negation if the flag is not set. -/
def literal (positive : Bool) (n : String) : Formula := if positive then atom n else neg (atom n)

/-- Move negations down to the atoms in a formula, or in its complement if the flag is not
    set. The first implication or biconditional that is met is an error. -/
def pushedTo (positive : Bool) : Formula → Except PassError Formula
  | atom n => .ok (literal positive n)
  | neg f => f.pushedTo (!positive)
  | bin c l r =>
    if c.isBasic then do
      let a ← l.pushedTo positive
      let b ← r.pushedTo positive
      return bin (if positive then c else c.dual) a b
    else .error (.arrowLeft c)

/-- Move negations down to the atoms. -/
def pushNegations (f : Formula) : Except PassError Formula := f.pushedTo true

/-- The negation normal form of a formula, or of its complement if the flag is not set. -/
def nnf (positive : Bool) : Formula → Formula
  | atom n => literal positive n
  | neg f => f.nnf (!positive)
  | bin .implies l r =>
    if positive then disj (l.nnf false) (r.nnf true) else conj (l.nnf true) (r.nnf false)
  | bin .iff l r =>
    if positive then
      conj (disj (l.nnf false) (r.nnf true)) (disj (r.nnf false) (l.nnf true))
    else
      disj (conj (l.nnf true) (r.nnf false)) (conj (r.nnf true) (l.nnf false))
  | bin c l r => bin (if positive then c else c.dual) (l.nnf positive) (r.nnf positive)

/-- The negation normal form of a formula. -/
def toNNF (f : Formula) : Formula := f.nnf true

/-- `l` and `right` joined by `outer`, which is distributed over each `inner` at the top of
    `l`. -/
def spreadLeft (outer inner : Connective) (right : Formula) : Formula → Formula
  | bin c a b =>
    if c = inner then bin inner (spreadLeft outer inner right a) (spreadLeft outer inner right b)
    else bin outer (bin c a b) right
  | l => bin outer l right

/-- `left` and `r` joined by `outer`, which is distributed over each `inner` at the top of
    `r` first and at the top of `left` then. -/
def spread (outer inner : Connective) (left : Formula) : Formula → Formula
  | bin c a b =>
    if c = inner then bin inner (spread outer inner left a) (spread outer inner left b)
    else spreadLeft outer inner (bin c a b) left
  | r => spreadLeft outer inner r left

/-- Distribute `outer` over `inner`, operands first. What stands under a negation is left as
    it is. -/
def distribute (outer inner : Connective) : Formula → Formula
  | bin c l r =>
    let a := distribute outer inner l
    let b := distribute outer inner r
    if c = outer then spread outer inner a b else bin c a b
  | f => f

/-- Distribute disjunctions over conjunctions. -/
def distributeOr (f : Formula) : Formula := f.distribute .or .and

/-- Distribute conjunctions over disjunctions. -/
def distributeAnd (f : Formula) : Formula := f.distribute .and .or

/-- The conjunctive normal form: a conjunction of disjunctions of literals. -/
def toCNF (f : Formula) : Formula := f.toNNF.distributeOr

/-- The disjunctive normal form: a disjunction of conjunctions of literals. -/
def toDNF (f : Formula) : Formula := f.toNNF.distributeAnd

end Formula

end PropTutor
