/-
  Two formulas side by side.
-/
import PropTutor.Semantics.Entailment

namespace PropTutor

/-- The verdict on two formulas, with assignments on which they differ. -/
structure Comparison where
  equivalent : Bool
  leftImpliesRight : Bool
  rightImpliesLeft : Bool
  names : List String
  counterexamples : List Assignment
  deriving DecidableEq

/-- The first `n` items of a list; a negative number counts the items to leave out at the
    end. -/
def takeSigned {α : Type} (n : Int) (xs : List α) : List α :=
  if n < 0 then xs.take (xs.length - n.natAbs) else xs.take n.toNat

/-- Compare two formulas and show the first `shown` assignments on which they differ. -/
def Comparison.of (limit shown : Int) (f g : Formula) : Except TableError Comparison := do
  let differences ← (Formula.iff f g).counterModels limit
  return {
    equivalent := differences.isEmpty
    leftImpliesRight := ← f.entails limit g
    rightImpliesLeft := ← g.entails limit f
    names := sortNames (f.atoms ++ g.atoms)
    counterexamples := takeSigned shown differences }

end PropTutor
