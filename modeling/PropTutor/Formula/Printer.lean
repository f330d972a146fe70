/-
  The printed form of a formula.

  A binary connective stands between its operands with one space on each side, a
  negation directly before its operand. An operand that is itself binary is put in
  parentheses where its connective would otherwise not hold it together.
-/
import PropTutor.Formula.Basic

namespace PropTutor.Formula

/-- The text, in parentheses if the flag is set. -/
def bracket (brackets : Bool) (text : String) : String :=
  if brackets then "(" ++ text ++ ")" else text

/-- A left operand of `c` needs parentheses if its connective binds looser than `c`, or
    equally tight where `c` groups to the right. -/
def leftNeedsBrackets (c : Connective) : Formula → Bool
  | bin d _ _ => d.strength < c.strength || (d.strength == c.strength && c.groupsRight)
  | _ => false

/-- A right operand of `c` needs parentheses unless its connective binds tighter than
    `c`. An implication on the right of an implication keeps them too. -/
def rightNeedsBrackets (c : Connective) : Formula → Bool
  | bin d _ _ => d.strength ≤ c.strength
  | _ => false

/-- The printed form of a formula. -/
def text : Formula → String
  | atom n => n
  | neg f => negationSymbol ++ bracket f.isBinary f.text
  | bin c l r =>
      bracket (leftNeedsBrackets c l) l.text ++ (" " ++ c.symbol ++ " ")
        ++ bracket (rightNeedsBrackets c r) r.text

end PropTutor.Formula
