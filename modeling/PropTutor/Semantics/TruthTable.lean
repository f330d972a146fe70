/-
  Truth tables.

  The columns of a table are names in increasing order; its rows run from the assignment
  that makes every name true down to the one that makes every name false, the first name
  changing last. A table over more names than the limit is refused before any row is
  built, since the rows double with each name.
-/
import PropTutor.Formula.Names
import PropTutor.Semantics.Assignment
import PropTutor.Text.Quoted

namespace PropTutor

/-- One row: an assignment and the value of the formula under it. -/
structure TruthTable.Row where
  assignment : Assignment
  result : Bool
  deriving DecidableEq

/-- A truth table. -/
structure TruthTable where
  names : List String
  rows : List TruthTable.Row
  deriving DecidableEq

/-- Why there is no table. -/
inductive TableError where
  /-- These variables of the formula have no column. -/
  | missingColumns (names : List String)
  /-- There are more columns than the limit. -/
  | tooLarge (count : Nat) (limit : Int)
  deriving DecidableEq

namespace TableError

/-- The wording of the error. -/
def message : TableError → String
  | missingColumns names =>
      "Variables missing from column set: [" ++ ", ".intercalate (names.map Text.quoted) ++ "]"
  | tooLarge count limit =>
      "Formula has " ++ toString count ++ " variables; truth tables are limited to "
        ++ toString limit

end TableError

namespace TruthTable

/-- The results of a table from the first row to the last. -/
def results (t : TruthTable) : List Bool := t.rows.map Row.result

/-- The columns of a table for a formula: its own variables, or the given names, which have
    to include them. -/
def columns (f : Formula) : Option (List String) → Except TableError (List String)
  | none => .ok f.vars
  | some names =>
    let sorted := sortNames names
    let missing := f.vars.filter fun n => !sorted.contains n
    if missing.isEmpty then .ok sorted else .error (.missingColumns missing)

/-- The row with this index of the table over `names`. -/
def row (f : Formula) (names : List String) (index : Nat) : Row :=
  let a := Assignment.ofRow names index
  ⟨a, f.eval a.value⟩

/-- The table over `names`, if there are not more of them than the limit. -/
def tabulate (limit : Int) (f : Formula) (names : List String) : Except TableError TruthTable :=
  if limit < names.length then .error (.tooLarge names.length limit)
  else .ok ⟨names, (List.range (rowCount names.length)).map (row f names)⟩

/-- The table of a formula, over its own variables or over the given names. -/
def build (limit : Int) (f : Formula) (names : Option (List String)) :
    Except TableError TruthTable := do
  tabulate limit f (← columns f names)

/-- The values of every variable and of the formula, row by row; a variable named `result`
    gives way to the formula's own values. -/
def valueColumns (t : TruthTable) : List (String × List Bool) :=
  putKey "result" t.results
    (t.names.map fun n => (n, t.rows.map fun r => r.assignment.value n))

end TruthTable

end PropTutor
