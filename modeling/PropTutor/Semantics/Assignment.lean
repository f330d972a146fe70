/-
  Assignments, and the value of a formula under one.

  An assignment gives finitely many names a truth value; every other name is false. The
  value of a formula is defined for any function from names to truth values, so that what
  is said about formulas does not depend on how an assignment is stored; only the values of
  its own atoms matter (`Formula.eval_congr`).
-/
import PropTutor.Formula.Basic
import PropTutor.Keyed

namespace PropTutor

/-- Names with truth values, in the order in which they are shown. -/
abbrev Assignment := List (String × Bool)

/-- The value of a name; a name that is not there is false. -/
def Assignment.value (a : Assignment) (name : String) : Bool := (a.lookup name).getD false

/-- The value of a formula when its atoms have the values `v`. -/
def Formula.eval (v : String → Bool) : Formula → Bool
  | atom n => v n
  | neg f => !f.eval v
  | bin c l r => c.holds (l.eval v) (r.eval v)

/-- The value of a formula depends on the values of its own atoms only. -/
theorem Formula.eval_congr {v w : String → Bool} {f : Formula}
    (h : ∀ n ∈ f.atoms, v n = w n) : f.eval v = f.eval w := by
  induction f with
  | atom n => exact h n (List.mem_singleton.2 rfl)
  | neg f ih => rw [eval, eval, ih h]
  | bin c l r ihl ihr =>
    rw [eval, eval, ihl fun n hn => h n (List.mem_append_left _ hn),
      ihr fun n hn => h n (List.mem_append_right _ hn)]

/-- Over `n` names there are `2 ^ n` rows, one for each assignment. -/
def rowCount (n : Nat) : Nat := Nat.pow 2 n

/-- The values of `n` names in the row with this index. The first name has the weight
    `2 ^ (n - 1)`, and a name is true where the bit of its weight in the index is zero. An
    index outside `0 … 2 ^ n - 1` counts modulo `2 ^ n`. -/
def rowValues : (n : Nat) → (index : Int) → List Bool
  | 0, _ => []
  | n + 1, index => (index / rowCount n % 2 == 0) :: rowValues n index

theorem length_rowValues (n : Nat) (index : Int) : (rowValues n index).length = n := by
  induction n with
  | zero => rfl
  | succ n ih => rw [rowValues, List.length_cons, ih]

/-- The assignment in the row with this index of a table over these names. Of a name that is
    repeated the last value stands, in the place of the first. -/
def Assignment.ofRow (names : List String) (index : Int) : Assignment :=
  dedupKeys (names.zip (rowValues names.length index))

end PropTutor
