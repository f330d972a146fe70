/-
  The clauses of a formula from the clauses of its parts.

  Distribution never looks at clauses: it splits the right operand of a join first and the left
  one then, and rebuilds a tree. Read off that tree, the clauses are the pairs of a clause of the
  left operand and a clause of the right one, in this order: the clauses of the right operand
  are outermost (`clausesBy_spread`). So the clauses of a formula can be computed from its
  negation normal form without any distribution (`clauses_are_cross_products`).
-/
import PropTutor.Proofs.NormalForm.Clauses

namespace PropTutor

/-- Each clause of `xs` with each clause of `ys` behind it, the clauses of `ys` outermost. -/
def Clause.cross (xs ys : List Clause) : List Clause := ys.flatMap fun y => xs.map (· ++ y)

theorem Clause.length_cross (xs ys : List Clause) :
    (cross xs ys).length = xs.length * ys.length := by
  induction ys with
  | nil => rfl
  | cons y ys ih =>
    have hcons : cross xs (y :: ys) = xs.map (· ++ y) ++ cross xs ys := List.flatMap_cons
    rw [hcons, List.length_append, List.length_map, ih, List.length_cons, Nat.mul_succ, Nat.add_comm]

namespace Formula

/-- The clauses of a negation normal form. A literal is one clause, `inner` puts the clauses of
    its operands one after another, and the other connective crosses them. -/
def crossClauses (inner : Connective) : Formula → List Clause
  | bin c l r =>
    if c = inner then l.crossClauses inner ++ r.crossClauses inner
    else Clause.cross (l.crossClauses inner) (r.crossClauses inner)
  | f => [f.literals]

variable {inner : Connective}

/-! ## Distribution, read clause by clause -/

/-- A join of two operands that are not split is one clause. -/
theorem clausesBy_join (hi : inner.isBasic = true) (l r : Formula) :
    (bin inner.dual l r).clausesBy inner = [l.clause inner.dual ++ r.clause inner.dual] := by
  have hne : inner.dual ≠ inner := (Connective.ne_dual hi).symm
  rw [clausesBy_of_rootIs (rootIs_bin_of_ne hne l r), clause_bin, if_pos rfl]

/-- Where the right operand is one clause, it stands behind each clause of the left one. -/
theorem clausesBy_spreadLeft (hi : inner.isBasic = true) (l r : Formula) :
    (spreadLeft inner.dual inner r l).clausesBy inner =
      (l.clausesBy inner).map (· ++ r.clause inner.dual) := by
  induction l with
  | atom n => exact clausesBy_join hi _ r
  | neg f _ => exact clausesBy_join hi _ r
  | bin c a b iha ihb =>
    rw [spreadLeft]
    split
    · next hc => rw [clausesBy_bin, iha, ihb, hc, clausesBy_bin, List.map_append]
    · next hc =>
      rw [clausesBy_join hi, clausesBy_of_rootIs (rootIs_bin_of_ne hc a b), List.map_singleton]

/-- A join distributed over its operands has the cross product of their clauses. -/
theorem clausesBy_spread (hi : inner.isBasic = true) (l r : Formula) :
    (spread inner.dual inner l r).clausesBy inner =
      Clause.cross (l.clausesBy inner) (r.clausesBy inner) := by
  have single {r : Formula} (hr : r.rootIs inner = false) :
      (spread inner.dual inner l r).clausesBy inner =
        Clause.cross (l.clausesBy inner) (r.clausesBy inner) := by
    rw [spread_of_rootIs l hr, clausesBy_spreadLeft hi, clausesBy_of_rootIs hr, Clause.cross,
      List.flatMap_singleton]
  induction r with
  | atom n => exact single rfl
  | neg f _ => exact single rfl
  | bin c a b iha ihb =>
    by_cases hc : c = inner
    · rw [spread, if_pos hc, clausesBy_bin, iha, ihb, hc, clausesBy_bin, Clause.cross,
        Clause.cross, Clause.cross, List.flatMap_append]
    · exact single (rootIs_bin_of_ne hc a b)

@[simp]
theorem crossClauses_literal (inner : Connective) (positive : Bool) (n : String) :
    (literal positive n).crossClauses inner = [[⟨n, !positive⟩]] := by
  cases positive <;> rfl

/-- One sweep of the distribution makes the cross products at all joins. -/
theorem clausesBy_distribute (hi : inner.isBasic = true) {f : Formula} (h : f.isNNF = true) :
    (f.distribute inner.dual inner).clausesBy inner = f.crossClauses inner := by
  induction h using nnf_induction with
  | literal positive n =>
    rw [crossClauses_literal]
    cases positive <;> rfl
  | bin c l r hc _ _ ihl ihr =>
    rw [distribute, crossClauses]
    rcases Connective.eq_or_eq_dual hc hi with rfl | rfl
    · rw [if_neg (Connective.ne_dual hi), if_pos rfl, clausesBy_bin, ihl, ihr]
    · rw [if_pos rfl, if_neg (Connective.ne_dual hi).symm, clausesBy_spread hi, ihl, ihr]

theorem cnfClauses_eq_crossClauses (f : Formula) : f.cnfClauses = f.toNNF.crossClauses .and :=
  @clausesBy_distribute .and rfl _ (isNNF_nnf f true)

theorem dnfTerms_eq_crossClauses (f : Formula) : f.dnfTerms = f.toNNF.crossClauses .or :=
  @clausesBy_distribute .or rfl _ (isNNF_nnf f true)

end Formula

/-- The clauses of a formula are those that its negation normal form gives by crossing, clause
    for clause and literal for literal, and so are its terms with conjunction and disjunction
    exchanged. So a disjunction has as many clauses as its operands have pairs of clauses, and a
    conjunction as many terms. -/
theorem clauses_are_cross_products :
    (∀ f : Formula, f.cnfClauses = f.toNNF.crossClauses .and ∧
      f.dnfTerms = f.toNNF.crossClauses .or) ∧
    ∀ f g : Formula,
      (f.disj g).cnfClauses.length = f.cnfClauses.length * g.cnfClauses.length ∧
      (f.conj g).dnfTerms.length = f.dnfTerms.length * g.dnfTerms.length := by
  refine ⟨fun f => ⟨f.cnfClauses_eq_crossClauses, f.dnfTerms_eq_crossClauses⟩, fun f g => ⟨?_, ?_⟩⟩
  · simp only [Formula.cnfClauses_eq_crossClauses]
    exact Clause.length_cross (f.toNNF.crossClauses .and) (g.toNNF.crossClauses .and)
  · simp only [Formula.dnfTerms_eq_crossClauses]
    exact Clause.length_cross (f.toNNF.crossClauses .or) (g.toNNF.crossClauses .or)

/-- `(P ∧ Q) ∨ (R ∧ ¬S)`: the clauses with `R` come before those with `¬S`. -/
example : (Formula.disj (.conj (.atom "P") (.atom "Q"))
      (.conj (.atom "R") (.neg (.atom "S")))).cnfClauses =
    [[⟨"P", false⟩, ⟨"R", false⟩], [⟨"Q", false⟩, ⟨"R", false⟩],
      [⟨"P", false⟩, ⟨"S", true⟩], [⟨"Q", false⟩, ⟨"S", true⟩]] := by
  decide

end PropTutor
