/-
  The normal forms of a formula and of its negation.

  The complement of a negation normal form is its mirror image: every literal has the other
  sign, and conjunctions and disjunctions have changed places (`Formula.flip`). Each stage of a
  conversion commutes with this mirror: moving the negations (`nnf_not`), distributing one
  connective over the other (`flip_distribute`), and reading off the clauses (`clausesBy_flip`).
  So the two ways to a normal form are duals of each other, tree for tree and literal for literal
  (`negation_converts_to_mirror_image`).
-/
import PropTutor.Proofs.NormalForm.Clauses

namespace PropTutor

namespace Connective

@[simp]
theorem dual_dual (c : Connective) : c.dual.dual = c := by
  cases c <;> rfl

@[simp]
theorem dual_inj {c d : Connective} : c.dual = d.dual ↔ c = d := by
  constructor
  · intro h
    rw [← dual_dual c, h, dual_dual]
  · intro h
    rw [h]

/-- A connective that the flag turns into its dual is turned back by the dual. -/
theorem signed_not (c : Connective) (positive : Bool) :
    (if !positive then c else c.dual) = (if positive then c else c.dual).dual := by
  cases positive
  · exact (dual_dual c).symm
  · rfl

end Connective

namespace Formula

/-- The mirror image of a negation normal form: every literal is turned into its complement, and
    conjunctions and disjunctions change places. The shape of the tree stays. -/
def flip : Formula → Formula
  | atom n => neg (atom n)
  | neg f => f
  | bin c l r => bin c.dual l.flip r.flip

@[simp]
theorem flip_literal (positive : Bool) (n : String) :
    (literal positive n).flip = literal (!positive) n := by
  cases positive <;> rfl

/-! ## Moving negations -/

/-- The form of the complement is the mirror image of the form. -/
theorem nnf_not (f : Formula) (positive : Bool) : f.nnf (!positive) = (f.nnf positive).flip := by
  induction f generalizing positive with
  | atom n => exact (flip_literal positive n).symm
  | neg f ih => exact ih (!positive)
  | bin c l r ihl ihr =>
    cases c with
    | and => simp only [nnf, flip, Connective.signed_not, ihl, ihr]
    | or => simp only [nnf, flip, Connective.signed_not, ihl, ihr]
    | implies =>
      cases positive with
      | true => exact congrArg₂ conj (ihl false) (ihr true)
      | false => exact congrArg₂ disj (ihl true) (ihr false)
    | iff =>
      cases positive with
      | true =>
        have forth := congrArg₂ conj (ihl false) (ihr true)
        have back := congrArg₂ conj (ihr false) (ihl true)
        exact congrArg₂ disj forth back
      | false =>
        have forth := congrArg₂ disj (ihl true) (ihr false)
        have back := congrArg₂ disj (ihr true) (ihl false)
        exact congrArg₂ conj forth back

/-! ## Distribution -/

variable {outer inner : Connective}

theorem flip_spreadLeft {l : Formula} (hl : l.isNNF = true) (r : Formula) :
    (spreadLeft outer inner r l).flip = spreadLeft outer.dual inner.dual r.flip l.flip := by
  induction hl using nnf_induction with
  | literal positive n => cases positive <;> rfl
  | bin c a b _ _ _ iha ihb =>
    simp only [flip, spreadLeft, Connective.dual_inj]
    split
    · rw [flip, iha, ihb]
    · rfl

theorem flip_spread {l r : Formula} (hl : l.isNNF = true) (hr : r.isNNF = true) :
    (spread outer inner l r).flip = spread outer.dual inner.dual l.flip r.flip := by
  induction hr using nnf_induction with
  | literal positive n => cases positive <;> exact flip_spreadLeft hl _
  | bin c a b _ _ _ iha ihb =>
    simp only [flip, spread, Connective.dual_inj]
    split
    · rw [flip, iha, ihb]
    · exact flip_spreadLeft hl (bin c a b)

/-- The mirror image of a distribution is the distribution of the duals in the mirror image. -/
theorem flip_distribute (ho : outer.isBasic = true) (hi : inner.isBasic = true) {f : Formula}
    (h : f.isNNF = true) :
    (f.distribute outer inner).flip = f.flip.distribute outer.dual inner.dual := by
  induction h using nnf_induction with
  | literal positive n => cases positive <;> rfl
  | bin c l r _ hl hr ihl ihr =>
    simp only [flip, distribute, Connective.dual_inj]
    split
    · have hleft := isNNF_distribute ho hi hl
      have hright := isNNF_distribute ho hi hr
      rw [flip_spread hleft hright, ihl, ihr]
    · rw [flip, ihl, ihr]

/-! ## Clauses -/

theorem clause_flip (c : Connective) {f : Formula} (h : f.isNNF = true) :
    f.flip.clause c.dual = (f.clause c).map Literal.complement := by
  induction h using nnf_induction with
  | literal positive n => cases positive <;> rfl
  | bin d l r _ _ _ ihl ihr =>
    simp only [flip, clause_bin, Connective.dual_inj]
    split
    · rw [ihl, ihr, List.map_append]
    · rfl

theorem clausesBy_flip (inner : Connective) {f : Formula} (h : f.isNNF = true) :
    f.flip.clausesBy inner.dual = (f.clausesBy inner).map (List.map Literal.complement) := by
  induction h using nnf_induction with
  | literal positive n => cases positive <;> rfl
  | bin d l r hd hl hr ihl ihr =>
    by_cases hdi : d = inner
    · rw [hdi, flip, clausesBy_bin, clausesBy_bin, ihl, ihr, List.map_append]
    · have hflip : (bin d l r).flip.rootIs inner.dual = false :=
        rootIs_bin_of_ne (hdi ∘ Connective.dual_inj.1) l.flip r.flip
      rw [clausesBy_of_rootIs hflip, clausesBy_of_rootIs (rootIs_bin_of_ne hdi l r),
        clause_flip inner.dual (isNNF_bin.2 ⟨hd, hl, hr⟩), List.map_singleton]

/-! ## The two conversions -/

theorem toNNF_neg (f : Formula) : (neg f).toNNF = f.toNNF.flip := nnf_not f true

theorem toDNF_neg (f : Formula) : (neg f).toDNF = f.toCNF.flip := by
  have hflip := @flip_distribute .or .and rfl rfl _ (isNNF_nnf f true)
  rw [toDNF, toNNF_neg]
  exact hflip.symm

theorem toCNF_neg (f : Formula) : (neg f).toCNF = f.toDNF.flip := by
  have hflip := @flip_distribute .and .or rfl rfl _ (isNNF_nnf f true)
  rw [toCNF, toNNF_neg]
  exact hflip.symm

theorem dnfTerms_neg (f : Formula) :
    (neg f).dnfTerms = f.cnfClauses.map (List.map Literal.complement) := by
  rw [dnfTerms_eq, toDNF_neg]
  exact clausesBy_flip .and (isNNF_of_isInForm (isInForm_convert .cnf f))

theorem cnfClauses_neg (f : Formula) :
    (neg f).cnfClauses = f.dnfTerms.map (List.map Literal.complement) := by
  rw [cnfClauses_eq, toCNF_neg]
  exact clausesBy_flip .or (isNNF_of_isInForm (isInForm_convert .dnf f))

end Formula

/-- The negation normal form of a negated formula is the mirror image of the formula's own, its
    disjunctive form that of the conjunctive one, and its conjunctive form that of the
    disjunctive one. So its terms are the clauses of the formula, and its clauses the terms of the
    formula, in the same order and with every literal complemented. -/
theorem negation_converts_to_mirror_image (f : Formula) :
    (Formula.neg f).toNNF = f.toNNF.flip ∧
    (Formula.neg f).toDNF = f.toCNF.flip ∧ (Formula.neg f).toCNF = f.toDNF.flip ∧
    (Formula.neg f).dnfTerms = f.cnfClauses.map (List.map Literal.complement) ∧
    (Formula.neg f).cnfClauses = f.dnfTerms.map (List.map Literal.complement) :=
  ⟨f.toNNF_neg, f.toDNF_neg, f.toCNF_neg, f.dnfTerms_neg, f.cnfClauses_neg⟩

end PropTutor
