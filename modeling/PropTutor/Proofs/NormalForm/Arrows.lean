/-
  Where negations can be moved.

  An implication or a biconditional is an arrow. Negations move to the atoms of a formula, and of
  its complement, exactly if there is no arrow in it; otherwise the move fails at the arrow that
  comes first when the nodes are listed from the root on and from left to right
  (`Formula.pushedTo_eq`). The flag that the move carries stands for rebuilding the operands of a
  negated join (`Formula.pushNegations_neg_bin`), and neither the flag nor the rebuilding changes
  which arrow is met first or in which order the atoms stand. So the move is defined on the
  formulas without arrows and keeps what is in negation normal form already
  (`negations_move_unless_arrow`).
-/
import PropTutor.Proofs.NormalForm.Forms
import PropTutor.Proofs.NormalForm.Meaning

namespace PropTutor

namespace Formula

/-- The connective of an implication or a biconditional. -/
def arrow? : Formula → Option Connective
  | bin c _ _ => if c.isBasic then none else some c
  | _ => none

/-- The connective of the first arrow among the nodes of a formula. -/
def firstArrow? (f : Formula) : Option Connective := f.subformulas.findSome? arrow?

/-- There is an implication or a biconditional in the formula, under whatever negations. -/
def HasArrow (f : Formula) : Prop := ∃ l r, imp l r ∈ f.subformulas ∨ iff l r ∈ f.subformulas

variable {f g l r : Formula} {c : Connective} {positive : Bool}

/-! ## The first arrow -/

theorem firstArrow?_bin_of_isBasic (hc : c.isBasic = true) :
    (bin c l r).firstArrow? = l.firstArrow?.or r.firstArrow? := by
  rw [firstArrow?, subformulas, List.findSome?_cons, arrow?, if_pos hc, List.findSome?_append]
  rfl

theorem firstArrow?_bin_of_arrow (hc : c.isBasic = false) : (bin c l r).firstArrow? = some c := by
  rw [firstArrow?, subformulas, List.findSome?_cons, arrow?, hc]
  rfl

/-- There is a first arrow where there is one at all. -/
theorem firstArrow?_eq_none : f.firstArrow? = none ↔ ¬ f.HasArrow := by
  rw [firstArrow?, List.findSome?_eq_none_iff, HasArrow]
  constructor
  · rintro h ⟨l, r, hmem | hmem⟩
    · cases h _ hmem
    · cases h _ hmem
  · intro h g hg
    cases g with
    | atom n => rfl
    | neg g => rfl
    | bin c l r =>
      cases c with
      | and => rfl
      | or => rfl
      | implies => exact absurd ⟨l, r, .inl hg⟩ h
      | iff => exact absurd ⟨l, r, .inr hg⟩ h

/-! ## Moving negations -/

theorem nnf_bin_of_isBasic (hc : c.isBasic = true) (l r : Formula) (positive : Bool) :
    (bin c l r).nnf positive =
      bin (if positive then c else c.dual) (l.nnf positive) (r.nnf positive) := by
  cases c with
  | and => rfl
  | or => rfl
  | implies => cases hc
  | iff => cases hc

/-- A negated join is the dual join of the negated operands. -/
theorem pushNegations_neg_bin (hc : c.isBasic = true) :
    (neg (bin c l r)).pushNegations = (bin c.dual (neg l) (neg r)).pushNegations := by
  have hdual : c.dual.isBasic = true := Connective.isBasic_dual hc
  simp only [pushNegations, pushedTo, hc, hdual, if_true, Bool.not_true, Bool.false_eq_true,
    if_false]

/-- Without arrows the move gives the negation normal form of the formula or of its complement,
    and otherwise the first arrow is an error. -/
theorem pushedTo_eq (f : Formula) (positive : Bool) : f.pushedTo positive =
    match f.firstArrow? with
    | none => .ok (f.nnf positive)
    | some c => .error (.arrowLeft c) := by
  induction f generalizing positive with
  | atom n => rfl
  | neg f ih => exact ih (!positive)
  | bin c l r ihl ihr =>
    cases hc : c.isBasic with
    | false =>
      rw [firstArrow?_bin_of_arrow hc, pushedTo, hc]
      rfl
    | true =>
      -- the left operand is moved first, so its arrows come before those of the right one
      rw [firstArrow?_bin_of_isBasic hc, nnf_bin_of_isBasic hc, pushedTo, hc, ihl, ihr]
      cases l.firstArrow? with
      | some d => rfl
      | none => cases r.firstArrow? <;> rfl

/-- The atoms stay in their order. -/
theorem atoms_of_pushedTo (h : f.pushedTo positive = .ok g) : g.atoms = f.atoms := by
  induction f generalizing positive g with
  | atom n =>
    obtain rfl : literal positive n = g := Except.ok.inj h
    cases positive <;> rfl
  | neg f ih => exact ih h
  | bin c l r ihl ihr =>
    obtain ⟨-, a, b, ha, hb, rfl⟩ := pushedTo_bin_eq_ok.1 h
    rw [atoms, atoms, ihl ha, ihr hb]

theorem pushNegations_of_firstArrow? (h : f.firstArrow? = some c) :
    f.pushNegations = .error (.arrowLeft c) := by
  rw [pushNegations, pushedTo_eq, h]

theorem pushNegations_of_not_hasArrow (h : ¬ f.HasArrow) : f.pushNegations = .ok f.toNNF := by
  rw [pushNegations, pushedTo_eq, firstArrow?_eq_none.2 h]
  rfl

theorem exists_firstArrow? (h : f.HasArrow) : ∃ c, f.firstArrow? = some c :=
  Option.ne_none_iff_exists'.1 fun hnone => firstArrow?_eq_none.1 hnone h

/-- The first pass leaves no arrow. -/
theorem not_hasArrow_eliminateArrows (f : Formula) : ¬ f.eliminateArrows.HasArrow := by
  intro h
  obtain ⟨c, hc⟩ := exists_firstArrow? h
  cases (pushNegations_of_firstArrow? hc).symm.trans (pushNegations_eliminateArrows f)

end Formula

/-- Moving negations fails exactly on the formulas with an arrow in them, and the error names the
    connective of the arrow that comes first. On every other formula it gives one in negation
    normal form, the formula itself exactly if it has this form, and its atoms stand in the order
    in which they stood. Behind the pass that removes arrows it never fails. -/
theorem negations_move_unless_arrow (f : Formula) :
    ((∃ e, f.pushNegations = .error e) ↔ f.HasArrow) ∧
    (f.HasArrow → ∃ c, f.firstArrow? = some c ∧ f.pushNegations = .error (.arrowLeft c) ∧
      (PassError.arrowLeft c).message = "push_negations_inward expects no " ++ c.name ++
        "; run eliminate_implications first") ∧
    (¬ f.HasArrow → ∃ g, f.pushNegations = .ok g ∧ g.isNNF = true ∧
      (g = f ↔ f.isNNF = true) ∧ g.atoms = f.atoms) ∧
    ¬ f.eliminateArrows.HasArrow ∧ f.eliminateArrows.pushNegations = .ok f.toNNF := by
  refine ⟨⟨?_, fun h => ?_⟩, fun h => ?_, fun h => ?_, f.not_hasArrow_eliminateArrows,
    f.pushNegations_eliminateArrows⟩
  · rintro ⟨e, he⟩
    refine Classical.byContradiction fun h => ?_
    cases he.symm.trans (Formula.pushNegations_of_not_hasArrow h)
  · obtain ⟨c, hc⟩ := Formula.exists_firstArrow? h
    exact ⟨_, Formula.pushNegations_of_firstArrow? hc⟩
  · obtain ⟨c, hc⟩ := Formula.exists_firstArrow? h
    exact ⟨c, hc, Formula.pushNegations_of_firstArrow? hc, rfl⟩
  · have hmoved := Formula.pushNegations_of_not_hasArrow h
    have hform : f.toNNF.isNNF = true := Formula.isNNF_nnf f true
    exact ⟨_, hmoved, hform, ⟨fun heq => heq ▸ hform, Formula.nnf_of_isNNF⟩,
      Formula.atoms_of_pushedTo hmoved⟩

/-- Of two arrows the biconditional comes first, though it stands deeper and under negations. -/
theorem negations_move_unless_arrow_nested :
    (Formula.conj (.neg (.neg (.disj (.atom "P") (.neg (.iff (.atom "Q") (.atom "P"))))))
      (.imp (.atom "R") (.atom "P"))).HasArrow ∧
    (Formula.conj (.neg (.neg (.disj (.atom "P") (.neg (.iff (.atom "Q") (.atom "P"))))))
      (.imp (.atom "R") (.atom "P"))).pushNegations = .error (.arrowLeft .iff) ∧
    ¬ (Formula.neg (.conj (.atom "Q") (.neg (.disj (.atom "P") (.atom "Q"))))).HasArrow ∧
    ∃ g, (Formula.neg (.conj (.atom "Q") (.neg (.disj (.atom "P") (.atom "Q"))))).pushNegations =
      .ok g ∧ g.isNNF = true ∧ g.atoms = ["Q", "P", "Q"] := by
  have harrow : (Formula.conj (.neg (.neg (.disj (.atom "P") (.neg (.iff (.atom "Q")
      (.atom "P")))))) (.imp (.atom "R") (.atom "P"))).HasArrow :=
    ⟨.atom "R", .atom "P", .inl (by decide)⟩
  have hnone : ¬ (Formula.neg (.conj (.atom "Q") (.neg (.disj (.atom "P")
      (.atom "Q"))))).HasArrow :=
    Formula.firstArrow?_eq_none.1 rfl
  obtain ⟨c, hc, herror, -⟩ := (negations_move_unless_arrow _).2.1 harrow
  obtain ⟨g, hg, hform, -, hatoms⟩ := (negations_move_unless_arrow _).2.2.1 hnone
  obtain rfl : Connective.iff = c := Option.some.inj hc
  exact ⟨harrow, herror, hnone, g, hg, hform, hatoms⟩

end PropTutor
