/-
  Passes one after another, in any order.

  A pass may meet a formula that no earlier pass has prepared for it. The distributions then
  leave negated compounds and arrows as they are, and only the move of negations can fail. A
  run that does not fail keeps values, variables and truth tables (`passes_keep_meaning`),
  and the runs that make up a normal form never fail.
-/
import PropTutor.Proofs.NormalForm.Meaning
import PropTutor.Proofs.Semantics.Variables

namespace PropTutor

/-- A single pass, or the whole way to a normal form. -/
inductive Pass where
  | eliminateArrows
  | pushNegations
  | distributeOr
  | distributeAnd
  | toNNF
  | toCNF
  | toDNF
  | convert (form : NormalForm)
  deriving DecidableEq

/-- What a pass makes of a formula. -/
def Pass.apply (f : Formula) : Pass → Except PassError Formula
  | eliminateArrows => .ok f.eliminateArrows
  | pushNegations => f.pushNegations
  | distributeOr => .ok f.distributeOr
  | distributeAnd => .ok f.distributeAnd
  | toNNF => .ok f.toNNF
  | toCNF => .ok f.toCNF
  | toDNF => .ok f.toDNF
  | convert form => .ok (f.convert form)

/-- The passes that a normal form is made of. -/
def NormalForm.passes : NormalForm → List Pass
  | nnf => [.eliminateArrows, .pushNegations]
  | cnf => [.eliminateArrows, .pushNegations, .distributeOr]
  | dnf => [.eliminateArrows, .pushNegations, .distributeAnd]

namespace Formula

/-- The formula after the passes, from the first to the last; the first failure ends the run. -/
def applyAll (f : Formula) (passes : List Pass) : Except PassError Formula :=
  passes.foldlM Pass.apply f

theorem applyAll_cons (f : Formula) (p : Pass) (ps : List Pass) :
    f.applyAll (p :: ps) = (p.apply f).bind (applyAll · ps) := by
  rw [applyAll, List.foldlM_cons]
  rfl

theorem sameMeaning_toNNF (f : Formula) : SameMeaning f.toNNF f :=
  (sameMeaning_pushedTo (pushNegations_eliminateArrows f)).trans (sameMeaning_eliminateArrows f)

theorem sameMeaning_toCNF (f : Formula) : SameMeaning f.toCNF f :=
  (sameMeaning_distributeOr f.toNNF).trans (sameMeaning_toNNF f)

theorem sameMeaning_toDNF (f : Formula) : SameMeaning f.toDNF f :=
  (sameMeaning_distributeAnd f.toNNF).trans (sameMeaning_toNNF f)

theorem sameMeaning_convert (form : NormalForm) (f : Formula) :
    SameMeaning (f.convert form) f := by
  cases form with
  | nnf => exact sameMeaning_toNNF f
  | cnf => exact sameMeaning_toCNF f
  | dnf => exact sameMeaning_toDNF f

/-- One pass keeps the meaning, if it does not fail. -/
theorem sameMeaning_apply {f g : Formula} {p : Pass} (h : p.apply f = .ok g) :
    SameMeaning g f := by
  cases p with
  | pushNegations => exact sameMeaning_pushedTo h
  | eliminateArrows => exact Except.ok.inj h ▸ sameMeaning_eliminateArrows f
  | distributeOr => exact Except.ok.inj h ▸ sameMeaning_distributeOr f
  | distributeAnd => exact Except.ok.inj h ▸ sameMeaning_distributeAnd f
  | toNNF => exact Except.ok.inj h ▸ sameMeaning_toNNF f
  | toCNF => exact Except.ok.inj h ▸ sameMeaning_toCNF f
  | toDNF => exact Except.ok.inj h ▸ sameMeaning_toDNF f
  | convert form => exact Except.ok.inj h ▸ sameMeaning_convert form f

/-- A run of passes keeps the meaning, if none of them fails. -/
theorem sameMeaning_applyAll {f g : Formula} {ps : List Pass} (h : f.applyAll ps = .ok g) :
    SameMeaning g f := by
  induction ps generalizing f with
  | nil =>
    obtain rfl : f = g := Except.ok.inj h
    exact .refl f
  | cons p ps ih =>
    rw [applyAll_cons] at h
    cases hp : p.apply f with
    | error e => rw [hp] at h; cases h
    | ok m =>
      rw [hp] at h
      exact (ih h).trans (sameMeaning_apply hp)

theorem applyAll_nnf_append (f : Formula) (ps : List Pass) :
    f.applyAll (NormalForm.nnf.passes ++ ps) = f.toNNF.applyAll ps := by
  have hnnf : Pass.pushNegations.apply f.eliminateArrows = .ok f.toNNF :=
    pushNegations_eliminateArrows f
  rw [NormalForm.passes, List.cons_append, List.cons_append, List.nil_append, applyAll_cons,
    Pass.apply, Except.bind, applyAll_cons, hnnf, Except.bind]

/-- The passes of a normal form never fail, and give the formula in that form. -/
theorem applyAll_passes (form : NormalForm) (f : Formula) :
    f.applyAll form.passes = .ok (f.convert form) := by
  cases form with
  | nnf => exact applyAll_nnf_append f []
  | cnf => exact applyAll_nnf_append f [.distributeOr]
  | dnf => exact applyAll_nnf_append f [.distributeAnd]

end Formula

/-- Passes in any order, on any formula: if none fails, the result has the value of the
    formula under all values of the names, the same variables, and the same truth tables,
    refused or not. The passes of a normal form do not fail. -/
theorem passes_keep_meaning :
    (∀ (ps : List Pass) (f g : Formula), f.applyAll ps = .ok g →
      (∀ v : String → Bool, g.eval v = f.eval v) ∧ g.vars = f.vars ∧
      (∀ limit names, TruthTable.build limit g names = TruthTable.build limit f names) ∧
      ∀ names, TruthTable.action g names = TruthTable.action f names) ∧
    ∀ (form : NormalForm) (f : Formula), f.applyAll form.passes = .ok (f.convert form) := by
  refine ⟨fun ps f g h => ?_, Formula.applyAll_passes⟩
  have hsame := Formula.sameMeaning_applyAll h
  have hvars := Formula.vars_congr hsame.atoms
  exact ⟨hsame.eval, hvars, fun limit names => TruthTable.build_congr hvars hsame.eval limit names,
    fun names => TruthTable.action_congr hvars hsame.eval names⟩

/-- Distribution first, on a formula with a negated arrow in it, and the other passes after. -/
theorem passes_keep_meaning_unprepared :
    (Formula.disj (.conj (.atom "P") (.neg (.imp (.atom "Q") (.atom "P")))) (.atom "R")).applyAll
        [.distributeOr, .eliminateArrows, .pushNegations] =
      .ok (.conj (.disj (.atom "P") (.atom "R"))
        (.disj (.conj (.atom "Q") (.neg (.atom "P"))) (.atom "R"))) ∧
    (Formula.conj (.disj (.atom "P") (.atom "R"))
        (.disj (.conj (.atom "Q") (.neg (.atom "P"))) (.atom "R"))).vars =
      (Formula.disj (.conj (.atom "P") (.neg (.imp (.atom "Q") (.atom "P")))) (.atom "R")).vars :=
  ⟨rfl, (passes_keep_meaning.1 [.distributeOr, .eliminateArrows, .pushNegations] _ _ rfl).2.1⟩

end PropTutor
