/-
  What the clauses of a formula say.

  Clauses are read off a formula by taking it for a chain of `inner` whose operands are chains
  of the dual connective (`Formula.clausesBy`); an operand that is no literal would be skipped.
  In a formula that has the form nothing is skipped: one after another the clauses are the
  literals of the formula (`flatten_clausesBy`), and read with the two connectives they have its
  value (`holdsOver_clausesBy`). The conjunctive and the disjunctive form of a formula have their
  form and keep its meaning, so their clauses say what the formula says
  (`clauses_say_what_formula_says`).
-/
import PropTutor.NormalForm.Clause
import PropTutor.Proofs.NormalForm.Forms
import PropTutor.Proofs.NormalForm.Sequence

namespace PropTutor

/-! ## Literals -/

namespace Literal

/-- The literal of the same name with the other sign. -/
def complement (l : Literal) : Literal := ⟨l.name, !l.negated⟩

/-- The value of a literal: its name has the value that the literal asks for. -/
def holds (v : String → Bool) (l : Literal) : Bool := v l.name == !l.negated

end Literal

namespace Formula

/-- The occurrences of atoms from left to right, each with the sign that the negations above it
    leave. In a negation normal form these are the literals. -/
def literals : Formula → List Literal
  | atom n => [⟨n, false⟩]
  | neg f => f.literals.map Literal.complement
  | bin _ l r => l.literals ++ r.literals

@[simp]
theorem literals_literal (positive : Bool) (n : String) :
    (literal positive n).literals = [⟨n, !positive⟩] := by
  cases positive <;> rfl

theorem holds_literal (v : String → Bool) (positive : Bool) (n : String) :
    Literal.holds v ⟨n, !positive⟩ = (literal positive n).eval v := by
  cases positive <;> simp [literal, eval, Literal.holds]

/-- No occurrence is left out. -/
theorem map_name_literals (f : Formula) : f.literals.map Literal.name = f.atoms := by
  induction f with
  | atom n => rfl
  | neg f ih =>
    rw [literals, List.map_map, atoms, ← ih]
    rfl
  | bin c l r ihl ihr => rw [literals, List.map_append, ihl, ihr, atoms]

theorem literals_ne_nil (f : Formula) : f.literals ≠ [] := by
  induction f with
  | atom n => exact List.cons_ne_nil _ _
  | neg f ih =>
    rw [literals]
    exact fun h => ih (List.map_eq_nil_iff.1 h)
  | bin c l r ihl _ => exact List.append_ne_nil_of_left_ne_nil ihl _

end Formula

/-! ## Chains of a connective -/

namespace Connective

variable {α : Type}

/-- What the conjunction of the values says, or their disjunction if the connective is not the
    conjunction. -/
def holdsOver (c : Connective) (p : α → Bool) (xs : List α) : Bool :=
  match c with
  | and => xs.all p
  | _ => xs.any p

@[simp]
theorem holdsOver_singleton (c : Connective) (p : α → Bool) (x : α) :
    c.holdsOver p [x] = p x := by
  cases c <;> simp [holdsOver]

theorem holdsOver_append {c : Connective} (hc : c.isBasic = true) (p : α → Bool) (xs ys : List α) :
    c.holdsOver p (xs ++ ys) = c.holds (c.holdsOver p xs) (c.holdsOver p ys) := by
  cases c with
  | and => exact List.all_append
  | or => exact List.any_append
  | implies => cases hc
  | iff => cases hc

theorem holdsOver_map_congr {β : Type} (c : Connective) {p : α → Bool} {q : β → Bool}
    {g : α → β} {xs : List α} (h : ∀ x ∈ xs, q (g x) = p x) :
    c.holdsOver q (xs.map g) = c.holdsOver p xs := by
  induction xs with
  | nil => cases c <;> rfl
  | cons x xs ih =>
    have hx := h x (List.mem_cons_self ..)
    have hxs := ih fun y hy => h y (List.mem_cons_of_mem x hy)
    cases c <;> simp_all [holdsOver]

end Connective

namespace Formula

variable {c inner : Connective}

/-- A formula has the value that the connective makes of its operands. -/
theorem holdsOver_operands (hc : c.isBasic = true) (v : String → Bool) (f : Formula) :
    c.holdsOver (fun g => g.eval v) (f.operands c) = f.eval v := by
  induction f with
  | atom n => exact c.holdsOver_singleton _ _
  | neg f _ => exact c.holdsOver_singleton _ _
  | bin d l r ihl ihr =>
    rw [operands]
    split
    · next h => rw [Connective.holdsOver_append hc, ihl, ihr, eval, h]
    · exact c.holdsOver_singleton _ _

/-- The literals of a formula are those of its operands. -/
theorem flatMap_literals_operands (c : Connective) (f : Formula) :
    (f.operands c).flatMap literals = f.literals := by
  induction f with
  | atom n => exact List.flatMap_singleton ..
  | neg f _ => exact List.flatMap_singleton ..
  | bin d l r ihl ihr =>
    rw [operands]
    split
    · rw [List.flatMap_append, ihl, ihr, literals]
    · exact List.flatMap_singleton ..

/-! ## One clause -/

@[simp]
theorem clause_literal (c : Connective) (positive : Bool) (n : String) :
    (literal positive n).clause c = [⟨n, !positive⟩] := by
  cases positive <;> rfl

theorem clause_bin (c d : Connective) (l r : Formula) :
    (bin d l r).clause c = if d = c then l.clause c ++ r.clause c else [] := by
  rw [clause, operands]
  split
  · exact List.filterMap_append
  · rfl

/-- Of a chain of literals nothing is skipped. -/
theorem clause_of_isFlat {f : Formula} (h : f.isFlat c = true) : f.clause c = f.literals := by
  induction h using flat_induction with
  | literal positive n => simp
  | bin l r _ _ ihl ihr => rw [clause_bin, if_pos rfl, ihl, ihr, literals]

theorem holdsOver_clause (hc : c.isBasic = true) (v : String → Bool) {f : Formula}
    (h : f.isFlat c = true) : c.holdsOver (Literal.holds v) (f.clause c) = f.eval v := by
  induction h using flat_induction with
  | literal positive n => simp [holds_literal]
  | bin l r _ _ ihl ihr =>
    rw [clause_bin, if_pos rfl, Connective.holdsOver_append hc, ihl, ihr, eval]

/-! ## All clauses -/

/-- The clauses that are read off a formula as it stands: the operands of its chain of `inner`,
    each read as a chain of the dual connective. -/
def clausesBy (inner : Connective) (f : Formula) : List Clause :=
  (f.operands inner).map (clause inner.dual)

theorem clausesBy_of_rootIs {f : Formula} (h : f.rootIs inner = false) :
    f.clausesBy inner = [f.clause inner.dual] := by
  cases f with
  | atom n => rfl
  | neg f => rfl
  | bin c l r => rw [clausesBy, operands, if_neg (beq_eq_false_iff_ne.1 h), List.map_singleton]

@[simp]
theorem clausesBy_bin (inner : Connective) (l r : Formula) :
    (bin inner l r).clausesBy inner = l.clausesBy inner ++ r.clausesBy inner := by
  rw [clausesBy, operands, if_pos rfl, List.map_append]
  rfl

/-- The formula is a chain of `inner` whose operands are chains of literals. -/
def IsChainOfFlat (inner : Connective) (f : Formula) : Prop :=
  (f.operands inner).all (isFlat inner.dual) = true

theorem isFlat_of_mem_operands {f g : Formula} (h : f.IsChainOfFlat inner)
    (hg : g ∈ f.operands inner) : g.isFlat inner.dual = true :=
  List.all_eq_true.1 h g hg

/-- One after another the clauses are the literals of the formula. -/
theorem flatten_clausesBy {f : Formula} (h : f.IsChainOfFlat inner) :
    (f.clausesBy inner).flatten = f.literals := by
  have hclauses : f.clausesBy inner = (f.operands inner).map literals :=
    List.map_congr_left fun g hg => clause_of_isFlat (isFlat_of_mem_operands h hg)
  rw [hclauses, ← List.flatMap_def, flatMap_literals_operands]

theorem ne_nil_of_mem_clausesBy {f : Formula} (h : f.IsChainOfFlat inner) {cl : Clause}
    (hcl : cl ∈ f.clausesBy inner) : cl ≠ [] := by
  obtain ⟨g, hg, rfl⟩ := List.mem_map.1 hcl
  rw [clause_of_isFlat (isFlat_of_mem_operands h hg)]
  exact literals_ne_nil g

/-- The clauses, joined by `inner`, of literals joined by its dual, have the value of the
    formula. -/
theorem holdsOver_clausesBy (hi : inner.isBasic = true) (v : String → Bool) {f : Formula}
    (h : f.IsChainOfFlat inner) :
    inner.holdsOver (inner.dual.holdsOver (Literal.holds v)) (f.clausesBy inner) = f.eval v := by
  have hclause : ∀ g ∈ f.operands inner,
      inner.dual.holdsOver (Literal.holds v) (g.clause inner.dual) = g.eval v :=
    fun g hg => holdsOver_clause (Connective.isBasic_dual hi) v (isFlat_of_mem_operands h hg)
  rw [clausesBy, inner.holdsOver_map_congr hclause, holdsOver_operands hi]

theorem cnfClauses_eq (f : Formula) : f.cnfClauses = f.toCNF.clausesBy .and := rfl

theorem dnfTerms_eq (f : Formula) : f.dnfTerms = f.toDNF.clausesBy .or := rfl

theorem isChainOfFlat_toCNF (f : Formula) : f.toCNF.IsChainOfFlat .and :=
  isInForm_convert .cnf f

theorem isChainOfFlat_toDNF (f : Formula) : f.toDNF.IsChainOfFlat .or :=
  isInForm_convert .dnf f

end Formula

/-- The clauses are the formula `form` read without loss: none is empty, one after another they
    are its literals, and their names are the variables of `f`. -/
structure Clause.ReadOff (clauses : List Clause) (form f : Formula) : Prop where
  ne_nil : ∀ c ∈ clauses, c ≠ []
  flatten : clauses.flatten = form.literals
  names : ∀ n, (∃ c ∈ clauses, ∃ l ∈ c, l.name = n) ↔ n ∈ f.vars

theorem Formula.readOff_clausesBy {inner : Connective} {form f : Formula}
    (h : form.IsChainOfFlat inner) (hatoms : ∀ n, n ∈ form.atoms ↔ n ∈ f.atoms) :
    Clause.ReadOff (form.clausesBy inner) form f := by
  have hflatten := flatten_clausesBy h
  refine ⟨fun c hc => ne_nil_of_mem_clausesBy h hc, hflatten, fun n => ?_⟩
  have hmem : (∃ c ∈ form.clausesBy inner, ∃ l ∈ c, l.name = n) ↔
      n ∈ (form.clausesBy inner).flatten.map Literal.name := by
    simp only [List.mem_map, List.mem_flatten]
    constructor
    · rintro ⟨c, hc, l, hl, hn⟩
      exact ⟨l, ⟨c, hc, hl⟩, hn⟩
    · rintro ⟨l, ⟨c, hc, hl⟩, hn⟩
      exact ⟨c, hc, l, hl, hn⟩
  rw [hmem, hflatten, map_name_literals, hatoms, mem_vars]

/-- A formula is true exactly if every clause of its conjunctive form has a true literal, and
    exactly if some term of its disjunctive form has true literals only, whatever the values of
    the names. No clause or term is empty, and together they are all the literals of the form, in
    order. -/
theorem clauses_say_what_formula_says (f : Formula) :
    (∀ v : String → Bool, f.eval v = true ↔ ∀ c ∈ f.cnfClauses, ∃ l ∈ c, l.holds v = true) ∧
    (∀ v : String → Bool, f.eval v = true ↔ ∃ t ∈ f.dnfTerms, ∀ l ∈ t, l.holds v = true) ∧
    Clause.ReadOff f.cnfClauses f.toCNF f ∧ Clause.ReadOff f.dnfTerms f.toDNF f := by
  have hcnf := Formula.sameMeaning_toCNF f
  have hdnf := Formula.sameMeaning_toDNF f
  refine ⟨fun v => ?_, fun v => ?_, ?_, ?_⟩
  · have hvalue := @Formula.holdsOver_clausesBy .and rfl v _ f.isChainOfFlat_toCNF
    rw [← hcnf.eval v, ← hvalue, Formula.cnfClauses_eq]
    simp only [Connective.holdsOver, Connective.dual, List.all_eq_true, List.any_eq_true]
  · have hvalue := @Formula.holdsOver_clausesBy .or rfl v _ f.isChainOfFlat_toDNF
    rw [← hdnf.eval v, ← hvalue, Formula.dnfTerms_eq]
    simp only [Connective.holdsOver, Connective.dual, List.all_eq_true, List.any_eq_true]
  · exact Formula.readOff_clausesBy f.isChainOfFlat_toCNF hcnf.atoms
  · exact Formula.readOff_clausesBy f.isChainOfFlat_toDNF hdnf.atoms

end PropTutor
