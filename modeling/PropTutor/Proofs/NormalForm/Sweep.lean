/-
  One sweep of a distribution reaches its fixed point, whatever formula it starts from.

  The nodes of a formula over which no negation stands are its exposed nodes. A sweep joins,
  splits and copies exposed nodes and never opens a negation, so the negations and atoms that
  are exposed afterwards are those that were exposed before (`mem_exposed_distribute`). A
  formula is settled exactly if no exposed `outer` has an `inner` as an operand
  (`settled_iff_exposed`), which is what one sweep reaches and what it leaves as it is
  (`distribution_passes_reach_their_fixed_point`).
-/
import PropTutor.Proofs.NormalForm.Forms

namespace PropTutor

namespace Formula

/-- The nodes of the formula over which no negation stands, the root first. -/
def exposed : Formula → List Formula
  | bin c l r => bin c l r :: (l.exposed ++ r.exposed)
  | f => [f]

variable {outer inner : Connective}

theorem mem_exposed_bin {c : Connective} {l r g : Formula} :
    g ∈ (bin c l r).exposed ↔ g = bin c l r ∨ g ∈ l.exposed ∨ g ∈ r.exposed := by
  rw [exposed, List.mem_cons, List.mem_append]

/-- What is no join itself is exposed in a join if it is exposed in an operand. -/
theorem mem_exposed_bin_of_leaf {g : Formula} (hg : g.isBinary = false) {c : Connective}
    {l r : Formula} : g ∈ (bin c l r).exposed ↔ g ∈ l.exposed ∨ g ∈ r.exposed := by
  refine mem_exposed_bin.trans (or_iff_right ?_)
  rintro rfl
  cases hg

/-- A formula is settled if no exposed `outer` has an `inner` as an operand. -/
theorem settled_iff_exposed {f : Formula} :
    f.Settled outer inner ↔
      ∀ l r, bin outer l r ∈ f.exposed → l.rootIs inner = false ∧ r.rootIs inner = false := by
  induction f with
  | atom n => exact iff_of_true trivial fun l r h => nomatch List.mem_singleton.1 h
  | neg f _ => exact iff_of_true trivial fun l r h => nomatch List.mem_singleton.1 h
  | bin c a b iha ihb =>
    rw [Settled, iha, ihb]
    constructor
    · rintro ⟨hroot, ha, hb⟩ l r h
      obtain h | h | h := mem_exposed_bin.1 h
      · cases h
        exact hroot rfl
      · exact ha l r h
      · exact hb l r h
    · intro h
      refine ⟨?_, ?_, ?_⟩
      · rintro rfl
        exact h a b (mem_exposed_bin.2 (.inl rfl))
      · exact fun l r hmem => h l r (mem_exposed_bin.2 (.inr (.inl hmem)))
      · exact fun l r hmem => h l r (mem_exposed_bin.2 (.inr (.inr hmem)))

/-! ## What a sweep leaves untouched -/

theorem mem_exposed_spreadLeft {g : Formula} (hg : g.isBinary = false) (l r : Formula) :
    g ∈ (spreadLeft outer inner r l).exposed ↔ g ∈ l.exposed ∨ g ∈ r.exposed := by
  induction l with
  | atom n => exact mem_exposed_bin_of_leaf hg
  | neg f _ => exact mem_exposed_bin_of_leaf hg
  | bin c a b iha ihb =>
    rw [spreadLeft]
    split
    · -- both halves get a copy of the right operand
      rw [mem_exposed_bin_of_leaf hg, iha, ihb, mem_exposed_bin_of_leaf hg]
      exact or_or_distrib_right.symm
    · exact mem_exposed_bin_of_leaf hg

theorem mem_exposed_spread {g : Formula} (hg : g.isBinary = false) (l r : Formula) :
    g ∈ (spread outer inner l r).exposed ↔ g ∈ l.exposed ∨ g ∈ r.exposed := by
  induction r with
  | atom n => exact mem_exposed_spreadLeft hg l _
  | neg f _ => exact mem_exposed_spreadLeft hg l _
  | bin c a b iha ihb =>
    rw [spread]
    split
    · rw [mem_exposed_bin_of_leaf hg, iha, ihb, mem_exposed_bin_of_leaf hg]
      exact or_or_distrib_left.symm
    · exact mem_exposed_spreadLeft hg l _

/-- The negations and atoms that a sweep leaves exposed are those that were exposed before. -/
theorem mem_exposed_distribute {g : Formula} (hg : g.isBinary = false) (f : Formula) :
    g ∈ (f.distribute outer inner).exposed ↔ g ∈ f.exposed := by
  induction f with
  | atom n => exact Iff.rfl
  | neg f _ => exact Iff.rfl
  | bin c l r ihl ihr =>
    rw [distribute, mem_exposed_bin_of_leaf hg, ← ihl, ← ihr]
    split
    · exact mem_exposed_spread hg _ _
    · exact mem_exposed_bin_of_leaf hg

end Formula

/-- The pass needs one application to leave no `inner` under an `outer`, and it does not look
    under negations. -/
structure ReachesInOnce (outer inner : Connective) (pass : Formula → Formula) : Prop where
  /-- No exposed `outer` of the result has an `inner` as an operand. -/
  settles : ∀ f l r, Formula.bin outer l r ∈ (pass f).exposed →
    l.rootIs inner = false ∧ r.rootIs inner = false
  /-- The exposed negations of the result are those of the formula, with their operands. -/
  keepsNegations : ∀ f g, Formula.neg g ∈ (pass f).exposed ↔ Formula.neg g ∈ f.exposed
  /-- The pass changes exactly the formulas in which some exposed `outer` has an `inner` as an
      operand. -/
  changes : ∀ f, pass f = f ↔ ∀ l r, Formula.bin outer l r ∈ f.exposed →
    l.rootIs inner = false ∧ r.rootIs inner = false
  /-- A second application changes nothing. -/
  twice : ∀ f, pass (pass f) = pass f

theorem reachesInOnce_distribute {outer inner : Connective} (hne : inner ≠ outer) :
    ReachesInOnce outer inner (Formula.distribute outer inner) where
  settles f := Formula.settled_iff_exposed.1 (Formula.settled_distribute hne f)
  keepsNegations f _ := Formula.mem_exposed_distribute rfl f
  changes _ := (Formula.distribute_eq_self_iff hne).trans Formula.settled_iff_exposed
  twice f := Formula.distribute_of_settled (Formula.settled_distribute hne f)

/-- Each of the two distribution passes reaches its fixed point in one application, on every
    formula. -/
theorem distribution_passes_reach_their_fixed_point :
    ReachesInOnce .or .and Formula.distributeOr ∧
    ReachesInOnce .and .or Formula.distributeAnd :=
  ⟨reachesInOnce_distribute nofun, reachesInOnce_distribute nofun⟩

/-- The conjunction under the negation stays where it is, the one beside it is split. -/
example : ((Formula.disj (.neg (.conj (.atom "P") (.atom "Q")))
      (.conj (.atom "P") (.atom "Q"))).distributeOr) =
    .conj (.disj (.neg (.conj (.atom "P") (.atom "Q"))) (.atom "P"))
      (.disj (.neg (.conj (.atom "P") (.atom "Q"))) (.atom "Q")) := by
  decide

end PropTutor
