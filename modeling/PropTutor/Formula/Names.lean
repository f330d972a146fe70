/-
  The variables of a formula: its atom names, each once, in increasing order.

  Names are ordered by the code points of their characters, which is the order of
  strings. Sorting keeps exactly the names it is given (`mem_sortNames`), and what it
  returns increases strictly (`pairwise_sortNames`).
-/
import PropTutor.Formula.Basic

namespace PropTutor

/-- Put a name into an increasing list; a name that is there already is not repeated. -/
def insertName (a : String) : List String → List String
  | [] => [a]
  | b :: bs => if a < b then a :: b :: bs else if a = b then b :: bs else b :: insertName a bs

/-- The names of a list, each once, in increasing order. -/
def sortNames (names : List String) : List String := names.foldr insertName []

theorem mem_insertName {a b : String} {names : List String} :
    b ∈ insertName a names ↔ b = a ∨ b ∈ names := by
  induction names with
  | nil => simp [insertName]
  | cons c names ih =>
    unfold insertName
    split
    · simp
    · split
      · next h => simp [h]
      · rw [List.mem_cons, ih, List.mem_cons]
        exact or_left_comm

theorem mem_sortNames {a : String} {names : List String} :
    a ∈ sortNames names ↔ a ∈ names := by
  induction names with
  | nil => simp [sortNames]
  | cons b names ih =>
    rw [show sortNames (b :: names) = insertName b (sortNames names) from rfl, mem_insertName, ih,
      List.mem_cons]

theorem pairwise_insertName {a : String} {names : List String}
    (h : names.Pairwise (· < ·)) : (insertName a names).Pairwise (· < ·) := by
  induction names with
  | nil => simp [insertName]
  | cons b names ih =>
    obtain ⟨hb, hnames⟩ := List.pairwise_cons.1 h
    unfold insertName
    split
    · next hab =>
      refine List.pairwise_cons.2 ⟨fun c hc => ?_, h⟩
      rcases List.mem_cons.1 hc with rfl | hc
      · exact hab
      · exact String.lt_trans hab (hb c hc)
    · split
      · exact h
      · next hab hne =>
        have hba : b < a := Decidable.byContradiction fun hba =>
          hne (String.le_antisymm (String.not_lt.1 hba) (String.not_lt.1 hab))
        refine List.pairwise_cons.2 ⟨fun c hc => ?_, ih hnames⟩
        rcases mem_insertName.1 hc with rfl | hc
        · exact hba
        · exact hb c hc

/-- Sorted names increase, so none is repeated. -/
theorem pairwise_sortNames (names : List String) : (sortNames names).Pairwise (· < ·) := by
  induction names with
  | nil => exact List.Pairwise.nil
  | cons a names ih => exact pairwise_insertName ih

namespace Formula

/-- The variables of a formula, each once, in increasing order. -/
def vars (f : Formula) : List String := sortNames f.atoms

theorem mem_vars {f : Formula} {a : String} : a ∈ f.vars ↔ a ∈ f.atoms := mem_sortNames

end Formula

end PropTutor
