/-
  What the columns and rows of a table depend on.

  A sorted list of names is determined by the set of its names (`sortNames_congr`), so
  formulas with the same atoms have the same columns in every table. If they also have the
  same values, every table of the one is the table of the other, and a table that is refused
  for the one is refused for the other with the same error and the same log record
  (`TruthTable.action_congr`).
-/
import Mathlib.Data.List.Sort
import PropTutor.Action

namespace PropTutor

/-- Sorting depends on which names there are, not on their order or repetition. -/
theorem sortNames_congr {as bs : List String} (h : ∀ n, n ∈ as ↔ n ∈ bs) :
    sortNames as = sortNames bs := by
  refine List.Pairwise.eq_of_mem_iff (pairwise_sortNames as) (pairwise_sortNames bs) ?_
  intro n
  rw [mem_sortNames, mem_sortNames, h]

theorem Formula.vars_congr {f g : Formula} (h : ∀ n, n ∈ f.atoms ↔ n ∈ g.atoms) :
    f.vars = g.vars :=
  sortNames_congr h

namespace TruthTable

theorem columns_congr {f g : Formula} (h : f.vars = g.vars) : columns f = columns g := by
  funext names
  cases names with
  | none => rw [columns, columns, h]
  | some names => rw [columns, columns, h]

theorem tabulate_congr {f g : Formula} (h : ∀ v, f.eval v = g.eval v) (limit : Int) :
    tabulate limit f = tabulate limit g := by
  have hrow : row f = row g := by
    funext names index
    simp only [row, h]
  funext names
  simp only [tabulate, hrow]

/-- A table depends on the variables of its formula and on its value under each assignment. -/
theorem build_congr {f g : Formula} (hvars : f.vars = g.vars)
    (heval : ∀ v, f.eval v = g.eval v) (limit : Int) (names : Option (List String)) :
    build limit f names = build limit g names := by
  rw [build, build, columns_congr hvars, tabulate_congr heval]

theorem action_congr {f g : Formula} (hvars : f.vars = g.vars)
    (heval : ∀ v, f.eval v = g.eval v) (names : Option (List String)) :
    action f names = action g names := by
  simp only [action, columns_congr hvars, fun limit => tabulate_congr heval limit]

end TruthTable

theorem Formula.isTautology_congr {f g : Formula} (hvars : f.vars = g.vars)
    (heval : ∀ v, f.eval v = g.eval v) (limit : Int) : f.isTautology limit = g.isTautology limit := by
  rw [isTautology, isTautology, classify, classify, table, table,
    TruthTable.build_congr hvars heval]

end PropTutor
