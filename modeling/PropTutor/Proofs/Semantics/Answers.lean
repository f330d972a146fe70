/-
  The answers of a truth table are answers about all assignments.

  A table has a row for every assignment over the variables of its formula, and the value of
  the formula depends on its variables only. So each value that the formula takes anywhere is
  the result of a row (`mem_results_table`), and what is read off the results holds for every
  assignment of any set of names. Equivalence and entailment are read off one table over the
  variables of both formulas.
-/
import Mathlib.Data.Finset.Card
import PropTutor.Proofs.Semantics.Rows
import PropTutor.Semantics.Entailment

namespace PropTutor

/-! ## Values and rows -/

theorem Assignment.value_map {names : List String} {n : String} (h : n ∈ names)
    (v : String → Bool) : Assignment.value (names.map fun n => (n, v n)) n = v n := by
  induction names with
  | nil => cases h
  | cons m names ih =>
    rw [value, List.map_cons, List.lookup_cons]
    cases hn : n == m with
    | true =>
      obtain rfl := eq_of_beq hn
      rfl
    | false =>
      have hmem : n ∈ names := (List.mem_cons.1 h).resolve_left (beq_eq_false_iff_ne.1 hn)
      exact ih hmem

theorem nodup_sortNames (names : List String) : (sortNames names).Nodup :=
  (pairwise_sortNames names).imp String.ne_of_lt

/-- Sorting keeps as many names as there are different ones. -/
theorem length_sortNames (names : List String) :
    (sortNames names).length = names.toFinset.card := by
  have hset : (sortNames names).toFinset = names.toFinset := by
    ext n
    rw [List.mem_toFinset, List.mem_toFinset, mem_sortNames]
  rw [← hset, List.toFinset_card_of_nodup (nodup_sortNames names)]

namespace Formula

theorem nodup_vars (f : Formula) : f.vars.Nodup := nodup_sortNames f.atoms

/-- Any values of the names act on a formula like an assignment over its variables. -/
theorem eval_restrict (f : Formula) (v : String → Bool) :
    f.eval (Assignment.value (f.vars.map fun n => (n, v n))) = f.eval v :=
  eval_congr fun _ hn => Assignment.value_map (mem_vars.2 hn) v

/-- The table of a formula within the limit. -/
def fullTable (f : Formula) : TruthTable :=
  ⟨f.vars, (List.range (rowCount f.vars.length)).map (TruthTable.row f f.vars)⟩

theorem table_of_le {limit : Int} {f : Formula} (h : f.vars.length ≤ limit) :
    f.table limit = .ok f.fullTable :=
  if_neg (not_lt.2 h)

theorem table_of_lt {limit : Int} {f : Formula} (h : limit < f.vars.length) :
    f.table limit = .error (.tooLarge f.vars.length limit) :=
  if_pos h

theorem rows_fullTable (f : Formula) :
    f.fullTable.rows = (Assignment.rows f.vars).map fun a => ⟨a, f.eval a.value⟩ := by
  rw [fullTable, Assignment.rows, List.map_map]
  rfl

/-- The results of the table are the values that the formula takes anywhere. -/
theorem mem_results_table {f : Formula} {b : Bool} :
    b ∈ f.fullTable.results ↔ ∃ a : Assignment, f.eval a.value = b := by
  rw [TruthTable.results, rows_fullTable, List.map_map, List.mem_map]
  constructor
  · rintro ⟨a, -, rfl⟩
    exact ⟨a, rfl⟩
  · rintro ⟨a, rfl⟩
    refine ⟨f.vars.map fun n => (n, a.value n), ?_, eval_restrict f a.value⟩
    rw [Assignment.mem_rows f.nodup_vars, List.map_map]
    exact List.map_id f.vars

theorem all_results_table {f : Formula} :
    f.fullTable.results.all id = true ↔ ∀ a : Assignment, f.eval a.value = true := by
  rw [List.all_eq_true]
  constructor
  · exact fun h a => h _ (mem_results_table.2 ⟨a, rfl⟩)
  · intro h b hb
    obtain ⟨a, rfl⟩ := mem_results_table.1 hb
    exact h a

theorem any_results_table {f : Formula} :
    f.fullTable.results.any id = true ↔ ∃ a : Assignment, f.eval a.value = true := by
  rw [List.any_eq_true, ← mem_results_table]
  exact ⟨fun ⟨b, hb, hid⟩ => hid ▸ hb, fun h => ⟨true, h, rfl⟩⟩

end Formula

/-! ## What the answers say -/

/-- The answer is given, and it is `true` exactly if the statement holds. -/
def Answers (x : Except TableError Bool) (p : Prop) : Prop := ∃ b, x = .ok b ∧ (b = true ↔ p)

/-- What a classification says about a formula. -/
def Classification.Describes (f : Formula) : Classification → Prop
  | tautology => ∀ a : Assignment, f.eval a.value = true
  | contradiction => ∀ a : Assignment, f.eval a.value = false
  | contingent =>
      (∃ a : Assignment, f.eval a.value = true) ∧ ∃ a : Assignment, f.eval a.value = false

/-- The assignments over the variables of a formula under which it has the value `b`, in the
    order of its table. -/
structure Formula.Lists (f : Formula) (b : Bool) (found : List Assignment) : Prop where
  mem : ∀ a, a ∈ found ↔ a.map Prod.fst = f.vars ∧ f.eval a.value = b
  nodup : found.Nodup
  ordered : found.Sublist (Assignment.rows f.vars)

namespace Formula

/-- Exactly the classification of the results describes the formula. -/
theorem describes_iff {f : Formula} {c : Classification} :
    c.Describes f ↔ c = .ofResults f.fullTable.results := by
  have hfalse : (∃ a : Assignment, f.eval a.value = false) ↔
      ¬ ∀ a : Assignment, f.eval a.value = true := by
    simp only [not_forall, Bool.not_eq_true]
  have hnever : (∀ a : Assignment, f.eval a.value = false) ↔
      ¬ ∃ a : Assignment, f.eval a.value = true := by
    simp only [not_exists, Bool.not_eq_true]
  have hsome : (∀ a : Assignment, f.eval a.value = true) →
      ∃ a : Assignment, f.eval a.value = true := fun h => ⟨[], h []⟩
  have hvalue : Classification.ofResults f.fullTable.results =
      if f.fullTable.results.all id then .tautology
      else if !f.fullTable.results.any id then .contradiction else .contingent := rfl
  by_cases hall : ∀ a : Assignment, f.eval a.value = true
  · rw [hvalue, if_pos (all_results_table.2 hall)]
    cases c with
    | tautology => exact iff_of_true hall rfl
    | contradiction => exact iff_of_false (fun h => hnever.1 h (hsome hall)) nofun
    | contingent => exact iff_of_false (fun h => hfalse.1 h.2 hall) nofun
  · rw [hvalue, if_neg (mt all_results_table.1 hall)]
    by_cases hany : ∃ a : Assignment, f.eval a.value = true
    · rw [any_results_table.2 hany, if_neg (by decide)]
      cases c with
      | tautology => exact iff_of_false hall nofun
      | contradiction => exact iff_of_false (fun h => hnever.1 h hany) nofun
      | contingent => exact iff_of_true ⟨hany, hfalse.2 hall⟩ rfl
    · rw [Bool.eq_false_iff.2 (mt any_results_table.1 hany), if_pos (by decide)]
      cases c with
      | tautology => exact iff_of_false hall nofun
      | contradiction => exact iff_of_true (hnever.2 hany) rfl
      | contingent => exact iff_of_false (fun h => hany h.1) nofun

variable {limit : Int} {f g : Formula}

theorem classify_of_le (h : f.vars.length ≤ limit) :
    f.classify limit = .ok (.ofResults f.fullTable.results) := by
  rw [classify, table_of_le h]
  rfl

theorem isTautology_of_le (h : f.vars.length ≤ limit) :
    Answers (f.isTautology limit) (∀ a : Assignment, f.eval a.value = true) := by
  refine ⟨Classification.ofResults f.fullTable.results == .tautology, ?_, ?_⟩
  · rw [isTautology, classify_of_le h]
    rfl
  · rw [beq_iff_eq, eq_comm, ← describes_iff]
    exact Iff.rfl

theorem isContradiction_of_le (h : f.vars.length ≤ limit) :
    Answers (f.isContradiction limit) (∀ a : Assignment, f.eval a.value = false) := by
  refine ⟨Classification.ofResults f.fullTable.results == .contradiction, ?_, ?_⟩
  · rw [isContradiction, classify_of_le h]
    rfl
  · rw [beq_iff_eq, eq_comm, ← describes_iff]
    exact Iff.rfl

theorem isSatisfiable_of_le (h : f.vars.length ≤ limit) :
    Answers (f.isSatisfiable limit) (∃ a : Assignment, f.eval a.value = true) := by
  refine ⟨f.fullTable.results.any id, ?_, any_results_table⟩
  rw [isSatisfiable, table_of_le h]
  rfl

theorem assignmentsGiving_of_le (h : f.vars.length ≤ limit) (b : Bool) :
    f.assignmentsGiving b limit =
      .ok ((Assignment.rows f.vars).filter fun a => f.eval a.value == b) := by
  have hrows : (f.fullTable.rows.filter (·.result == b)).map (·.assignment) =
      (Assignment.rows f.vars).filter fun a => f.eval a.value == b := by
    rw [rows_fullTable, List.filter_map, List.map_map]
    exact List.map_id _
  rw [assignmentsGiving, table_of_le h, ← hrows]
  rfl

theorem lists_assignmentsGiving (h : f.vars.length ≤ limit) (b : Bool) :
    ∃ found, f.assignmentsGiving b limit = .ok found ∧ f.Lists b found := by
  refine ⟨_, assignmentsGiving_of_le h b, ?_, ?_, List.filter_sublist⟩
  · intro a
    rw [List.mem_filter, Assignment.mem_rows f.nodup_vars, beq_iff_eq]
  · exact (Assignment.nodup_rows f.nodup_vars).filter _

/-! ## Beyond the limit -/

theorem classify_of_lt (h : limit < f.vars.length) :
    f.classify limit = .error (.tooLarge f.vars.length limit) := by
  rw [classify, table_of_lt h]
  rfl

theorem isTautology_of_lt (h : limit < f.vars.length) :
    f.isTautology limit = .error (.tooLarge f.vars.length limit) := by
  rw [isTautology, classify_of_lt h]
  rfl

theorem isContradiction_of_lt (h : limit < f.vars.length) :
    f.isContradiction limit = .error (.tooLarge f.vars.length limit) := by
  rw [isContradiction, classify_of_lt h]
  rfl

theorem isSatisfiable_of_lt (h : limit < f.vars.length) :
    f.isSatisfiable limit = .error (.tooLarge f.vars.length limit) := by
  rw [isSatisfiable, table_of_lt h]
  rfl

theorem assignmentsGiving_of_lt (h : limit < f.vars.length) (b : Bool) :
    f.assignmentsGiving b limit = .error (.tooLarge f.vars.length limit) := by
  rw [assignmentsGiving, table_of_lt h]
  rfl

/-! ## Two formulas -/

/-- There are as many variables as different atoms. -/
theorem length_vars (f : Formula) : f.vars.length = f.atoms.toFinset.card :=
  length_sortNames f.atoms

/-- The variables of a compound formula are those of both operands. -/
theorem length_vars_bin (c : Connective) (f g : Formula) :
    (bin c f g).vars.length = (f.vars.toFinset ∪ g.vars.toFinset).card := by
  have hset : (bin c f g).atoms.toFinset = f.vars.toFinset ∪ g.vars.toFinset := by
    ext n
    simp only [List.mem_toFinset, Finset.mem_union, mem_vars, atoms, List.mem_append]
  rw [length_vars, hset]

theorem eval_iff_eq_true (v : String → Bool) : (iff f g).eval v = true ↔ f.eval v = g.eval v := by
  rw [eval, Connective.holds, beq_iff_eq]

theorem eval_imp_eq_true (v : String → Bool) :
    (imp f g).eval v = true ↔ (f.eval v = true → g.eval v = true) := by
  rw [eval, Connective.holds]
  cases f.eval v <;> simp

theorem isEquivalent_of_le (h : (iff f g).vars.length ≤ limit) :
    Answers (f.isEquivalent limit g) (∀ a : Assignment, f.eval a.value = g.eval a.value) := by
  obtain ⟨b, hb, hmeans⟩ := isTautology_of_le h
  refine ⟨b, hb, hmeans.trans (forall_congr' fun a => ?_)⟩
  exact eval_iff_eq_true a.value

theorem entails_of_le (h : (imp f g).vars.length ≤ limit) :
    Answers (f.entails limit g)
      (∀ a : Assignment, f.eval a.value = true → g.eval a.value = true) := by
  obtain ⟨b, hb, hmeans⟩ := isTautology_of_le h
  refine ⟨b, hb, hmeans.trans (forall_congr' fun a => ?_)⟩
  exact eval_imp_eq_true a.value

/-! ## Which answers are given -/

/-- An answer is given exactly within the limit, and it is the right one. -/
theorem isTautology_eq_ok {b : Bool} : f.isTautology limit = .ok b ↔
    f.vars.length ≤ limit ∧ (b = true ↔ ∀ a : Assignment, f.eval a.value = true) := by
  by_cases h : f.vars.length ≤ limit
  · obtain ⟨answer, hanswer, hmeans⟩ := isTautology_of_le h
    rw [hanswer]
    constructor
    · intro hb
      obtain rfl := Except.ok.inj hb
      exact ⟨h, hmeans⟩
    · intro hb
      exact congrArg _ (Bool.eq_iff_iff.2 (hmeans.trans hb.2.symm))
  · rw [isTautology_of_lt (not_le.1 h)]
    exact iff_of_false nofun fun hb => h hb.1

theorem isEquivalent_eq_ok {b : Bool} : f.isEquivalent limit g = .ok b ↔
    (iff f g).vars.length ≤ limit ∧
      (b = true ↔ ∀ a : Assignment, f.eval a.value = g.eval a.value) := by
  rw [isEquivalent, isTautology_eq_ok]
  simp only [eval_iff_eq_true]

theorem entails_eq_ok {b : Bool} : f.entails limit g = .ok b ↔
    (imp f g).vars.length ≤ limit ∧
      (b = true ↔ ∀ a : Assignment, f.eval a.value = true → g.eval a.value = true) := by
  rw [entails, isTautology_eq_ok]
  simp only [eval_imp_eq_true]

end Formula

/-- The answers about one formula or two, under every limit: within the limit they are given
    and say what holds over all assignments; beyond it each of them fails with the number of
    variables and the limit. -/
theorem answers_over_all_assignments (limit : Int) (f g : Formula) :
    (f.vars.length ≤ limit →
      Answers (f.isTautology limit) (∀ a : Assignment, f.eval a.value = true) ∧
      Answers (f.isContradiction limit) (∀ a : Assignment, f.eval a.value = false) ∧
      Answers (f.isSatisfiable limit) (∃ a : Assignment, f.eval a.value = true) ∧
      (∃ c, f.classify limit = .ok c ∧ ∀ d : Classification, d.Describes f ↔ d = c) ∧
      (∃ found, f.models limit = .ok found ∧ f.Lists true found) ∧
      ∃ found, f.counterModels limit = .ok found ∧ f.Lists false found) ∧
    ((f.vars.toFinset ∪ g.vars.toFinset).card ≤ limit →
      Answers (f.isEquivalent limit g) (∀ a : Assignment, f.eval a.value = g.eval a.value) ∧
      Answers (f.entails limit g)
        (∀ a : Assignment, f.eval a.value = true → g.eval a.value = true)) ∧
    (limit < f.vars.length →
      f.isTautology limit = .error (.tooLarge f.vars.length limit) ∧
      f.isContradiction limit = .error (.tooLarge f.vars.length limit) ∧
      f.isSatisfiable limit = .error (.tooLarge f.vars.length limit) ∧
      f.classify limit = .error (.tooLarge f.vars.length limit) ∧
      f.models limit = .error (.tooLarge f.vars.length limit) ∧
      f.counterModels limit = .error (.tooLarge f.vars.length limit)) ∧
    (limit < (f.vars.toFinset ∪ g.vars.toFinset).card →
      f.isEquivalent limit g =
        .error (.tooLarge (f.vars.toFinset ∪ g.vars.toFinset).card limit) ∧
      f.entails limit g =
        .error (.tooLarge (f.vars.toFinset ∪ g.vars.toFinset).card limit)) := by
  have hiff := Formula.length_vars_bin .iff f g
  have himp := Formula.length_vars_bin .implies f g
  refine ⟨fun h => ?_, fun h => ?_, fun h => ?_, fun h => ?_⟩
  · exact ⟨Formula.isTautology_of_le h, Formula.isContradiction_of_le h,
      Formula.isSatisfiable_of_le h, ⟨_, Formula.classify_of_le h, fun d => Formula.describes_iff⟩,
      Formula.lists_assignmentsGiving h true, Formula.lists_assignmentsGiving h false⟩
  · exact ⟨Formula.isEquivalent_of_le (hiff ▸ h), Formula.entails_of_le (himp ▸ h)⟩
  · exact ⟨Formula.isTautology_of_lt h, Formula.isContradiction_of_lt h,
      Formula.isSatisfiable_of_lt h, Formula.classify_of_lt h, Formula.assignmentsGiving_of_lt h true,
      Formula.assignmentsGiving_of_lt h false⟩
  · refine ⟨?_, ?_⟩
    · rw [← hiff] at h ⊢
      exact Formula.isTautology_of_lt h
    · rw [← himp] at h ⊢
      exact Formula.isTautology_of_lt h

/-- Two equivalent formulas with different variables, under a limit that holds both. -/
theorem answers_over_all_assignments_absorbed :
    ((Formula.vars (.atom "P")).toFinset ∪
        (Formula.vars (.conj (.atom "P") (.disj (.atom "Q") (.neg (.atom "Q"))))).toFinset).card ≤
      (2 : Int) ∧
    Answers ((Formula.atom "P").isEquivalent 2
        (.conj (.atom "P") (.disj (.atom "Q") (.neg (.atom "Q")))))
      (∀ a : Assignment, (Formula.atom "P").eval a.value =
        (Formula.conj (.atom "P") (.disj (.atom "Q") (.neg (.atom "Q")))).eval a.value) :=
  ⟨by decide, ((answers_over_all_assignments 2 (.atom "P")
    (.conj (.atom "P") (.disj (.atom "Q") (.neg (.atom "Q"))))).2.1 (by decide)).1⟩

end PropTutor
