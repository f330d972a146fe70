/-
  The rows of a truth table count down, and a table is either complete or refused.

  Row `i` over `n` names holds the digits of `2 ^ n - 1 - i` (`rowValues_eq_counter`), so the
  rows decrease in the lexicographic order in which the first name counts most
  (`rowValues_lex`), from the assignment that makes every name true to the one that makes every
  name false. A table is refused for columns that are missing before the limit is looked at;
  otherwise it is refused exactly if it has more columns than the limit, and if it is not
  refused it has every row (`table_counts_down_or_is_refused`).
-/
import Mathlib.Data.Set.Function
import PropTutor.Proofs.Action
import PropTutor.Proofs.Semantics.Answers

namespace PropTutor

/-! ## Rows as a binary counter -/

theorem rowCount_add (m n : Nat) : rowCount (m + n) = rowCount m * rowCount n := Nat.pow_add 2 m n

/-- The name at place `j` of `n` names is true where the bit of its weight in the index is
    zero. -/
theorem rowValues_eq_map (n : Nat) (i : Int) :
    rowValues n i = (List.range n).map fun j => i / rowCount (n - 1 - j) % 2 == 0 := by
  induction n with
  | zero => rfl
  | succ n ih =>
    have hplaces (j : Nat) : n - 1 - j = n - Nat.succ j := by omega
    rw [rowValues, ih, List.range_succ_eq_map, List.map_cons, List.map_map]
    simp only [Function.comp_def, hplaces, Nat.add_sub_cancel, Nat.sub_zero]

/-- A number counted down from minus one has the complement of its quotient. -/
theorem neg_one_sub_ediv {m : Int} (hm : 0 < m) (i : Int) : (-1 - i) / m = -1 - i / m := by
  have hdiv := Int.emod_add_mul_ediv i m
  have hpos := Int.emod_nonneg i (Int.ne_of_gt hm)
  have hlt := Int.emod_lt_of_pos i hm
  refine ((Int.ediv_emod_unique hm).2 ⟨?_, ?_, ?_⟩ : _ ∧ (-1 - i) % m = m - 1 - i % m).1
  · rw [Int.mul_sub, Int.mul_neg, Int.mul_one]
    omega
  · omega
  · omega

/-- A digit of the number that runs down is the complement of the digit of the index. -/
theorem counter_digit {n k : Nat} (hk : k < n) (i : Int) :
    ((rowCount n - 1 - i) >>> k % 2 == 1) = (i / rowCount k % 2 == 0) := by
  have hpos : (0 : Int) < rowCount k := by have := rowCount_pos k; omega
  have hcount : rowCount n = 2 * rowCount (n - 1 - k) * rowCount k := by
    rw [← rowCount_succ, ← rowCount_add]
    congr 1
    omega
  have hsplit : (rowCount n - 1 - i : Int) =
      -1 - i + 2 * (rowCount (n - 1 - k) : Int) * rowCount k := by
    rw [hcount]
    push_cast
    omega
  have hshift : (rowCount n - 1 - i : Int) >>> k =
      -1 - i / rowCount k + 2 * (rowCount (n - 1 - k) : Int) := by
    rw [Int.shiftRight_eq_div_pow, hsplit]
    show _ / (rowCount k : Int) = _
    rw [Int.add_mul_ediv_right _ _ (Int.ne_of_gt hpos), neg_one_sub_ediv hpos]
  rw [hshift, Bool.eq_iff_iff, beq_iff_eq, beq_iff_eq]
  omega

/-- Row `i` over `n` names holds the `n` digits of `2 ^ n - 1 - i`, the greatest first. -/
theorem rowValues_eq_counter (n : Nat) (i : Int) :
    rowValues n i =
      (List.range n).map fun j => (rowCount n - 1 - i) >>> (n - 1 - j) % 2 == 1 := by
  rw [rowValues_eq_map]
  refine List.map_congr_left fun j hj => ?_
  have hlt := List.mem_range.1 hj
  exact (counter_digit (by omega) i).symm

/-! ## The order of the rows -/

/-- Rows decrease in the lexicographic order. -/
theorem rowValues_lex {n i j : Nat} (hij : i < j) (hj : j < rowCount n) :
    List.Lex (· < ·) (rowValues n j) (rowValues n i) := by
  induction n generalizing i j with
  | zero =>
    have hone : rowCount 0 = 1 := rfl
    omega
  | succ n ih =>
    rcases exists_half hj with hjlt | ⟨k, hk, rfl⟩
    · rw [rowValues_succ_of_lt hjlt, rowValues_succ_of_lt (Nat.lt_trans hij hjlt)]
      exact .cons (ih hij hjlt)
    · rw [rowValues_succ_add hk]
      rcases exists_half (Nat.lt_trans hij hj) with hi | ⟨l, hl, rfl⟩
      · rw [rowValues_succ_of_lt hi]
        exact .rel (by decide)
      · rw [rowValues_succ_add hl]
        exact .cons (ih (by omega) hk)

theorem rowIndex_replicate_true (n : Nat) : rowIndex (List.replicate n true) = 0 := by
  induction n with
  | zero => rfl
  | succ n ih => rw [List.replicate_succ, rowIndex, if_pos rfl, ih]

theorem rowIndex_replicate_false (n : Nat) :
    rowIndex (List.replicate n false) + 1 = rowCount n := by
  induction n with
  | zero => rfl
  | succ n ih =>
    rw [List.replicate_succ, rowIndex, if_neg Bool.false_ne_true, List.length_replicate,
      rowCount_succ]
    omega

namespace Assignment

/-- At the first name on which they differ, the first assignment is false and the second one
    true. -/
def Below (a b : Assignment) : Prop := List.Lex (· < ·) (a.map Prod.snd) (b.map Prod.snd)

theorem below_ofRow {names : List String} (h : names.Nodup) {i j : Nat} (hij : i < j)
    (hj : j < rowCount names.length) : (ofRow names j).Below (ofRow names i) := by
  rw [Below, values_ofRow h, values_ofRow h]
  exact rowValues_lex hij hj

/-- Each row of a table stands below all rows before it. -/
theorem pairwise_rows {names : List String} (h : names.Nodup) :
    (rows names).Pairwise fun a b => b.Below a := by
  rw [rows, List.pairwise_map]
  refine List.pairwise_lt_range.imp_of_mem ?_
  intro i j _ hj hij
  exact below_ofRow h hij (List.mem_range.1 hj)

/-- The rows of a table are the assignments over its names, one row for each. -/
theorem bijOn_ofRow {names : List String} (h : names.Nodup) :
    Set.BijOn (fun i : Nat => ofRow names i) {i | i < rowCount names.length}
      {a | a.map Prod.fst = names} := by
  refine ⟨fun i _ => names_ofRow h i, fun i hi j hj heq => ofRow_inj h hi hj heq, ?_⟩
  rintro a rfl
  obtain ⟨i, hi, hrow⟩ := exists_ofRow h
  exact ⟨i, hi, hrow⟩

/-- The assignment that gives every name the same value stands in the row of that value. -/
theorem ofRow_replicate {names : List String} (h : names.Nodup) (b : Bool) :
    ofRow names (rowIndex (List.replicate names.length b)) = names.map fun n => (n, b) := by
  have hnames : (names.map fun n => (n, b)).map Prod.fst = names := by
    rw [List.map_map]
    exact List.map_id names
  have hvalues : (names.map fun n => (n, b)).map Prod.snd = List.replicate names.length b := by
    rw [List.map_map]
    exact List.map_const'
  have hrow := ofRow_rowIndex (a := names.map fun n => (n, b)) (hnames.symm ▸ h)
  rwa [hnames, hvalues] at hrow

theorem ofRow_zero {names : List String} (h : names.Nodup) :
    ofRow names 0 = names.map fun n => (n, true) := by
  have hrow := ofRow_replicate h true
  rwa [rowIndex_replicate_true] at hrow

theorem ofRow_last {names : List String} (h : names.Nodup) :
    ofRow names (rowCount names.length - 1 : Nat) = names.map fun n => (n, false) := by
  have hrow := ofRow_replicate h false
  have hindex := rowIndex_replicate_false names.length
  rwa [show rowIndex (List.replicate names.length false) = rowCount names.length - 1 by omega]
    at hrow

/-- An index outside the table stands for the one that it leaves as a remainder. -/
theorem ofRow_emod (names : List String) (i : Int) :
    ofRow names i = ofRow names (i % rowCount names.length) := by
  have hvalues : rowValues names.length i = rowValues names.length (i % rowCount names.length) := by
    conv => lhs; rw [← Int.emod_add_ediv_mul i (rowCount names.length), rowValues_add_mul]
  rw [ofRow, ofRow, hvalues]

end Assignment

/-! ## Columns -/

namespace TruthTable

/-- The names for the columns of a table: the given ones, or else the formula's own. -/
def requested (f : Formula) (names : Option (List String)) : List String := names.getD f.atoms

theorem columns_of_subset {f : Formula} {names : Option (List String)}
    (h : ∀ a ∈ f.atoms, a ∈ requested f names) :
    columns f names = .ok (sortNames (requested f names)) := by
  cases names with
  | none => rfl
  | some names =>
    have hmissing : (f.vars.filter fun n => !(sortNames names).contains n) = [] := by
      rw [List.filter_eq_nil_iff]
      intro n hn
      have hmem : n ∈ sortNames names := mem_sortNames.2 (h n (Formula.mem_vars.1 hn))
      simp [hmem]
    simp only [columns, hmissing, List.isEmpty_nil, if_pos]
    rfl

/-- The missing columns are the formula's atoms that are not among the given names, in
    order. -/
theorem columns_of_missing {f : Formula} {names : Option (List String)}
    (h : ∃ a ∈ f.atoms, a ∉ requested f names) :
    ∃ missing, columns f names = .error (.missingColumns missing) ∧
      missing.Pairwise (· < ·) ∧ ∀ a, a ∈ missing ↔ a ∈ f.atoms ∧ a ∉ requested f names := by
  obtain ⟨a, ha, hnot⟩ := h
  cases names with
  | none => exact absurd ha hnot
  | some names =>
    have hmem (b : String) : b ∈ (f.vars.filter fun n => !(sortNames names).contains n) ↔
        b ∈ f.atoms ∧ b ∉ names := by
      rw [List.mem_filter, Formula.mem_vars, Bool.not_eq_true', List.contains_eq_mem,
        decide_eq_false_iff_not, mem_sortNames]
    have hne : (f.vars.filter fun n => !(sortNames names).contains n).isEmpty = false :=
      List.isEmpty_eq_false_iff_exists_mem.2 ⟨a, (hmem a).2 ⟨ha, hnot⟩⟩
    refine ⟨_, ?_, (pairwise_sortNames f.atoms).filter _, hmem⟩
    simp only [columns, hne]
    exact if_neg Bool.false_ne_true

/-! ## Tables -/

/-- A complete table of the formula over the names. -/
structure Complete (t : TruthTable) (f : Formula) (names : List String) : Prop where
  increasing : t.names.Pairwise (· < ·)
  mem : ∀ n, n ∈ t.names ↔ n ∈ names
  count : t.rows.length = rowCount t.names.length
  row : ∀ i < rowCount t.names.length, t.rows[i]? =
    some ⟨Assignment.ofRow t.names i, f.eval (Assignment.ofRow t.names i).value⟩

theorem complete_rows (f : Formula) (names : List String) :
    Complete ⟨sortNames names, (List.range (rowCount (sortNames names).length)).map
      (row f (sortNames names))⟩ f names := by
  refine ⟨pairwise_sortNames names, fun _ => mem_sortNames, ?_, fun i hi => ?_⟩
  · rw [List.length_map, List.length_range]
  · rw [List.getElem?_map, List.getElem?_range hi]
    rfl

variable {limit : Int} {f : Formula} {names : Option (List String)}

theorem build_of_subset (h : ∀ a ∈ f.atoms, a ∈ requested f names) :
    build limit f names = tabulate limit f (sortNames (requested f names)) := by
  rw [build, columns_of_subset h]
  rfl

theorem build_of_lt (h : ∀ a ∈ f.atoms, a ∈ requested f names)
    (hlt : limit < (requested f names).toFinset.card) :
    build limit f names = .error (.tooLarge (requested f names).toFinset.card limit) := by
  rw [build_of_subset h, tabulate, length_sortNames, if_pos hlt]

theorem build_of_le (h : ∀ a ∈ f.atoms, a ∈ requested f names)
    (hle : (requested f names).toFinset.card ≤ limit) :
    ∃ t, build limit f names = .ok t ∧ t.Complete f (requested f names) := by
  refine ⟨_, ?_, complete_rows f (requested f names)⟩
  rw [build_of_subset h, tabulate, length_sortNames, if_neg (not_lt.2 hle)]

/-- Under settings the action ends as the table does under their limit. -/
theorem result_action (f : Formula) (names : Option (List String)) (settings : Settings) :
    ((action f names).run (.ok settings)).result =
      (build settings.maxVariables f names).mapError .table := by
  rw [action, Action.result_bind, Action.result_ofTable, build]
  cases columns f names with
  | error e => rfl
  | ok sorted => exact Action.result_tabulating _ settings

/-- Missing columns are reported before the settings are asked for, and nothing is logged. -/
theorem run_action_of_missing {missing : List String}
    (h : columns f names = .error (.missingColumns missing)) (s : Except SettingsError Settings) :
    (action f names).run s = ⟨.error (.table (.missingColumns missing)), []⟩ := by
  rw [action, h]
  rfl

end TruthTable

/-- The rows over distinct names are the assignments over these names, each once; they count
    down as the digits of `2 ^ n - 1 - i`, from the row that makes every name true to the one
    that makes every name false, and an index outside the table counts modulo `2 ^ n`.

    A table whose columns miss atoms of its formula is refused with these atoms in order,
    whatever the limit and even without settings. Otherwise it is refused with the number of its
    columns exactly if there are more of them than the limit, and if not it has the sorted names
    for columns and every row. -/
theorem table_counts_down_or_is_refused :
    (∀ names : List String, names.Nodup →
      Set.BijOn (fun i : Nat => Assignment.ofRow names i) {i | i < rowCount names.length}
        {a | a.map Prod.fst = names} ∧
      (∀ i j : Nat, i < j → j < rowCount names.length →
        (Assignment.ofRow names j).Below (Assignment.ofRow names i)) ∧
      Assignment.ofRow names 0 = (names.map fun n => (n, true)) ∧
      Assignment.ofRow names (rowCount names.length - 1 : Nat) = (names.map fun n => (n, false)) ∧
      ∀ i : Int, Assignment.ofRow names i = Assignment.ofRow names (i % rowCount names.length) ∧
        (Assignment.ofRow names i).map Prod.snd = (List.range names.length).map fun j =>
          (rowCount names.length - 1 - i) >>> (names.length - 1 - j) % 2 == 1) ∧
    ∀ (f : Formula) (names : Option (List String)),
      ((∃ a ∈ f.atoms, a ∉ TruthTable.requested f names) → ∃ missing : List String,
        missing.Pairwise (· < ·) ∧
        (∀ a, a ∈ missing ↔ a ∈ f.atoms ∧ a ∉ TruthTable.requested f names) ∧
        (∀ limit, TruthTable.build limit f names = .error (.missingColumns missing)) ∧
        ∀ s, (TruthTable.action f names).run s =
          ⟨.error (.table (.missingColumns missing)), []⟩) ∧
      ((∀ a ∈ f.atoms, a ∈ TruthTable.requested f names) → ∀ limit : Int,
        (limit < (TruthTable.requested f names).toFinset.card →
          TruthTable.build limit f names =
            .error (.tooLarge (TruthTable.requested f names).toFinset.card limit)) ∧
        ((TruthTable.requested f names).toFinset.card ≤ limit → ∃ t : TruthTable,
          TruthTable.build limit f names = .ok t ∧
          t.Complete f (TruthTable.requested f names))) ∧
      ∀ settings : Settings, ((TruthTable.action f names).run (.ok settings)).result =
        (TruthTable.build settings.maxVariables f names).mapError .table := by
  refine ⟨fun names h => ⟨Assignment.bijOn_ofRow h, fun i j => Assignment.below_ofRow h,
    Assignment.ofRow_zero h, Assignment.ofRow_last h, fun i => ⟨Assignment.ofRow_emod names i, ?_⟩⟩,
    fun f names => ⟨fun h => ?_, fun h limit => ⟨TruthTable.build_of_lt h,
      TruthTable.build_of_le h⟩, TruthTable.result_action f names⟩⟩
  · rw [Assignment.values_ofRow h, rowValues_eq_counter]
  · obtain ⟨missing, hcolumns, hsorted, hmem⟩ := TruthTable.columns_of_missing h
    refine ⟨missing, hsorted, hmem, fun limit => ?_, TruthTable.run_action_of_missing hcolumns⟩
    rw [TruthTable.build, hcolumns]
    rfl

/-- Row `-2` over three names that are out of order, columns that miss two atoms under a limit
    that is exceeded as well, and a table over one name more than the formula has. -/
theorem table_counts_down_or_is_refused_extra_column :
    ["Q", "R", "P"].Nodup ∧
    Assignment.ofRow ["Q", "R", "P"] (-2) = Assignment.ofRow ["Q", "R", "P"] 6 ∧
    (∃ missing : List String, missing.Pairwise (· < ·) ∧ "B" ∈ missing ∧ "P" ∉ missing ∧
      TruthTable.build 0 (.conj (.atom "C") (.disj (.atom "B") (.atom "P"))) (some ["P", "P"]) =
        .error (.missingColumns missing)) ∧
    TruthTable.build 1 (.neg (.atom "Q")) (some ["R", "Q", "R"]) = .error (.tooLarge 2 1) ∧
    ∃ t : TruthTable, TruthTable.build 2 (.neg (.atom "Q")) (some ["R", "Q", "R"]) = .ok t ∧
      t.Complete (.neg (.atom "Q")) ["R", "Q", "R"] := by
  have hnodup : ["Q", "R", "P"].Nodup := by decide
  obtain ⟨-, -, -, -, hmod⟩ := table_counts_down_or_is_refused.1 ["Q", "R", "P"] hnodup
  have hmissing := (table_counts_down_or_is_refused.2 (.conj (.atom "C")
    (.disj (.atom "B") (.atom "P"))) (some ["P", "P"])).1 ⟨"B", by decide, by decide⟩
  have htable := (table_counts_down_or_is_refused.2 (.neg (.atom "Q"))
    (some ["R", "Q", "R"])).2.1 (by decide)
  obtain ⟨missing, hsorted, hmem, hbuild, -⟩ := hmissing
  exact ⟨hnodup, (hmod (-2)).1, ⟨missing, hsorted, (hmem "B").2 (by decide),
    fun h => absurd ((hmem "P").1 h) (by decide), hbuild 0⟩, (htable 1).1 (by decide),
    (htable 2).2 (by decide)⟩

end PropTutor
