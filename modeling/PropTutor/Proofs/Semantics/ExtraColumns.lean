/-
  Columns that a formula ignores.

  The columns of a table may be more names than the formula has, and in the sorted order they stand
  anywhere among its own. One more name doubles the rows (`Assignment.rows_cons`). If it is not a
  name of the formula, the two halves look alike without it, and if it is one, they have no row in
  common. So, by induction on the columns, every row of the formula's own table comes from equally
  many rows of the wide one (`Assignment.countP_restrictedRows`), and the rows of the wide table
  without the extra columns, each where it occurs first, are the rows of the own table in their
  order (`Assignment.eraseDups_restrictedRows`). The value of the formula does not depend on the
  extra columns, so what a table says about it does not either (`extra_columns_keep_answer`).
-/
import Mathlib.Algebra.Order.Field.Rat
import PropTutor.Proofs.Semantics.Tabulation
import PropTutor.Proofs.Semantics.Variables

namespace PropTutor

/-! ## First occurrences -/

section

variable {α β : Type}

/-- Items that are compared through a function are the first ones of their kind in the image. -/
theorem eraseDupsBy_map (same : β → β → Bool) (f : α → β) (xs : List α) :
    (xs.map f).eraseDupsBy same = (xs.eraseDupsBy fun a b => same (f a) (f b)).map f := by
  match xs with
  | [] => rfl
  | x :: xs =>
    rw [List.map_cons, List.eraseDupsBy_cons, List.eraseDupsBy_cons, List.map_cons,
      List.filter_map, eraseDupsBy_map same f (xs.filter _)]
    rfl
termination_by xs.length
decreasing_by exact Nat.lt_succ_of_le (List.length_filter_le _ _)

variable [BEq α] [LawfulBEq α]

theorem eraseDups_append_self (xs : List α) : (xs ++ xs).eraseDups = xs.eraseDups := by
  have hnone : xs.removeAll xs = [] :=
    List.filter_eq_nil_iff.2 fun x hx => by rw [List.elem_eq_true_of_mem hx]; decide
  rw [List.eraseDups_append, hnone, List.eraseDups_nil, List.append_nil]

theorem eraseDups_append_of_disjoint {xs ys : List α} (h : ∀ y ∈ ys, y ∉ xs) :
    (xs ++ ys).eraseDups = xs.eraseDups ++ ys.eraseDups := by
  have hall : ys.removeAll xs = ys :=
    List.filter_eq_self.2 fun y hy => by
      rw [List.elem_eq_contains, List.contains_eq_mem, decide_eq_false (h y hy)]
      rfl
  rw [List.eraseDups_append, hall]

theorem eraseDups_map_cons (x : α) (xs : List (List α)) :
    (xs.map (List.cons x)).eraseDups = xs.eraseDups.map (List.cons x) := by
  have hsame : (fun a b : List α => x :: a == x :: b) = fun a b => a == b := by
    funext a b
    rw [List.cons_beq_cons, beq_self_eq_true, Bool.true_and]
  rw [List.eraseDups, eraseDupsBy_map, hsame]
  rfl

end

namespace Assignment

variable {kept names : List String} {n : String}

/-! ## Parts of assignments -/

/-- The part of an assignment on these names. -/
def restrict (kept : List String) (a : Assignment) : Assignment := a.filter fun p => p.1 ∈ kept

theorem restrict_cons_of_mem (h : n ∈ kept) (b : Bool) (a : Assignment) :
    restrict kept ((n, b) :: a) = (n, b) :: restrict kept a :=
  List.filter_cons_of_pos (decide_eq_true h)

theorem restrict_cons_of_notMem (h : n ∉ kept) (b : Bool) (a : Assignment) :
    restrict kept ((n, b) :: a) = restrict kept a :=
  List.filter_cons_of_neg (ne_true_of_eq_false (decide_eq_false h))

theorem names_restrict (kept : List String) (a : Assignment) :
    (a.restrict kept).map Prod.fst = (a.map Prod.fst).filter (· ∈ kept) := by
  rw [restrict, List.filter_map]
  rfl

theorem value_restrict (h : n ∈ kept) (a : Assignment) : (a.restrict kept).value n = a.value n := by
  induction a with
  | nil => rfl
  | cons p a ih =>
    obtain ⟨m, b⟩ := p
    by_cases hm : m ∈ kept
    · rw [restrict_cons_of_mem hm, value, value, List.lookup_cons, List.lookup_cons]
      cases n == m with
      | true => rfl
      | false => exact ih
    · have hne : (n == m) = false := beq_eq_false_iff_ne.2 fun heq => hm (heq ▸ h)
      rw [restrict_cons_of_notMem hm, ih, value, value, List.lookup_cons, hne]

/-- An assignment over distinct names is determined by its values. -/
theorem map_value_names {a : Assignment} (h : (a.map Prod.fst).Nodup) :
    ((a.map Prod.fst).map fun n => (n, a.value n)) = a := by
  induction a with
  | nil => rfl
  | cons p a ih =>
    obtain ⟨m, b⟩ := p
    obtain ⟨hm, ha⟩ := List.nodup_cons.1 h
    have hhead : value ((m, b) :: a) m = b := by
      rw [value, List.lookup_cons, beq_self_eq_true]
      rfl
    have htail : ∀ n ∈ a.map Prod.fst, (n, value ((m, b) :: a) n) = (n, value a n) := by
      intro n hn
      have hne : (n == m) = false := beq_eq_false_iff_ne.2 fun heq => hm (heq ▸ hn)
      rw [value, List.lookup_cons, hne]
      rfl
    rw [List.map_cons, List.map_cons, hhead, List.map_congr_left htail, ih ha]

/-- The part of an assignment on distinct names is the assignment over these names with the same
    values. -/
theorem restrict_eq_iff {a b : Assignment} (hb : (b.map Prod.fst).Nodup)
    (ha : (a.restrict (b.map Prod.fst)).map Prod.fst = b.map Prod.fst) :
    a.restrict (b.map Prod.fst) = b ↔ ∀ n ∈ b.map Prod.fst, value a n = value b n := by
  constructor
  · intro h n hn
    rw [← value_restrict hn, h]
  · intro h
    have hvalues : ∀ n ∈ b.map Prod.fst,
        (n, (a.restrict (b.map Prod.fst)).value n) = (n, value b n) := fun n hn => by
      rw [value_restrict hn, h n hn]
    have hrestricted := map_value_names (ha.symm ▸ hb)
    rw [ha, List.map_congr_left hvalues, map_value_names hb] at hrestricted
    exact hrestricted.symm

/-! ## One more name -/

theorem rows_cons (h : (n :: names).Nodup) : rows (n :: names) =
    (rows names).map (List.cons (n, true)) ++ (rows names).map (List.cons (n, false)) := by
  have hnames := (List.nodup_cons.1 h).2
  rw [rows, List.length_cons, rowCount_succ, Nat.two_mul, List.range_add, List.map_append,
    List.map_map, rows, List.map_map, List.map_map]
  congr 1
  · refine List.map_congr_left fun i hi => ?_
    rw [ofRow_of_nodup h, List.length_cons, rowValues_succ_of_lt (List.mem_range.1 hi),
      List.zip_cons_cons, ← ofRow_of_nodup hnames]
    rfl
  · refine List.map_congr_left fun i hi => ?_
    rw [Function.comp_apply, Nat.add_comm, ofRow_of_nodup h, List.length_cons,
      rowValues_succ_add (List.mem_range.1 hi), List.zip_cons_cons, ← ofRow_of_nodup hnames]
    rfl

/-- The rows over these names without the columns that are not kept. -/
def restrictedRows (kept names : List String) : List Assignment :=
  (rows names).map (restrict kept)

theorem restrictedRows_cons_of_mem (h : (n :: names).Nodup) (hn : n ∈ kept) :
    restrictedRows kept (n :: names) =
      (restrictedRows kept names).map (List.cons (n, true)) ++
        (restrictedRows kept names).map (List.cons (n, false)) := by
  simp only [restrictedRows, rows_cons h, List.map_append, List.map_map, Function.comp_def,
    restrict_cons_of_mem hn]

theorem restrictedRows_cons_of_notMem (h : (n :: names).Nodup) (hn : n ∉ kept) :
    restrictedRows kept (n :: names) = restrictedRows kept names ++ restrictedRows kept names := by
  simp only [restrictedRows, rows_cons h, List.map_append, List.map_map, Function.comp_def,
    restrict_cons_of_notMem hn]

/-! ## All names -/

/-- Each where it occurs first, the restricted rows are the rows over the names that are kept. -/
theorem eraseDups_restrictedRows (h : names.Nodup) :
    (restrictedRows kept names).eraseDups = rows (names.filter (· ∈ kept)) := by
  induction names with
  | nil => rfl
  | cons n names ih =>
    have ih := ih (List.nodup_cons.1 h).2
    by_cases hn : n ∈ kept
    · have hfilter : (n :: names).filter (· ∈ kept) = n :: names.filter (· ∈ kept) :=
        List.filter_cons_of_pos (decide_eq_true hn)
      have hnodup : (n :: names.filter (· ∈ kept)).Nodup := hfilter ▸ h.filter _
      rw [restrictedRows_cons_of_mem h hn, eraseDups_append_of_disjoint, eraseDups_map_cons,
        eraseDups_map_cons, ih, hfilter, rows_cons hnodup]
      intro a ha ha'
      obtain ⟨b, -, rfl⟩ := List.mem_map.1 ha
      obtain ⟨c, -, heq⟩ := List.mem_map.1 ha'
      cases (List.cons.inj heq).1
    · have hfilter : (n :: names).filter (· ∈ kept) = names.filter (· ∈ kept) :=
        List.filter_cons_of_neg (ne_true_of_eq_false (decide_eq_false hn))
      rw [restrictedRows_cons_of_notMem h hn, eraseDups_append_self, ih, hfilter]

/-- Every row over the names that are kept is a restricted row as many times as there are rows over
    the other names. -/
theorem countP_restrictedRows (h : names.Nodup) (p : Assignment → Bool) :
    (restrictedRows kept names).countP p =
      rowCount (names.filter (· ∉ kept)).length * (rows (names.filter (· ∈ kept))).countP p := by
  induction names generalizing p with
  | nil => exact (Nat.one_mul _).symm
  | cons n names ih =>
    have ih := ih (List.nodup_cons.1 h).2
    by_cases hn : n ∈ kept
    · have hfilter : (n :: names).filter (· ∈ kept) = n :: names.filter (· ∈ kept) :=
        List.filter_cons_of_pos (decide_eq_true hn)
      have hother : (n :: names).filter (· ∉ kept) = names.filter (· ∉ kept) :=
        List.filter_cons_of_neg (by simp [hn])
      have hnodup : (n :: names.filter (· ∈ kept)).Nodup := hfilter ▸ h.filter _
      rw [restrictedRows_cons_of_mem h hn, hfilter, hother, rows_cons hnodup, List.countP_append,
        List.countP_append, List.countP_map, List.countP_map, List.countP_map, List.countP_map,
        ih, ih, Nat.mul_add]
    · have hfilter : (n :: names).filter (· ∈ kept) = names.filter (· ∈ kept) :=
        List.filter_cons_of_neg (ne_true_of_eq_false (decide_eq_false hn))
      have hother : (n :: names).filter (· ∉ kept) = n :: names.filter (· ∉ kept) :=
        List.filter_cons_of_pos (by simp [hn])
      rw [restrictedRows_cons_of_notMem h hn, hfilter, hother, List.length_cons, rowCount_succ,
        List.countP_append, ih, Nat.mul_assoc, Nat.two_mul]

end Assignment

/-! ## Tables -/

theorem Classification.ofResults_congr {xs ys : List Bool} (h : ∀ b, b ∈ xs ↔ b ∈ ys) :
    ofResults xs = ofResults ys := by
  have hall : xs.all id = ys.all id := by
    rw [Bool.eq_iff_iff, List.all_eq_true, List.all_eq_true]
    exact forall_congr' fun b => imp_congr_left (h b)
  have hany : xs.any id = ys.any id := by
    rw [Bool.eq_iff_iff, List.any_eq_true, List.any_eq_true]
    exact exists_congr fun b => and_congr_left' (h b)
  rw [ofResults, ofResults, hall, hany]

namespace Formula

variable {f : Formula} {names : List String}

/-- Of the names of a table the formula's own ones are its variables. -/
theorem filter_mem_vars (h : ∀ n ∈ f.atoms, n ∈ names) :
    (sortNames names).filter (· ∈ f.vars) = f.vars := by
  refine List.Pairwise.eq_of_mem_iff ((pairwise_sortNames names).filter _)
    (pairwise_sortNames f.atoms) fun n => ?_
  rw [List.mem_filter, decide_eq_true_eq, mem_sortNames]
  exact and_iff_right_of_imp fun hn => h n (mem_vars.1 hn)

theorem length_filter_notMem_vars (h : ∀ n ∈ f.atoms, n ∈ names) :
    ((sortNames names).filter (· ∉ f.vars)).length = names.toFinset.card - f.vars.length := by
  have hsum := List.length_eq_length_filter_add (l := sortNames names) fun n => decide (n ∈ f.vars)
  rw [filter_mem_vars h, length_sortNames] at hsum
  simp only [decide_not]
  omega

theorem eval_restrict_vars (f : Formula) (a : Assignment) :
    f.eval (a.restrict f.vars).value = f.eval a.value :=
  eval_congr fun _ hn => Assignment.value_restrict (mem_vars.2 hn) a

end Formula

namespace TruthTable

/-- The row without the columns that are not kept. -/
def Row.restrict (kept : List String) (r : Row) : Row := ⟨r.assignment.restrict kept, r.result⟩

/-- The rows give the same values to these names. -/
def Row.Agrees (names : List String) (r s : Row) : Prop :=
  ∀ n ∈ names, r.assignment.value n = s.assignment.value n

instance (names : List String) (r s : Row) : Decidable (r.Agrees names s) :=
  inferInstanceAs (Decidable (∀ n ∈ names, _))

/-- The wide table says the same as the other one over `names`, each row as often as there are
    values of `extra` more names. -/
structure Widens (wide own : TruthTable) (names : List String) (extra : Nat) : Prop where
  row : ∀ r ∈ wide.rows, ∃ s ∈ own.rows, r.Agrees names s ∧ r.result = s.result ∧
    ∀ s' ∈ own.rows, r.Agrees names s' → s' = s
  matched : ∀ s ∈ own.rows, (wide.rows.countP fun r => r.Agrees names s) = 2 ^ extra
  firsts : ((wide.rows.map (Row.restrict names)).eraseDupsBy
    fun r s => r.assignment == s.assignment) = own.rows
  share : (wide.results.count true : ℚ) / wide.results.length =
    own.results.count true / own.results.length
  classified : Classification.ofResults wide.results = .ofResults own.results

/-- The table of a formula over these names. -/
def ofColumns (f : Formula) (names : List String) : TruthTable :=
  ⟨names, (Assignment.rows names).map fun a => ⟨a, f.eval a.value⟩⟩

variable {f : Formula} {names : List String}

theorem mem_rows_ofColumns (h : names.Nodup) {r : Row} :
    r ∈ (ofColumns f names).rows ↔
      r.assignment.map Prod.fst = names ∧ r.result = f.eval r.assignment.value := by
  rw [ofColumns, List.mem_map]
  constructor
  · rintro ⟨a, ha, rfl⟩
    exact ⟨(Assignment.mem_rows h).1 ha, rfl⟩
  · intro ⟨ha, hresult⟩
    exact ⟨r.assignment, (Assignment.mem_rows h).2 ha, by rw [← hresult]⟩

theorem gives_action {settings : Settings} (names : Option (List String))
    (hcover : ∀ n ∈ f.atoms, n ∈ requested f names)
    (hlimit : (requested f names).toFinset.card ≤ settings.maxVariables) :
    (action f names).Gives (.ok settings) (ofColumns f (sortNames (requested f names))) := by
  rw [← length_sortNames] at hlimit
  rw [Action.Gives, result_action, build_of_subset hcover, tabulate, if_neg (not_lt.2 hlimit),
    ofColumns, Assignment.rows, List.map_map]
  rfl

/-! ## The wide table and the own one -/

/-- The rows of the wide table without the extra columns. -/
theorem restrict_rows_ofColumns (f : Formula) (names : List String) :
    (ofColumns f names).rows.map (Row.restrict f.vars) =
      (Assignment.restrictedRows f.vars names).map fun a => ⟨a, f.eval a.value⟩ := by
  rw [ofColumns, Assignment.restrictedRows, List.map_map, List.map_map]
  refine List.map_congr_left fun a _ => ?_
  rw [Function.comp_apply, Function.comp_apply, Row.restrict, Formula.eval_restrict_vars]

theorem eq_of_assignment_eq {r s : Row} (hr : r ∈ (ofColumns f f.vars).rows)
    (hs : s ∈ (ofColumns f f.vars).rows) (h : r.assignment = s.assignment) : r = s := by
  obtain ⟨-, hr⟩ := (mem_rows_ofColumns f.nodup_vars).1 hr
  obtain ⟨-, hs⟩ := (mem_rows_ofColumns f.nodup_vars).1 hs
  obtain ⟨a, b⟩ := r
  obtain ⟨a', b'⟩ := s
  obtain rfl : a = a' := h
  rw [show b = b' from hr.trans hs.symm]

theorem nodup_rows_ofColumns (h : names.Nodup) : (ofColumns f names).rows.Nodup :=
  (Assignment.nodup_rows h).map fun _ _ heq => congrArg Row.assignment heq

section

variable (hcover : ∀ n ∈ f.atoms, n ∈ names)

include hcover

/-- What can be told from the formula's own columns is so in equally many rows of the wide table
    for each row of the own one in which it is. -/
theorem countP_rows_ofColumns (p : Row → Bool) :
    (ofColumns f (sortNames names)).rows.countP (fun r => p (r.restrict f.vars)) =
      rowCount (names.toFinset.card - f.vars.length) * (ofColumns f f.vars).rows.countP p := by
  have hmap := List.countP_map (p := p) (f := Row.restrict f.vars)
    (l := (ofColumns f (sortNames names)).rows)
  rw [restrict_rows_ofColumns, List.countP_map,
    Assignment.countP_restrictedRows (nodup_sortNames names), Formula.filter_mem_vars hcover,
    Formula.length_filter_notMem_vars hcover] at hmap
  exact hmap.symm.trans (congrArg _ List.countP_map.symm)

theorem count_results_ofColumns (b : Bool) :
    (ofColumns f (sortNames names)).results.count b =
      rowCount (names.toFinset.card - f.vars.length) * (ofColumns f f.vars).results.count b := by
  rw [List.count_eq_countP, List.count_eq_countP, results, results, List.countP_map,
    List.countP_map]
  exact countP_rows_ofColumns hcover fun r => r.result == b

theorem length_results_ofColumns :
    (ofColumns f (sortNames names)).results.length =
      rowCount (names.toFinset.card - f.vars.length) * (ofColumns f f.vars).results.length := by
  have hcount := countP_rows_ofColumns hcover fun _ => true
  rw [List.countP_true] at hcount
  rw [results, results, List.length_map, List.length_map, hcount]

/-- A row of the wide table agrees with the row of the own one that is left of it without the
    extra columns, and with no other. -/
theorem agrees_iff {r s : Row} (hr : r ∈ (ofColumns f (sortNames names)).rows)
    (hs : s ∈ (ofColumns f f.vars).rows) :
    r.Agrees f.vars s ↔ (r.restrict f.vars).assignment = s.assignment := by
  obtain ⟨hr, -⟩ := (mem_rows_ofColumns (nodup_sortNames names)).1 hr
  obtain ⟨hs, -⟩ := (mem_rows_ofColumns f.nodup_vars).1 hs
  have hnames : (r.assignment.restrict f.vars).map Prod.fst = f.vars := by
    rw [Assignment.names_restrict, hr, Formula.filter_mem_vars hcover]
  have hrestrict := Assignment.restrict_eq_iff (a := r.assignment) (b := s.assignment)
  rw [hs] at hrestrict
  exact (hrestrict f.nodup_vars hnames).symm

theorem restrict_mem_rows_ofColumns {r : Row} (hr : r ∈ (ofColumns f (sortNames names)).rows) :
    r.restrict f.vars ∈ (ofColumns f f.vars).rows := by
  obtain ⟨hnames, hresult⟩ := (mem_rows_ofColumns (nodup_sortNames names)).1 hr
  refine (mem_rows_ofColumns f.nodup_vars).2 ⟨?_, ?_⟩
  · exact (Assignment.names_restrict _ _).trans (hnames ▸ Formula.filter_mem_vars hcover)
  · exact hresult.trans (Formula.eval_restrict_vars f r.assignment).symm

/-- The table over any names that include the variables says what the own table says. -/
theorem widens_ofColumns :
    (ofColumns f (sortNames names)).Widens (ofColumns f f.vars) f.vars
      (names.toFinset.card - f.vars.length) where
  row r hr := by
    have hown := restrict_mem_rows_ofColumns hcover hr
    refine ⟨r.restrict f.vars, hown, (agrees_iff hcover hr hown).2 rfl, rfl, fun s hs h => ?_⟩
    exact eq_of_assignment_eq hs hown ((agrees_iff hcover hr hs).1 h).symm
  matched s hs := by
    have hsame : ∀ r ∈ (ofColumns f (sortNames names)).rows,
        (decide (r.Agrees f.vars s) = true ↔ (r.restrict f.vars == s) = true) := fun r hr => by
      rw [decide_eq_true_eq, agrees_iff hcover hr hs, beq_iff_eq]
      exact ⟨eq_of_assignment_eq (restrict_mem_rows_ofColumns hcover hr) hs,
        congrArg Row.assignment⟩
    rw [List.countP_congr hsame, countP_rows_ofColumns hcover (· == s)]
    show rowCount _ * (ofColumns f f.vars).rows.count s = _
    rw [List.count_eq_one_of_mem (nodup_rows_ofColumns f.nodup_vars) hs, Nat.mul_one]
    rfl
  firsts := by
    rw [restrict_rows_ofColumns, eraseDupsBy_map]
    show (List.eraseDups _).map _ = _
    rw [Assignment.eraseDups_restrictedRows (nodup_sortNames names),
      Formula.filter_mem_vars hcover, ofColumns]
  share := by
    rw [count_results_ofColumns hcover, length_results_ofColumns hcover, Nat.cast_mul, Nat.cast_mul]
    exact mul_div_mul_left _ _ (Nat.cast_ne_zero.2 (Nat.ne_of_gt (rowCount_pos _)))
  classified := by
    refine Classification.ofResults_congr fun b => ?_
    rw [← List.count_pos_iff, ← List.count_pos_iff, count_results_ofColumns hcover,
      Nat.mul_pos_iff_of_pos_left (rowCount_pos _)]

end

end TruthTable

/-- Within the limit a table over any names that include those of its formula is given, and says
    what the formula's own table says. Each of its rows agrees on the formula's variables with one
    row of the own table and has the result of that; each row of the own table agrees with as many
    rows as the extra names have values; and the rows without the extra columns, each where it
    occurs first, are the own table in its order. So the share of the rows that are true and the
    classification of the formula are those of the own table. The order and the repetition of the
    names have no part in the table. -/
theorem extra_columns_keep_answer {f : Formula} {names : List String} {settings : Settings}
    (hcover : ∀ n ∈ f.atoms, n ∈ names) (hlimit : names.toFinset.card ≤ settings.maxVariables) :
    (∃ wide own : TruthTable, (TruthTable.action f (some names)).Gives (.ok settings) wide ∧
      (TruthTable.action f none).Gives (.ok settings) own ∧
      wide.Widens own f.vars (names.toFinset.card - f.vars.length)) ∧
    ∀ other : List String, (∀ n, n ∈ other ↔ n ∈ names) →
      TruthTable.action f (some other) = TruthTable.action f (some names) := by
  have hatoms : f.atoms.toFinset ⊆ names.toFinset := fun n hn =>
    List.mem_toFinset.2 (hcover n (List.mem_toFinset.1 hn))
  have hown : (f.atoms.toFinset.card : Int) ≤ settings.maxVariables :=
    le_trans (Int.ofNat_le.2 (Finset.card_le_card hatoms)) hlimit
  refine ⟨⟨_, _, TruthTable.gives_action (some names) hcover hlimit,
    TruthTable.gives_action none (fun _ => id) hown, TruthTable.widens_ofColumns hcover⟩, ?_⟩
  intro other h
  rw [TruthTable.action, TruthTable.action, TruthTable.columns, TruthTable.columns,
    sortNames_congr h]

/-- The formula `P ∧ R` over five columns, of which `Q` and `S` are new to it and stand on both
    sides of `R`, and the columns in another order. -/
theorem extra_columns_keep_answer_between :
    let f := Formula.conj (.atom "P") (.atom "R")
    let settings : Settings := ⟨4, 3, "INFO"⟩
    (∀ n ∈ f.atoms, n ∈ ["S", "R", "Q", "P", "Q"]) ∧
    (["S", "R", "Q", "P", "Q"].toFinset.card : Int) ≤ settings.maxVariables ∧
    (∃ wide own : TruthTable,
      (TruthTable.action f (some ["S", "R", "Q", "P", "Q"])).Gives (.ok settings) wide ∧
      (TruthTable.action f none).Gives (.ok settings) own ∧ wide.Widens own ["P", "R"] 2) ∧
    TruthTable.action f (some ["P", "Q", "R", "S"]) =
      TruthTable.action f (some ["S", "R", "Q", "P", "Q"]) := by
  intro f settings
  have hcover : ∀ n ∈ f.atoms, n ∈ ["S", "R", "Q", "P", "Q"] := by decide
  have hlimit : (["S", "R", "Q", "P", "Q"].toFinset.card : Int) ≤ settings.maxVariables := by decide
  have hkept := extra_columns_keep_answer hcover hlimit
  refine ⟨hcover, hlimit, hkept.1, hkept.2 _ fun n => ?_⟩
  simp only [List.mem_cons, List.not_mem_nil, or_false]
  tauto

end PropTutor
