/-
  The rows of a truth table, and the assignments over its names.

  `rowIndex` reads the values of a row back as its index. It is inverse to `rowValues` on both
  sides (`rowValues_rowIndex`, `rowIndex_rowValues`), so the rows over distinct names are the
  assignments over these names, each of them once (`mem_rows`, `nodup_rows`). An index outside
  the table counts modulo the number of rows (`rowValues_add_mul`).
-/
import PropTutor.Semantics.TruthTable

namespace PropTutor

/-! ## Indices of rows -/

theorem rowCount_succ (n : Nat) : rowCount (n + 1) = 2 * rowCount n := by
  rw [rowCount, rowCount, Nat.mul_comm]
  rfl

theorem rowCount_pos (n : Nat) : 0 < rowCount n := Nat.pow_pos (by decide)

/-- The index of the row with these values; the first value has the greatest weight. -/
def rowIndex : List Bool → Nat
  | [] => 0
  | b :: bs => (if b then 0 else rowCount bs.length) + rowIndex bs

theorem rowIndex_lt (bs : List Bool) : rowIndex bs < rowCount bs.length := by
  induction bs with
  | nil => exact rowCount_pos 0
  | cons b bs ih =>
    rw [rowIndex, List.length_cons, rowCount_succ]
    split <;> omega

/-- The values of a row depend on its index modulo the number of rows only. -/
theorem rowValues_add_mul (n : Nat) (i k : Int) :
    rowValues n (i + k * rowCount n) = rowValues n i := by
  induction n generalizing k with
  | zero => rfl
  | succ n ih =>
    have hpos : (rowCount n : Int) ≠ 0 := by have := rowCount_pos n; omega
    have hk : k * (rowCount (n + 1) : Int) = 2 * k * rowCount n := by
      rw [rowCount_succ, Int.natCast_mul, Int.mul_comm 2 k, Int.mul_assoc]
      rfl
    rw [rowValues, rowValues, hk, ih, Int.add_mul_ediv_right _ _ hpos, Int.add_mul_emod_self_left]

/-- The row with the index of these values has these values. -/
theorem rowValues_rowIndex (bs : List Bool) : rowValues bs.length (rowIndex bs) = bs := by
  induction bs with
  | nil => rfl
  | cons b bs ih =>
    have hlt := rowIndex_lt bs
    have htail : rowValues bs.length (rowIndex (b :: bs) : Nat) = bs := by
      rw [rowIndex]
      cases b with
      | true => rw [if_pos rfl, Nat.zero_add, ih]
      | false =>
        rw [if_neg Bool.false_ne_true, Nat.add_comm, Int.natCast_add,
          ← Int.one_mul (rowCount bs.length : Int), rowValues_add_mul, ih]
    have hhead : ((rowIndex (b :: bs) : Int) / rowCount bs.length % 2 == 0) = b := by
      rw [← Int.natCast_ediv, rowIndex]
      cases b with
      | true => rw [if_pos rfl, Nat.zero_add, Nat.div_eq_of_lt hlt]; rfl
      | false =>
        rw [if_neg Bool.false_ne_true, Nat.add_div_left _ (rowCount_pos _), Nat.div_eq_of_lt hlt]
        rfl
    rw [List.length_cons, rowValues, htail, hhead]

/-- In the upper half of the table the first name is true. -/
theorem rowValues_succ_of_lt {n i : Nat} (h : i < rowCount n) :
    rowValues (n + 1) i = true :: rowValues n i := by
  rw [rowValues, ← Int.natCast_ediv, Nat.div_eq_of_lt h]
  rfl

/-- The lower half of the table is its upper half with the first name false. -/
theorem rowValues_succ_add {n i : Nat} (h : i < rowCount n) :
    rowValues (n + 1) (i + rowCount n : Nat) = false :: rowValues n i := by
  have htail : rowValues n (i + rowCount n : Nat) = rowValues n i := by
    rw [Int.natCast_add, ← Int.one_mul (rowCount n : Int), rowValues_add_mul]
  rw [rowValues, ← Int.natCast_ediv, Nat.add_div_right _ (rowCount_pos n), Nat.div_eq_of_lt h,
    htail]
  rfl

/-- A row of the table over one more name is a row of either half. -/
theorem exists_half {n i : Nat} (h : i < rowCount (n + 1)) :
    i < rowCount n ∨ ∃ k < rowCount n, i = k + rowCount n := by
  rw [rowCount_succ] at h
  by_cases hi : i < rowCount n
  · exact .inl hi
  · exact .inr ⟨i - rowCount n, by omega, by omega⟩

/-- The index of the values in a row of the table is the index of the row. -/
theorem rowIndex_rowValues {n i : Nat} (h : i < rowCount n) : rowIndex (rowValues n i) = i := by
  induction n generalizing i with
  | zero =>
    have hi : i = 0 := Nat.lt_one_iff.1 h
    rw [hi]
    rfl
  | succ n ih =>
    rcases exists_half h with hi | ⟨k, hk, rfl⟩
    · rw [rowValues_succ_of_lt hi, rowIndex, if_pos rfl, ih hi, Nat.zero_add]
    · rw [rowValues_succ_add hk, rowIndex, if_neg Bool.false_ne_true, length_rowValues, ih hk,
        Nat.add_comm]

/-! ## The assignments over a list of names -/

namespace Assignment

/-- The assignments of a table over these names, from the first row to the last. -/
def rows (names : List String) : List Assignment :=
  (List.range (rowCount names.length)).map fun i => ofRow names (i : Nat)

theorem ofRow_of_nodup {names : List String} (h : names.Nodup) (index : Int) :
    ofRow names index = names.zip (rowValues names.length index) := by
  refine dedupKeys_eq_self ?_
  rw [List.map_fst_zip (Nat.le_of_eq (length_rowValues _ _).symm)]
  exact h

theorem names_ofRow {names : List String} (h : names.Nodup) (index : Int) :
    (ofRow names index).map Prod.fst = names := by
  rw [ofRow_of_nodup h, List.map_fst_zip (Nat.le_of_eq (length_rowValues _ _).symm)]

theorem values_ofRow {names : List String} (h : names.Nodup) (index : Int) :
    (ofRow names index).map Prod.snd = rowValues names.length index := by
  rw [ofRow_of_nodup h, List.map_snd_zip (Nat.le_of_eq (length_rowValues _ _))]

/-- An assignment over the names stands in the row that its values say. -/
theorem ofRow_rowIndex {a : Assignment} (h : (a.map Prod.fst).Nodup) :
    ofRow (a.map Prod.fst) (rowIndex (a.map Prod.snd)) = a := by
  have hvalues := rowValues_rowIndex (a.map Prod.snd)
  rw [List.length_map] at hvalues
  rw [ofRow_of_nodup h, List.length_map, hvalues, ← List.unzip_fst, ← List.unzip_snd,
    List.zip_unzip]

/-- Every assignment over distinct names stands in a row of the table. -/
theorem exists_ofRow {a : Assignment} (h : (a.map Prod.fst).Nodup) :
    ∃ i < rowCount (a.map Prod.fst).length, ofRow (a.map Prod.fst) (i : Nat) = a := by
  have hlt := rowIndex_lt (a.map Prod.snd)
  rw [List.length_map] at hlt
  rw [List.length_map]
  exact ⟨rowIndex (a.map Prod.snd), hlt, ofRow_rowIndex h⟩

/-- No assignment stands in two rows. -/
theorem ofRow_inj {names : List String} (h : names.Nodup) {i j : Nat}
    (hi : i < rowCount names.length) (hj : j < rowCount names.length)
    (heq : ofRow names i = ofRow names j) : i = j := by
  have hvalues := congrArg (fun a => rowIndex (List.map Prod.snd a)) heq
  simp only [values_ofRow h] at hvalues
  rwa [rowIndex_rowValues hi, rowIndex_rowValues hj] at hvalues

/-- The rows over distinct names are the assignments over these names. -/
theorem mem_rows {names : List String} (h : names.Nodup) {a : Assignment} :
    a ∈ rows names ↔ a.map Prod.fst = names := by
  rw [rows, List.mem_map]
  constructor
  · rintro ⟨i, -, rfl⟩
    exact names_ofRow h i
  · rintro rfl
    obtain ⟨i, hi, hrow⟩ := exists_ofRow h
    exact ⟨i, List.mem_range.2 hi, hrow⟩

theorem nodup_rows {names : List String} (h : names.Nodup) : (rows names).Nodup := by
  rw [rows, List.nodup_iff_pairwise_ne, List.pairwise_map]
  refine List.nodup_range.imp_of_mem ?_
  intro i j hi hj hne heq
  exact hne (ofRow_inj h (List.mem_range.1 hi) (List.mem_range.1 hj) heq)

end Assignment

end PropTutor
