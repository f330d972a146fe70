/-
  Cells under their names.

  The name of a cell is its row, which is written in digits, and its column behind a hyphen. So
  the first hyphen of a name stands between the two, whatever the column holds
  (`splitKey_name`), and an object with the names of cells is read as these cells
  (`cells_named`). Hidden cells are then wrong where another value than the one of the key was
  read for them (`wrongCells_eq`).
-/
import PropTutor.Grading.Cells
import PropTutor.Proofs.Exercise.Decode
import PropTutor.Proofs.Text.Integer

namespace PropTutor

/-- The value that a key has at a cell, if it has one. -/
def TableKey.value? (key : TableKey) (cell : Cell) : Option Bool :=
  (key.values.lookup cell.column).bind (·[cell.row.toNat]?)

theorem mapM_eq_ok_map {α β ε : Type} {f : α → Except ε β} {g : α → β} {xs : List α}
    (h : ∀ x ∈ xs, f x = .ok (g x)) : xs.mapM f = .ok (xs.map g) :=
  mapM_eq_ok (List.forall₂_map_right_iff.2 (List.forall₂_same.2 h))

/-- The value of a key that stands in a list with this value only. -/
theorem lookup_eq_some {α β : Type} [BEq α] [LawfulBEq α] {k : α} {v : β}
    {pairs : List (α × β)} (hmem : ∃ w, (k, w) ∈ pairs) (hvalue : ∀ w, (k, w) ∈ pairs → w = v) :
    pairs.lookup k = some v := by
  induction pairs with
  | nil => exact nomatch hmem.choose_spec
  | cons p pairs ih =>
    obtain ⟨k', w⟩ := p
    rw [List.lookup_cons]
    split
    · next h =>
      obtain rfl := eq_of_beq h
      rw [hvalue w (List.mem_cons_self ..)]
    · next h =>
      refine ih ?_ fun w hw => hvalue w (List.mem_cons_of_mem _ hw)
      obtain ⟨u, hu⟩ := hmem
      rcases List.mem_cons.1 hu with heq | hu
      · obtain rfl := congrArg Prod.fst heq
        exact absurd (beq_self_eq_true _) (ne_true_of_eq_false h)
      · exact ⟨u, hu⟩

namespace Answer

/-! ## Names -/

theorem row_toString (n : Nat) : row (.str (toString n)) = .ok (n : Int) := by
  rw [row, Json.toInteger, Text.toInteger, Text.integer?_toString]

/-- A key splits at its first hyphen. -/
theorem splitKey_append {before : String} (column : String) (h : '-' ∉ before.toList) :
    splitKey (before ++ "-" ++ column) = (before, column) := by
  have hbefore : ∀ c ∈ before.toList, (c != '-') = true := fun c hc =>
    bne_iff_ne.2 fun heq => h (heq ▸ hc)
  have hchars : (before ++ "-" ++ column).toList = before.toList ++ '-' :: column.toList := by
    rw [String.toList_append, String.toList_append, List.append_assoc]
    rfl
  have htake : (before.toList ++ '-' :: column.toList).takeWhile (· != '-') = before.toList := by
    rw [List.takeWhile_append_of_pos hbefore]
    exact List.append_nil _
  have hdrop : (before.toList ++ '-' :: column.toList).drop (before.toList.length + 1) =
      column.toList :=
    List.drop_length_add_append 1
  rw [splitKey, hchars, htake, hdrop, String.ofList_toList, String.ofList_toList]

theorem splitKey_name {cell : Cell} (hrow : 0 ≤ cell.row) :
    splitKey cell.name = (toString cell.row.toNat, cell.column) := by
  obtain ⟨n, hn⟩ := Int.eq_ofNat_of_zero_le hrow
  have hname : cell.name = toString n ++ "-" ++ cell.column := by rw [Cell.name, hn]; rfl
  have hdigits : '-' ∉ (toString n).toList := fun h =>
    (Text.of_isDigit (Text.isDigit_of_mem_toString h)).2.1 rfl
  rw [hname, splitKey_append _ hdigits, hn, Int.toNat_natCast]

/-! ## Objects of cells -/

/-- A single value under the name of a cell is read as this cell. -/
theorem memberCells_name {cell : Cell} (hrow : 0 ≤ cell.row) {v : Json}
    (hv : ∀ columns, v ≠ .object columns) : memberCells cell.name v = .ok [(cell, v)] := by
  have hcell : (⟨cell.row.toNat, cell.column⟩ : Cell) = cell := by
    rw [Int.toNat_of_nonneg hrow]
  rw [memberCells, splitKey_name hrow]
  · dsimp only
    rw [row_toString]
    show Except.ok [((⟨cell.row.toNat, cell.column⟩ : Cell), v)] = _
    rw [hcell]
  · exact hv

theorem cells_object {members : List (String × Json)} {found : List Cells}
    (h : members.mapM (fun m => memberCells m.1 m.2) = .ok found) :
    cells (.object members) = .ok (dedupKeys found.flatten) := by
  show (members.mapM fun m : String × Json => memberCells m.1 m.2) >>=
    (fun found => pure (dedupKeys found.flatten)) = _
  rw [h]
  rfl

/-- An object of single values under the names of cells is read as these cells. -/
theorem cells_named {pairs : List (Cell × Json)}
    (h : ∀ p ∈ pairs, 0 ≤ p.1.row ∧ ∀ columns, p.2 ≠ .object columns) :
    cells (.object (pairs.map fun p => (p.1.name, p.2))) = .ok (dedupKeys pairs) := by
  have hmembers : (pairs.map fun p => (p.1.name, p.2)).mapM (fun m => memberCells m.1 m.2) =
      .ok (pairs.map ([·])) := by
    rw [List.mapM_map]
    exact mapM_eq_ok_map fun p hp => memberCells_name (h p hp).1 (h p hp).2
  rw [cells_object hmembers, ← List.flatMap_def, List.flatMap_singleton']

end Answer

namespace Grading

variable {key : TableKey} {submitted : Answer.Cells} {hidden : List Cell}

theorem keyValue_eq_ok {cell : Cell} {b : Bool} :
    keyValue key cell = .ok b ↔ key.value? cell = some b := by
  rw [TableKey.value?, keyValue]
  split
  · next b' h => rw [h, Except.ok.injEq, Option.some.injEq]
  · next h => exact iff_of_false nofun (h ▸ nofun)

/-- The wrong cells are the hidden ones with another value than the one of the key. -/
theorem wrongCells_eq (h : ∀ cell ∈ hidden, ∃ b, key.value? cell = some b) :
    wrongCells key submitted hidden =
      .ok (hidden.filter fun cell => submittedValue? submitted cell != key.value? cell) := by
  have hchecked : (hidden.mapM fun cell => do
      return (cell, submittedValue? submitted cell == some (← keyValue key cell))) =
        Except.ok (ε := GradingError) (hidden.map fun cell =>
          (cell, submittedValue? submitted cell == key.value? cell)) := by
    refine mapM_eq_ok_map fun cell hcell => ?_
    obtain ⟨b, hb⟩ := h cell hcell
    rw [keyValue_eq_ok.2 hb, hb]
    rfl
  rw [wrongCells, hchecked]
  show Except.ok _ = _
  rw [List.filter_map, List.map_map]
  exact congrArg Except.ok (List.map_id _)

end Grading

end PropTutor
