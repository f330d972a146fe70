/-
  Three ways to write down the cells of a table.

  What is filled in is a finite map: each cell once, with a value (`Filling`). It can be written as
  an object of single cells under their names, as an object of rows with their columns, and as a
  list of objects with a row, a column and a value (`Filling.Encodes`). Reading gives the map back
  whichever way it was written and in whatever order (`Filling.cells_of_encodes`): a key is told to
  be a name by its value, which is no object, and its first hyphen stands behind the digits of the
  row; and since no cell is read twice, nothing is overwritten. Grading looks cells up and does
  nothing else with them, so the way of writing has no part in the result
  (`cell_encodings_graded_alike`).
-/
import PropTutor.Proofs.Grading.TableExercise

namespace PropTutor

/-- What is filled in: cells with rows from zero on, each of them once, and their values, none of
    which is an object. -/
structure Filling where
  entries : Answer.Cells
  nodup : (entries.map Prod.fst).Nodup
  row_nonneg : ∀ p ∈ entries, 0 ≤ p.1.row
  not_object : ∀ p ∈ entries, ∀ members, p.2 ≠ .object members

/-- The members of the object that stands for a cell and its value in a list. -/
def Cell.itemMembers (cell : Cell) (v : Json) : List (String × Json) :=
  [("row", .int cell.row), ("column", .str cell.column), ("value", v)]

/-- The value is the object that stands for a cell with its value, its members in any order. -/
def IsCellItem (p : Cell × Json) (item : Json) : Prop :=
  ∃ members, item = .object members ∧ members.Perm (p.1.itemMembers p.2)

/-- Rows with the values in their columns. -/
abbrev Grid := List (Int × List (String × Json))

namespace Grid

/-- The cells of the rows, one row after the other. -/
def cells (rows : Grid) : Answer.Cells :=
  rows.flatMap fun (row, columns) => columns.map fun (column, v) => (⟨row, column⟩, v)

/-- The rows as an object, in which the digits of a row stand for it. -/
def toJson (rows : Grid) : Json :=
  .object (rows.map fun (row, columns) => (toString row, .object columns))

end Grid

/-- The answer is the filling written down in one of three ways, in any order: under the names of
    the cells, in rows and columns, or as a list. -/
inductive Filling.Encodes (m : Filling) : Json → Prop where
  | flat {entries : Answer.Cells} : entries.Perm m.entries →
      m.Encodes (.object (entries.map fun p => (p.1.name, p.2)))
  | nested {rows : Grid} : rows.cells.Perm m.entries → m.Encodes rows.toJson
  | listed {entries : Answer.Cells} {items : List Json} : entries.Perm m.entries →
      List.Forall₂ IsCellItem entries items → m.Encodes (.list items)

/-! ## Reading -/

namespace Answer

theorem row_toString_of_nonneg {row : Int} (h : 0 ≤ row) : Answer.row (.str (toString row)) =
    .ok row := by
  obtain ⟨n, rfl⟩ := Int.eq_ofNat_of_zero_le h
  exact row_toString n

/-- The columns of a row are read as its cells. -/
theorem memberCells_row {row : Int} {columns : List (String × Json)}
    (h : columns ≠ [] → 0 ≤ row) : memberCells (toString row) (.object columns) =
      .ok (columns.map fun (column, v) => (⟨row, column⟩, v)) := by
  rw [memberCells]
  refine mapM_eq_ok_map fun p hp => ?_
  have hrow : 0 ≤ row := h (List.ne_nil_of_mem hp)
  obtain ⟨column, v⟩ := p
  dsimp only
  rw [row_toString_of_nonneg hrow]
  rfl

/-- An object of rows and columns is read as its cells. -/
theorem cells_grid {rows : Grid} (h : ∀ p ∈ rows.cells, 0 ≤ p.1.row) :
    cells rows.toJson = .ok (dedupKeys rows.cells) := by
  have hmembers : (rows.map fun (row, columns) => (toString row, Json.object columns)).mapM
      (fun m => memberCells m.1 m.2) =
        .ok (rows.map fun (row, columns) => columns.map fun (column, v) => (⟨row, column⟩, v)) := by
    rw [List.mapM_map]
    refine mapM_eq_ok_map fun line hline => ?_
    obtain ⟨row, columns⟩ := line
    refine memberCells_row fun hcolumns => ?_
    obtain ⟨⟨column, v⟩, hmem⟩ := List.exists_mem_of_ne_nil columns hcolumns
    have hcell : ((⟨row, column⟩ : Cell), v) ∈ rows.cells :=
      List.mem_flatMap.2 ⟨_, hline, List.mem_map.2 ⟨_, hmem, rfl⟩⟩
    exact h _ hcell
  rw [Grid.toJson, cells_object hmembers]
  rfl

/-- The object that stands for a cell with its value is read as these. -/
theorem itemCell_of_isCellItem {p : Cell × Json} {item : Json} (h : IsCellItem p item) :
    itemCell item = .ok p := by
  obtain ⟨members, rfl, hperm⟩ := h
  have hkeys : ((p.1.itemMembers p.2).map Prod.fst).Nodup := by
    show ["row", "column", "value"].Nodup
    decide
  have hlookup (k : String) : members.lookup k = (p.1.itemMembers p.2).lookup k :=
    (lookup_eq_of_perm hperm.symm hkeys k).symm
  have hvalue : itemMember "value" (.object members) = .ok p.2 := by
    rw [itemMember, hlookup]
    rfl
  have hrow : itemMember "row" (.object members) = .ok (.int p.1.row) := by
    rw [itemMember, hlookup]
    rfl
  have hcolumn : itemMember "column" (.object members) = .ok (.str p.1.column) := by
    rw [itemMember, hlookup]
    rfl
  rw [itemCell, hvalue, hrow, hcolumn]
  rfl

/-- A list of such objects is read as their cells. -/
theorem cells_list {entries : Cells} {items : List Json}
    (h : List.Forall₂ IsCellItem entries items) :
    cells (.list items) = .ok (dedupKeys entries) := by
  have hitems : items.mapM itemCell = .ok entries :=
    mapM_eq_ok (h.flip.imp fun _ _ => itemCell_of_isCellItem)
  show items.mapM itemCell >>= (fun found => pure (dedupKeys found)) = _
  rw [hitems]
  rfl

end Answer

namespace Filling

variable {m : Filling} {answer answer' : Json}

theorem dedupKeys_of_perm {entries : Answer.Cells} (h : entries.Perm m.entries) :
    dedupKeys entries = entries :=
  dedupKeys_eq_self (((h.map Prod.fst).nodup_iff).2 m.nodup)

/-- However a filling was written down, its cells are read back, each of them once. -/
theorem cells_of_encodes (h : m.Encodes answer) :
    ∃ cells, Answer.cells answer = .ok cells ∧ cells.Perm m.entries := by
  cases h with
  | @flat entries hperm =>
    have hsingle : ∀ p ∈ entries, 0 ≤ p.1.row ∧ ∀ columns, p.2 ≠ .object columns := fun p hp =>
      ⟨m.row_nonneg p (hperm.mem_iff.1 hp), m.not_object p (hperm.mem_iff.1 hp)⟩
    exact ⟨entries, by rw [Answer.cells_named hsingle, dedupKeys_of_perm hperm], hperm⟩
  | @nested rows hperm =>
    have hrows : ∀ p ∈ rows.cells, 0 ≤ p.1.row := fun p hp =>
      m.row_nonneg p (hperm.mem_iff.1 hp)
    exact ⟨rows.cells, by rw [Answer.cells_grid hrows, dedupKeys_of_perm hperm], hperm⟩
  | @listed entries items hperm hitems =>
    exact ⟨entries, by rw [Answer.cells_list hitems, dedupKeys_of_perm hperm], hperm⟩

/-- Reading gives the map back. -/
theorem lookup_of_perm {cells : Answer.Cells} (h : cells.Perm m.entries) (cell : Cell) :
    cells.lookup cell = m.entries.lookup cell :=
  lookup_eq_of_perm h (((h.map Prod.fst).nodup_iff).2 m.nodup) cell

end Filling

/-! ## Grading -/

namespace Grading

/-- Cells are looked up, and nothing else is done with them. -/
theorem wrongCells_congr {key : TableKey} {hidden : List Cell} {submitted submitted' : Answer.Cells}
    (h : ∀ cell, submitted'.lookup cell = submitted.lookup cell) :
    wrongCells key submitted' hidden = wrongCells key submitted hidden := by
  have hvalue : submittedValue? submitted' = submittedValue? submitted := by
    funext cell
    rw [submittedValue?, submittedValue?, h cell]
  rw [wrongCells, wrongCells, hvalue]

/-- Two ways of writing down one filling are graded alike. -/
theorem grade_of_encodes {m : Filling} {answer answer' : Json} (h : m.Encodes answer)
    (h' : m.Encodes answer') {e : Exercise} (hkind : e.kind = .truthTable) :
    e.grade answer' = e.grade answer := by
  obtain ⟨cells, hread, hcells⟩ := Filling.cells_of_encodes h
  obtain ⟨cells', hread', hcells'⟩ := Filling.cells_of_encodes h'
  have hlookup (cell : Cell) : cells'.lookup cell = cells.lookup cell := by
    rw [Filling.lookup_of_perm hcells, Filling.lookup_of_perm hcells']
  obtain ⟨task, explanation⟩ := e
  cases task with
  | truthTable content key =>
    have htable : truthTable content key explanation answer' =
        truthTable content key explanation answer :=
      truthTable_congr hread hread' (wrongCells_congr hlookup)
    exact Exercise.grade_congr rfl (congrArg (Action.ofExcept id) htable)
  | _ => cases hkind

end Grading

/-- A filling is read back from each of the three ways to write it down, in whatever order its
    cells, rows, columns and members stand: the cells that are read are those of the filling, each
    of them once and with its value. So two ways of writing it down are graded alike in every truth
    table exercise, stored or decoded. -/
theorem cell_encodings_graded_alike (m : Filling) :
    (∀ answer, m.Encodes answer → ∃ cells, Answer.cells answer = .ok cells ∧
      cells.Perm m.entries ∧ ∀ cell, cells.lookup cell = m.entries.lookup cell) ∧
    ∀ answer answer', m.Encodes answer → m.Encodes answer' →
      (∀ e : Exercise, e.kind = .truthTable → e.grade answer' = e.grade answer) ∧
      ∀ record e, Exercise.decode record = .ok e → e.kind = .truthTable →
        gradeStored record answer' = gradeStored record answer := by
  refine ⟨fun answer h => ?_, fun answer answer' h h' => ⟨fun e hkind => ?_, ?_⟩⟩
  · obtain ⟨cells, hread, hcells⟩ := Filling.cells_of_encodes h
    exact ⟨cells, hread, hcells, Filling.lookup_of_perm hcells⟩
  · exact Grading.grade_of_encodes h h' hkind
  · intro record e hrecord hkind
    rw [gradeStored_eq hrecord, gradeStored_eq hrecord]
    exact Grading.grade_of_encodes h h' hkind

/-- Three cells, one of them in a column without a name and one in a column with hyphens. -/
def hyphenFilling : Filling where
  entries := [(⟨3, "result"⟩, .int 1), (⟨2, ""⟩, .null), (⟨2, "P-Q-"⟩, .str "no")]
  nodup := by decide
  row_nonneg := by decide
  not_object := by
    simp only [List.forall_mem_cons]
    exact ⟨nofun, nofun, nofun, nofun⟩

/-- These cells under their names. -/
def hyphenNames : Json :=
  .object [("2-P-Q-", .str "no"), ("2-", .null), ("3-result", .int 1)]

/-- The cells in rows and columns. -/
def hyphenGrid : Grid := [(2, [("P-Q-", .str "no"), ("", .null)]), (3, [("result", .int 1)])]

/-- The cells as a list, the members of each object in another order. -/
def hyphenItems : Json := .list [
  .object [("value", .null), ("row", .int 2), ("column", .str "")],
  .object [("row", .int 3), ("column", .str "result"), ("value", .int 1)],
  .object [("column", .str "P-Q-"), ("value", .str "no"), ("row", .int 2)]]

/-- The three cells are read back from all three ways to write them down, which have one result. -/
theorem cell_encodings_graded_alike_hyphens :
    hyphenFilling.Encodes hyphenNames ∧ hyphenFilling.Encodes hyphenGrid.toJson ∧
    hyphenFilling.Encodes hyphenItems ∧
    Exercise.decode implicationTableRecord =
      .ok ⟨.truthTable implicationTableContent implicationTableKey, none⟩ ∧
    (∃ cells, Answer.cells hyphenItems = .ok cells ∧ cells.lookup ⟨2, "P-Q-"⟩ = some (.str "no")) ∧
    gradeStored implicationTableRecord hyphenGrid.toJson =
      gradeStored implicationTableRecord hyphenNames ∧
    gradeStored implicationTableRecord hyphenItems =
      gradeStored implicationTableRecord hyphenNames := by
  have hnames : hyphenFilling.Encodes hyphenNames :=
    .flat (List.reverse_perm hyphenFilling.entries)
  have hgrid : hyphenGrid.cells.Perm hyphenFilling.entries :=
    List.reverse_perm hyphenFilling.entries
  have hrows : hyphenFilling.Encodes hyphenGrid.toJson := .nested hgrid
  have hitems : hyphenFilling.Encodes hyphenItems := by
    refine .listed (List.Perm.swap _ _ _) (.cons ⟨_, rfl, ?_⟩ (.cons ⟨_, rfl, ?_⟩
      (.cons ⟨_, rfl, ?_⟩ .nil)))
    · exact @List.perm_append_comm (String × Json) [("value", .null)]
        [("row", .int 2), ("column", .str "")]
    · exact .refl _
    · exact @List.perm_append_comm (String × Json) [("column", .str "P-Q-"), ("value", .str "no")]
        [("row", .int 2)]
  have hrecord : Exercise.decode implicationTableRecord =
      .ok ⟨.truthTable implicationTableContent implicationTableKey, none⟩ := rfl
  obtain ⟨hread, hgraded⟩ := cell_encodings_graded_alike hyphenFilling
  obtain ⟨cells, hcells, -, hlookup⟩ := hread _ hitems
  exact ⟨hnames, hrows, hitems, hrecord, ⟨cells, hcells, hlookup _⟩,
    (hgraded _ _ hnames hrows).2 _ _ hrecord rfl, (hgraded _ _ hnames hitems).2 _ _ hrecord rfl⟩

end PropTutor
