/-
  Truth table exercises and the truth table.

  A key that holds the columns of a formula's table has at each cell of the table the value that
  the formula, or its variable, takes in that row (`Grading.value?_of_sameColumns`). So the answer
  to an exercise with such a key is graded by evaluation: a hidden cell is right if the value that
  was filled in for it is read as that value, and whatever was filled in elsewhere plays no part
  (`table_exercise_graded_by_evaluation`). A variable named `result` has no column of its own.
-/
import Mathlib.Algebra.Order.Field.Rat
import PropTutor.Proofs.Grading.Cells
import PropTutor.Proofs.Grading.Grade
import PropTutor.Proofs.Semantics.Tabulation

namespace PropTutor

/-- The value of a cell in the table of a formula: in the column `result` the one of the formula
    under the assignment of the row, in any other column the one that this assignment gives the
    name. -/
def Formula.cellValue (f : Formula) (cell : Cell) : Bool :=
  let a := Assignment.ofRow f.vars cell.row
  if cell.column = "result" then f.eval a.value else a.value cell.column

/-- The row and the column of the cell occur in the table of the formula. -/
structure Formula.HasCell (f : Formula) (cell : Cell) : Prop where
  row_lt : cell.row < rowCount f.vars.length
  column : cell.column ∈ f.vars ∨ cell.column = "result"

/-- The two keys have the same columns, in whatever order. -/
def TableKey.SameColumns (key stored : TableKey) : Prop :=
  ∀ column, key.values.lookup column = stored.values.lookup column

/-- The value that was filled in for the cell is read as the value of the cell in the table. -/
def Formula.FilledRight (f : Formula) (submitted : Answer.Cells) (cell : Cell) : Prop :=
  ∃ v, submitted.lookup cell = some v ∧ Answer.truth v = .ok (f.cellValue cell)

/-! ## Columns -/

namespace TruthTable

theorem lookup_valueColumns_result (t : TruthTable) :
    t.valueColumns.lookup "result" = some t.results := by
  rw [valueColumns, lookup_putKey, if_pos (beq_self_eq_true _)]

theorem lookup_valueColumns_name {t : TruthTable} {n : String} (hn : n ∈ t.names)
    (hresult : n ≠ "result") :
    t.valueColumns.lookup n = some (t.rows.map fun r => r.assignment.value n) := by
  rw [valueColumns, lookup_putKey, if_neg (mt eq_of_beq hresult)]
  refine lookup_eq_some ⟨_, List.mem_map.2 ⟨n, hn, rfl⟩⟩ ?_
  intro values hvalues
  obtain ⟨m, -, hm⟩ := List.mem_map.1 hvalues
  obtain ⟨rfl, rfl⟩ := Prod.mk.inj hm
  rfl

end TruthTable

namespace Formula

variable {f : Formula} {cell : Cell}

theorem getElem?_rows_fullTable {i : Nat} (hi : i < rowCount f.vars.length) :
    f.fullTable.rows[i]? = some (TruthTable.row f f.vars i) := by
  rw [fullTable, List.getElem?_map, List.getElem?_range hi]
  rfl

/-- The columns of the table hold the values of its cells. -/
theorem getElem?_valueColumns (hcell : f.HasCell cell) (hrow : 0 ≤ cell.row) :
    (f.fullTable.valueColumns.lookup cell.column).bind (·[cell.row.toNat]?) =
      some (f.cellValue cell) := by
  obtain ⟨row, column⟩ := cell
  obtain ⟨i, rfl⟩ := Int.eq_ofNat_of_zero_le hrow
  have hi : i < rowCount f.vars.length := Int.ofNat_lt.1 hcell.row_lt
  have hentry := getElem?_rows_fullTable hi
  dsimp only [cellValue, Int.toNat_natCast]
  by_cases hresult : column = "result"
  · subst hresult
    rw [TruthTable.lookup_valueColumns_result, if_pos rfl, Option.bind_some, TruthTable.results,
      List.getElem?_map, hentry]
    rfl
  · have hname : column ∈ f.vars := hcell.column.resolve_right hresult
    have hlookup := TruthTable.lookup_valueColumns_name (t := f.fullTable) hname hresult
    rw [hlookup, if_neg hresult, Option.bind_some, List.getElem?_map, hentry]
    rfl

end Formula

variable {f : Formula} {content : TableContent}
  {key : TableKey} {explanation : Option String} {answer : Json} {submitted : Answer.Cells}

namespace Grading

/-- A key with the columns of the table has the values of its cells. -/
theorem value?_of_sameColumns {cell : Cell} (hkey : key.SameColumns ⟨f.fullTable.valueColumns⟩)
    (hcell : f.HasCell cell) (hrow : 0 ≤ cell.row) : key.value? cell = some (f.cellValue cell) := by
  rw [TableKey.value?, hkey, Formula.getElem?_valueColumns hcell hrow]

theorem submittedValue?_eq_some {cell : Cell} {b : Bool} : submittedValue? submitted cell = some b ↔
    ∃ v, submitted.lookup cell = some v ∧ Answer.truth v = .ok b := by
  have htruth (v : Json) : (Answer.truth v).toOption = some b ↔ Answer.truth v = .ok b := by
    cases Answer.truth v with
    | ok b' => simp [Except.toOption]
    | error e => simp [Except.toOption]
  rw [submittedValue?, Option.bind_eq_some_iff]
  simp only [htruth]

end Grading

instance (f : Formula) (submitted : Answer.Cells) : DecidablePred (f.FilledRight submitted) :=
  fun cell => decidable_of_iff (Grading.submittedValue? submitted cell = some (f.cellValue cell))
    Grading.submittedValue?_eq_some

namespace TableContent

/-- The hidden cells that are filled in right. -/
def rightCells (content : TableContent) (f : Formula) (submitted : Answer.Cells) : List Cell :=
  content.hidden.filter fun cell => f.FilledRight submitted cell

/-- The other hidden cells. -/
def otherCells (content : TableContent) (f : Formula) (submitted : Answer.Cells) : List Cell :=
  content.hidden.filter fun cell => ¬ f.FilledRight submitted cell

theorem length_rightCells (content : TableContent) (f : Formula) (submitted : Answer.Cells) :
    content.hidden.length - (content.otherCells f submitted).length =
      (content.rightCells f submitted).length := by
  have hsum := @List.length_eq_length_filter_add _ content.hidden
    fun cell => decide (f.FilledRight submitted cell)
  simp only [rightCells, otherCells, decide_not]
  omega

end TableContent

namespace Grading

/-! ## Grading -/

/-- With the columns of the table for a key, the wrong cells are those that are not filled in
    right. -/
theorem wrongCells_of_sameColumns (hkey : key.SameColumns ⟨f.fullTable.valueColumns⟩)
    (hcells : ∀ cell ∈ content.hidden, f.HasCell cell)
    (hrows : ∀ cell ∈ content.hidden, 0 ≤ cell.row) :
    wrongCells key submitted content.hidden =
      .ok (content.otherCells f submitted) := by
  have hvalue : ∀ cell ∈ content.hidden, key.value? cell = some (f.cellValue cell) :=
    fun cell hcell => value?_of_sameColumns hkey (hcells cell hcell) (hrows cell hcell)
  rw [wrongCells_eq fun cell hcell => ⟨_, hvalue cell hcell⟩]
  refine congrArg Except.ok (List.filter_congr fun cell hcell => ?_)
  rw [hvalue cell hcell, Bool.eq_iff_iff, bne_iff_ne, decide_eq_true_iff, Ne,
    submittedValue?_eq_some]
  rfl

/-- The result counts the cells that are not wrong. -/
theorem exists_truthTable {wrong : List Cell} (hhidden : content.hidden ≠ [])
    (hread : Answer.cells answer = .ok submitted)
    (hwrong : wrongCells key submitted content.hidden = .ok wrong) :
    ∃ r, truthTable content key explanation answer = .ok r ∧
      r.details = .cells (content.hidden.length - wrong.length) content.hidden.length wrong ∧
      r.score = ((content.hidden.length - wrong.length : Nat) : Rat) / content.hidden.length ∧
      (r.isCorrect = true ↔ wrong = []) := by
  simp only [truthTable, List.isEmpty_eq_false_iff.2 hhidden, hread, hwrong, bind, Except.bind,
    Except.mapError]
  cases wrong with
  | nil =>
    have htotal : (content.hidden.length : Rat) ≠ 0 :=
      Nat.cast_ne_zero.2 (mt List.length_eq_zero_iff.1 hhidden)
    exact ⟨_, rfl, rfl, (div_self htotal).symm, iff_of_true rfl rfl⟩
  | cons cell wrong =>
    exact ⟨_, rfl, rfl, rfl, iff_of_false Bool.false_ne_true (List.cons_ne_nil _ _)⟩

/-- Of the answer only the wrong cells count. -/
theorem truthTable_congr {answer' : Json} {submitted' : Answer.Cells}
    (hread : Answer.cells answer = .ok submitted) (hread' : Answer.cells answer' = .ok submitted')
    (hwrong : wrongCells key submitted' content.hidden = wrongCells key submitted content.hidden) :
    truthTable content key explanation answer' = truthTable content key explanation answer := by
  simp only [truthTable, hread, hread', hwrong, bind, Except.bind, Except.mapError]

end Grading

/-- An answer to a truth table exercise whose key has the columns of the table of a formula is
    graded by evaluating the formula. The hidden cells that count as right are those for which a
    value was filled in that is read as the value of the formula, or of the variable, under the
    assignment of the row; the others are listed in order, the score is the share of the right
    ones, and the answer is correct if no cell is listed. What was filled in for other cells plays
    no part. -/
theorem table_exercise_graded_by_evaluation {text : String} {f : Formula} {settings : Settings}
    (hparse : Formula.parse text = .ok f) (hlimit : (f.vars.length : Int) ≤ settings.maxVariables) :
    ∃ author stored, TableKey.ofText text = .ok author ∧ author.Gives (.ok settings) stored ∧
      ∀ (record : Json) (content : TableContent) (key : TableKey) (explanation : Option String),
        Exercise.decode record = .ok ⟨.truthTable content key, explanation⟩ →
        key.SameColumns stored → content.hidden ≠ [] → (∀ cell ∈ content.hidden, f.HasCell cell) →
        ∀ (answer : Json) (submitted : Answer.Cells) (s : Except SettingsError Settings),
          Answer.cells answer = .ok submitted →
          ∃ r, (gradeStored record answer).Gives s r ∧
            r.details = .cells (content.rightCells f submitted).length content.hidden.length
              (content.otherCells f submitted) ∧
            r.details.members = [
              ("correctCells", .int (content.rightCells f submitted).length),
              ("totalCells", .int content.hidden.length),
              ("incorrectCells", .list ((content.otherCells f submitted).map fun cell =>
                .str (toString cell.row ++ "-" ++ cell.column)))] ∧
            r.score = ((content.rightCells f submitted).length : Rat) / content.hidden.length ∧
            (r.isCorrect = true ↔ content.otherCells f submitted = []) ∧
            ∀ (answer' : Json) (submitted' : Answer.Cells),
              Answer.cells answer' = .ok submitted' →
              (∀ cell ∈ content.hidden, submitted'.lookup cell = submitted.lookup cell) →
                (gradeStored record answer').Gives s r := by
  have htable : (TruthTable.action f none).Gives (.ok settings) f.fullTable := by
    rw [Action.Gives, TruthTable.result_action, Action.mapError_eq_ok]
    exact Formula.table_of_le hlimit
  refine ⟨_, ⟨f.fullTable.valueColumns⟩, bind_eq_ok.2 ⟨f, hparse, rfl⟩,
    Action.gives_bind.2 ⟨f.fullTable, htable, Action.gives_pure.2 rfl⟩, ?_⟩
  intro record content key explanation hrecord hkey hhidden hcells answer submitted s hread
  have hrows : ∀ cell ∈ content.hidden, 0 ≤ cell.row := fun cell hcell =>
    Exercise.row_nonneg_of_mem_hidden hrecord rfl hcell
  have hwrong (submitted : Answer.Cells) : Grading.wrongCells key submitted content.hidden =
      .ok (content.otherCells f submitted) := Grading.wrongCells_of_sameColumns hkey hcells hrows
  obtain ⟨r, hr, hdetails, hscore, hcorrect⟩ :=
    @Grading.exists_truthTable _ _ explanation _ _ _ hhidden hread (hwrong submitted)
  rw [TableContent.length_rightCells] at hdetails hscore
  have hgives : (Grading.evaluate ⟨.truthTable content key, explanation⟩ answer).Gives s r :=
    Action.gives_ofExcept.2 hr
  refine ⟨r, (gives_gradeStored hrecord).2 (.inl hgives), hdetails, ?_, hscore, hcorrect, ?_⟩
  · rw [hdetails]
    rfl
  · intro answer' submitted' hread' hsame
    have hright : ∀ cell ∈ content.hidden,
        (f.FilledRight submitted' cell ↔ f.FilledRight submitted cell) := fun cell hcell => by
      rw [Formula.FilledRight, Formula.FilledRight, hsame cell hcell]
    have hother : content.otherCells f submitted' = content.otherCells f submitted :=
      List.filter_congr fun cell hcell => decide_eq_decide.2 (not_congr (hright cell hcell))
    have hgraded : Grading.truthTable content key explanation answer' = .ok r := by
      rw [← hr]
      exact Grading.truthTable_congr hread hread' (by rw [hwrong, hwrong, hother])
    exact (gives_gradeStored hrecord).2 (.inl (Action.gives_ofExcept.2 hgraded))

/-- A stored exercise on the table of `P -> result`. One of its hidden cells occurs twice. -/
def implicationTableRecord : Json :=
  let hidden (row : Int) (column : String) :=
    Json.object [("row", .int row), ("column", .str column)]
  let column (values : List Bool) := Json.list (values.map .bool)
  .object [("type", .str "TRUTH_TABLE"),
    ("content", .object [("formula", .str "P -> result"),
      ("hiddenCells", .list [hidden 3 "result", hidden 2 "P", hidden 3 "result"])]),
    ("solution", .object [("values", .object [("P", column [true, true, false, false]),
      ("result", column [true, false, true, true])])])]

/-- The content of this exercise. -/
def implicationTableContent : TableContent :=
  ⟨"P -> result", [⟨3, "result"⟩, ⟨2, "P"⟩, ⟨3, "result"⟩], false⟩

/-- The key of this exercise. -/
def implicationTableKey : TableKey :=
  ⟨[("P", [true, true, false, false]), ("result", [true, false, true, true])]⟩

/-- An answer to it: the formula is taken for false, then the variable for false, and a cell that
    the table does not have is filled in. -/
def implicationTableAnswer : Json :=
  .object [("3-result", .int 0), ("2", .object [("P", .str "no")]), ("9-Q", .null)]

/-- The column `result` is the one of the formula also where a variable has this name: in the last
    row the variable is false and the formula is true. -/
theorem table_exercise_graded_by_evaluation_variable_result :
    Formula.parse "P -> result" = .ok (.imp (.atom "P") (.atom "result")) ∧
    (((Formula.imp (.atom "P") (.atom "result")).vars.length : Int) ≤
      Settings.standard.maxVariables) ∧
    ∃ r, (gradeStored implicationTableRecord implicationTableAnswer).Gives (.ok .standard) r ∧
      r.details.members = [("correctCells", .int 1), ("totalCells", .int 3),
        ("incorrectCells", .list [.str "3-result", .str "3-result"])] ∧
      r.score = 1 / 3 := by
  have hparse : Formula.parse "P -> result" = .ok (.imp (.atom "P") (.atom "result")) := rfl
  have hlimit : ((Formula.imp (.atom "P") (.atom "result")).vars.length : Int) ≤
      Settings.standard.maxVariables := by decide
  obtain ⟨author, stored, hauthor, hstored, hgrade⟩ :=
    table_exercise_graded_by_evaluation hparse hlimit
  have hstored' : author.Gives (.ok .standard) implicationTableKey := by
    obtain rfl := Except.ok.inj (hauthor.symm.trans
      (show TableKey.ofText "P -> result" = .ok _ from rfl))
    rfl
  obtain rfl := Except.ok.inj (hstored.symm.trans hstored')
  have hcells : ∀ cell ∈ implicationTableContent.hidden,
      (Formula.imp (.atom "P") (.atom "result")).HasCell cell := by
    intro cell hcell
    have hrow : cell.row < 4 ∧ (cell.column = "P" ∨ cell.column = "result") := by
      revert cell
      decide
    exact ⟨hrow.1, hrow.2.imp_left fun hcolumn => by rw [hcolumn]; decide⟩
  have hread : Answer.cells implicationTableAnswer =
      .ok [(⟨3, "result"⟩, .int 0), (⟨2, "P"⟩, .str "no"), (⟨9, "Q"⟩, .null)] := rfl
  have hright : implicationTableContent.rightCells (.imp (.atom "P") (.atom "result"))
      [(⟨3, "result"⟩, .int 0), (⟨2, "P"⟩, .str "no"), (⟨9, "Q"⟩, .null)] = [⟨2, "P"⟩] := by
    decide +kernel
  have hother : implicationTableContent.otherCells (.imp (.atom "P") (.atom "result"))
      [(⟨3, "result"⟩, .int 0), (⟨2, "P"⟩, .str "no"), (⟨9, "Q"⟩, .null)] =
        [⟨3, "result"⟩, ⟨3, "result"⟩] := by decide +kernel
  obtain ⟨r, hr, -, hmembers, hscore, -⟩ := hgrade implicationTableRecord implicationTableContent
    implicationTableKey none rfl (fun _ => rfl) (List.cons_ne_nil _ _) hcells _ _ (.ok .standard)
    hread
  rw [hright, hother] at hmembers
  rw [hright] at hscore
  exact ⟨hparse, hlimit, r, hr, hmembers, hscore.trans rfl⟩

end PropTutor
