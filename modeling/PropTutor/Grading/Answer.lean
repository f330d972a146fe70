/-
  Reading answers.

  An answer is a JSON value that a student handed in. Each kind of exercise takes answers in
  a bare shape and in an object around it; the functions here take both and give the answer
  in the one form that grading needs.
-/
import PropTutor.Action
import PropTutor.Keyed
import PropTutor.Text.Blank

namespace PropTutor.Answer

/-- The texts of a list that holds texts only. -/
def texts? : List Json → Option (List String) := List.mapM Json.str?

/-- A formula: a text, the text under `formula`, or the texts of a list joined by spaces. -/
def formula : Json → Except GradingError String
  | .str s => .ok (Text.strip s)
  | .object members =>
    match members.lookup "formula" with
    | some (.str s) => .ok (Text.strip s)
    | _ => .error .notFormulaText
  | .list items =>
    match texts? items with
    | some parts => .ok (" ".intercalate (parts.map Text.strip))
    | none => .error .notFormulaText
  | _ => .error .notFormulaText

/-- The words that mean true and false. -/
def truthWords : List (String × Bool) := [
  ("true", true), ("t", true), ("v", true), ("1", true), ("yes", true), ("valid", true),
  ("false", false), ("f", false), ("0", false), ("no", false), ("invalid", false)]

/-- The truth value that a word means, apart from the case of its letters and from blanks
    around it. Only ASCII letters occur in the words. -/
def truthWord? (s : String) : Option Bool :=
  truthWords.lookup ((Text.strip s).map Char.toLower)

mutual

/-- A truth value: itself, a zero or a one, a word for it, or the value under `isValid`. -/
def truth : Json → Except GradingError Bool
  | .bool b => .ok b
  | .int n =>
    if n == 0 then .ok false else if n == 1 then .ok true else .error (.notTruthValue (.int n))
  | .str s =>
    match truthWord? s with
    | some b => .ok b
    | none => .error (.notTruthValue (.str s))
  | .object members => (truthMember? members).getD (.error (.notTruthValue (.object members)))
  | v => .error (.notTruthValue v)

/-- The truth value under `isValid`, if there is such a member. -/
def truthMember? : List (String × Json) → Option (Except GradingError Bool)
  | [] => none
  | (k, v) :: rest => if k == "isValid" then some (truth v) else truthMember? rest

end

/-- The texts of the items of a list. -/
def listed : Json → Except GradingError (List String)
  | .list items => .ok (items.map Json.toText)
  | v => .error (.notOptionIds v)

/-- Option identifiers: one, a list of them, or the list under `selected` or, without that,
    under `selectedOptionIds`. -/
def optionIds : Json → Except GradingError (List String)
  | .str s => .ok [s]
  | .object members =>
    match members.lookup "selected" with
    | some v => listed v
    | none => listed ((members.lookup "selectedOptionIds").getD (.list []))
  | v => listed v

/-- The steps of a derivation: a list, or the list under `steps`. A step is a text or stands
    under `formula`. -/
def steps (answer : Json) : Except GradingError (List String) :=
  let bare := match answer with
    | .object members => (members.lookup "steps").getD (.list [])
    | v => v
  let step (v : Json) : Json := match v with
    | .object members => (members.lookup "formula").getD (.str "")
    | v => v
  match bare with
  | .list items => .ok (items.map fun v => Text.strip (step v).toText)
  | _ => .error .notSteps

/-- A fallacy: its identifier, or the identifier under `fallacyId`. -/
def fallacyId (answer : Json) : Except GradingError String :=
  let bare := match answer with
    | .object members => (members.lookup "fallacyId").getD .null
    | v => v
  match bare with
  | .str s => .ok s
  | v => .error (.notFallacyId v)

/-! ## Cells of a truth table -/

/-- Cells with the values that were filled in. -/
abbrev Cells := List (Cell × Json)

/-- Why cells cannot be read. -/
inductive CellsError where
  | diagnosed (error : GradingError)
  | infiniteRow
  deriving Inhabited

/-- The error for a fault in a cell. -/
def CellsError.fault (f : CellFault) : CellsError := .diagnosed (.badCells f)

/-- The row that a value names. -/
def row (v : Json) : Except CellsError Int :=
  match v.toInteger with
  | .ok n => .ok n
  | .error .infinite => .error .infiniteRow
  | .error fault => .error (.fault (.badRow fault))

/-- The row and the column of a key: what stands before and behind its first hyphen. -/
def splitKey (key : String) : String × String :=
  let before := key.toList.takeWhile (· != '-')
  (String.ofList before, String.ofList (key.toList.drop (before.length + 1)))

/-- The cells of one member of an object: an object of columns under its row, or a single
    cell. -/
def memberCells (key : String) : Json → Except CellsError Cells
  | .object columns =>
    columns.mapM fun (column, v) => do return (⟨← row (.str key), column⟩, v)
  | v => do
    let (before, column) := splitKey key
    return [(⟨← row (.str before), column⟩, v)]

/-- A member that an item of a list has to have. -/
def itemMember (key : String) : Json → Except CellsError Json
  | .object members =>
    match members.lookup key with
    | some v => .ok v
    | none => .error (.fault (.missingKey key))
  | v => .error (.fault (.noMembers v.kindName))

/-- The cell of an item of a list: an object with a value, a row and a column. -/
def itemCell (item : Json) : Except CellsError (Cell × Json) := do
  let v ← itemMember "value" item
  let r ← row (← itemMember "row" item)
  let column ← itemMember "column" item
  return (⟨r, column.toText⟩, v)

/-- Cells: an object of rows with their columns, an object of single cells under keys such as
    `2-P`, or a list of objects. Of a cell that is filled in twice the last value counts. -/
def cells : Json → Except CellsError Cells
  | .object members => do return dedupKeys (← members.mapM fun (k, v) => memberCells k v).flatten
  | .list items => do return dedupKeys (← items.mapM itemCell)
  | _ => .error (.diagnosed .notCells)

end PropTutor.Answer
