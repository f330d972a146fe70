/-
  Reading stored exercises.

  A stored exercise is an object with a type, a content, a solution and possibly an
  explanation. Content and solution may be JSON texts. A value without members is no
  exercise at all; whatever else is wrong is diagnosed.
-/
import PropTutor.Exercise.Error
import PropTutor.Exercise.Schema

namespace PropTutor

/-- Why a value is no exercise. -/
inductive DecodeError where
  /-- The value is of this kind and has no members. -/
  | notRecord (kind : String)
  | diagnosed (error : GradingError)

namespace Exercise

/-- A part of a stored exercise: nothing stands for an empty object, and a text is read as
    JSON. -/
def loadPart (part : ExercisePart) : Option Json → Except GradingError Json
  | none => .ok (.object [])
  | some .null => .ok (.object [])
  | some (.str s) => (Json.ofText s).mapError (.badJson part)
  | some v => .ok v

/-- The content of an equivalence exercise, into which the record's own formula is put unless
    the content has one. -/
def withOwnFormula (formula : Option Json) (content : Json) : Json :=
  match formula, content with
  | some f, .object members =>
    if f.truthy && (members.lookup "formula").isNone then .object (members ++ [("formula", f)])
    else content
  | _, _ => content

/-- The value of a checked record, or its error. -/
def accept {α : Type} (kind : ExerciseKind) : Checked α → Except GradingError α
  | .ok a => .ok a
  | .bad first rest => .error (.badRecord kind (rest.length + 1) first)

/-- Read the content and the key of a task, the content first. -/
def readTask (kind : ExerciseKind) (content solution : Json) : Except GradingError Task :=
  let pair {α β : Type} (make : α → β → Task) (a : Json → Checked α) (b : Json → Checked β) :
      Except GradingError Task := do
    let a ← accept kind (a content)
    let b ← accept kind (b solution)
    return make a b
  match kind with
  | .equivalence => pair .equivalence EquivalenceTarget.readContent EquivalenceTarget.readKey
  | .multipleChoice => pair .multipleChoice ChoiceContent.read ChoiceKey.read
  | .symbolArrangement => pair .symbolArrangement ArrangementContent.read AcceptedFormulas.read
  | .formulation => pair .formulation FormulationContent.read AcceptedFormulas.read
  | .validation => pair .validation ArgumentContent.read ValidityKey.read
  | .truthTable => pair .truthTable TableContent.read TableKey.read
  | .proof => pair .proof ProofContent.read ProofKey.read
  | .normalForm => pair .normalForm NormalFormContent.read AcceptedFormulas.read
  | .identifyFallacy => pair .identifyFallacy FallacyContent.read FallacyKey.read

/-- The exercise that the members of a stored record hold. -/
def ofMembers (members : List (String × Json)) : Except GradingError Exercise := do
  let tag := (members.lookup "type").getD .null
  let kind ← match tag.str?.bind ExerciseKind.ofName? with
    | some kind => .ok kind
    | none => .error (.unknownKind tag)
  let content ← loadPart .content (members.lookup "content")
  let solution ← loadPart .solution (members.lookup "solution")
  let content :=
    if kind = .equivalence then withOwnFormula (members.lookup "formula") content else content
  let task ← readTask kind content solution
  let explanation := (members.lookup "explanation").bind fun v =>
    if v.truthy then some v.toText else none
  return ⟨task, explanation⟩

/-- The exercise that a stored record holds. -/
def decode : Json → Except DecodeError Exercise
  | .object members => (ofMembers members).mapError .diagnosed
  | v => .error (.notRecord v.kindName)

end Exercise

/-- The wording of the error. -/
def DecodeError.message : DecodeError → String
  | notRecord kind => "'" ++ kind ++ "' object has no attribute 'get'"
  | diagnosed error => error.message

end PropTutor
