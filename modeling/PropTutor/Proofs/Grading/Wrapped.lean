/-
  Wrapped answers are graded like bare ones, unless a single option is wrapped.

  An answer may stand under a member of an object, and the steps of a derivation may each stand
  under one as well (`Exercise.Wraps`). The reader of each kind of exercise takes the answer out,
  so it reads what is wrapped as it reads what is bare (`Exercise.Wraps.readAlike`), and the rest
  of grading sees nothing else of an answer (`Grading.evaluate_of_readAlike`). The identifier of a
  single option is the exception: it is read if it is bare, and under a member a list is demanded.
-/
import PropTutor.Proofs.Grading.MultipleChoice
import PropTutor.Proofs.Grading.Signature

namespace PropTutor

namespace Answer

/-- Both answers are read as the same one for exercises of this kind. -/
def ReadAlike (kind : ExerciseKind) (answer answer' : Json) : Prop :=
  match kind with
  | .multipleChoice => optionIds answer = optionIds answer'
  | .validation => truth answer = truth answer'
  | .truthTable => cells answer = cells answer'
  | .proof => steps answer = steps answer'
  | .identifyFallacy => fallacyId answer = fallacyId answer'
  | _ => formula answer = formula answer'

variable {members : List (String × Json)}

theorem formula_of_lookup {s : String} (h : members.lookup "formula" = some (.str s)) :
    formula (.object members) = formula (.str s) := by
  unfold formula
  dsimp only
  rw [h]

theorem fallacyId_of_lookup {s : String} (h : members.lookup "fallacyId" = some (.str s)) :
    fallacyId (.object members) = fallacyId (.str s) := by
  unfold fallacyId
  dsimp only
  rw [h, Option.getD_some]

theorem truthMember?_of_lookup {v : Json} (h : members.lookup "isValid" = some v) :
    truthMember? members = some (truth v) := by
  induction members with
  | nil => cases h
  | cons m rest ih =>
    obtain ⟨k, w⟩ := m
    rw [List.lookup_cons, BEq.comm] at h
    rw [truthMember?]
    split
    · next hk =>
      rw [hk] at h
      rw [Option.some.inj h]
    · next hk =>
      rw [Bool.eq_false_iff.2 hk] at h
      exact ih h

/-- A truth value is looked for under `isValid`, however deep it stands. -/
theorem truth_of_lookup {v : Json} (h : members.lookup "isValid" = some v) :
    truth (.object members) = truth v := by
  rw [truth, truthMember?_of_lookup h, Option.getD_some]

theorem steps_of_lookup {items : List Json} (h : members.lookup "steps" = some (.list items)) :
    steps (.object members) = steps (.list items) := by
  unfold steps
  dsimp only
  rw [h, Option.getD_some]

/-- A step is looked for under `formula`. -/
theorem steps_of_step {s : String} (h : members.lookup "formula" = some (.str s))
    (before after : List Json) :
    steps (.list (before ++ .object members :: after)) =
      steps (.list (before ++ .str s :: after)) := by
  unfold steps
  dsimp only
  rw [List.map_append, List.map_cons, List.map_append, List.map_cons]
  dsimp only
  rw [h, Option.getD_some]

end Answer

/-- The answer on the right is wrapped, as the exercise takes it, in the one on the left: it stands
    there under a member of an object, or this is so for one of its steps. -/
inductive Exercise.Wraps (e : Exercise) : Json → Json → Prop
  | formula {members s} : e.AsksFormula → members.lookup "formula" = some (.str s) →
      Wraps e (.object members) (.str s)
  | selected {members ids} : e.kind = .multipleChoice →
      members.lookup "selected" = some (.list ids) → Wraps e (.object members) (.list ids)
  | selectedOptionIds {members ids} : e.kind = .multipleChoice →
      members.lookup "selected" = none → members.lookup "selectedOptionIds" = some (.list ids) →
      Wraps e (.object members) (.list ids)
  | isValid {members v} : e.kind = .validation → members.lookup "isValid" = some v →
      Wraps e (.object members) v
  | steps {members items} : e.kind = .proof → members.lookup "steps" = some (.list items) →
      Wraps e (.object members) (.list items)
  | step {members s} (before after) : e.kind = .proof →
      members.lookup "formula" = some (.str s) →
      Wraps e (.list (before ++ .object members :: after)) (.list (before ++ .str s :: after))
  | fallacyId {members s} : e.kind = .identifyFallacy →
      members.lookup "fallacyId" = some (.str s) → Wraps e (.object members) (.str s)

/-- What is wrapped is read as what is bare. -/
theorem Exercise.Wraps.readAlike {e : Exercise} {wrapped bare : Json} (h : e.Wraps wrapped bare) :
    Answer.ReadAlike e.kind wrapped bare := by
  cases h with
  | formula hkind hs =>
    rcases hkind with hkind | hkind | hkind | hkind <;>
    · rw [hkind]
      exact Answer.formula_of_lookup hs
  | selected hkind hids =>
    rw [hkind]
    exact Answer.optionIds_of_submits (.selected hids)
  | selectedOptionIds hkind hnone hids =>
    rw [hkind]
    exact Answer.optionIds_of_submits (.selectedOptionIds hnone hids)
  | isValid hkind hv =>
    rw [hkind]
    exact Answer.truth_of_lookup hv
  | steps hkind hitems =>
    rw [hkind]
    exact Answer.steps_of_lookup hitems
  | step before after hkind hs =>
    rw [hkind]
    exact Answer.steps_of_step hs before after
  | fallacyId hkind hs =>
    rw [hkind]
    exact Answer.fallacyId_of_lookup hs

namespace Grading

variable {e : Exercise} {answer answer' : Json}

/-- Grading sees of an answer only how it is read. -/
theorem evaluate_of_readAlike (h : Answer.ReadAlike e.kind answer answer') :
    evaluate e answer = evaluate e answer' := by
  obtain ⟨task, explanation⟩ := e
  cases task with
  | equivalence content key =>
    have h : Answer.formula answer = Answer.formula answer' := h
    show equivalence content key explanation answer = equivalence content key explanation answer'
    rw [equivalence, equivalence, h]
  | multipleChoice content key =>
    have h : Answer.optionIds answer = Answer.optionIds answer' := h
    show demand (multipleChoice content key explanation answer) =
      demand (multipleChoice content key explanation answer')
    rw [multipleChoice, multipleChoice, h]
  | symbolArrangement content key =>
    have h : Answer.formula answer = Answer.formula answer' := h
    show acceptedFormula key explanation answer = acceptedFormula key explanation answer'
    rw [acceptedFormula, acceptedFormula, h]
  | formulation content key =>
    have h : Answer.formula answer = Answer.formula answer' := h
    show acceptedFormula key explanation answer = acceptedFormula key explanation answer'
    rw [acceptedFormula, acceptedFormula, h]
  | validation content key =>
    have h : Answer.truth answer = Answer.truth answer' := h
    show demand (validation key explanation answer) = demand (validation key explanation answer')
    rw [validation, validation, h]
  | truthTable content key =>
    have h : Answer.cells answer = Answer.cells answer' := h
    show Action.ofExcept id (truthTable content key explanation answer) =
      Action.ofExcept id (truthTable content key explanation answer')
    rw [truthTable, truthTable, h]
  | proof content key =>
    have h : Answer.steps answer = Answer.steps answer' := h
    show derivation content key explanation answer = derivation content key explanation answer'
    rw [derivation, derivation, h]
  | normalForm content key =>
    have h : Answer.formula answer = Answer.formula answer' := h
    show normalForm content key explanation answer = normalForm content key explanation answer'
    rw [normalForm, normalForm, h]
  | identifyFallacy content key =>
    have h : Answer.fallacyId answer = Answer.fallacyId answer' := h
    show demand (fallacy key explanation answer) = demand (fallacy key explanation answer')
    rw [fallacy, fallacy, h]

/-- However often an answer is wrapped, it is evaluated as the bare one. -/
theorem evaluate_of_wraps {wrapped bare : Json} (h : Relation.ReflTransGen e.Wraps wrapped bare) :
    evaluate e wrapped = evaluate e bare := by
  induction h with
  | refl => rfl
  | tail _ hlast ih => exact ih.trans (evaluate_of_readAlike hlast.readAlike)

/-- A single option is not read from under a member. -/
theorem optionIds_of_single {members : List (String × Json)} {s : String}
    (h : members.lookup "selected" = some (.str s) ∨
      members.lookup "selected" = none ∧ members.lookup "selectedOptionIds" = some (.str s)) :
    Answer.optionIds (.object members) = .error (.notOptionIds (.str s)) := by
  rcases h with h | ⟨hnone, h⟩
  · rw [Answer.optionIds, h]
    rfl
  · rw [Answer.optionIds, hnone, h]
    rfl

end Grading

/-- An answer that is wrapped, at any depth and in its steps or as a whole, is graded as the bare
    one. The identifier of a single option is the exception: under a member it is not taken for an
    answer, whichever option it names. -/
theorem wrapped_answers_graded_alike_unless_single_option {record : Json} {e : Exercise}
    (hrecord : Exercise.decode record = .ok e) :
    (∀ wrapped bare, Relation.ReflTransGen e.Wraps wrapped bare →
      gradeStored record wrapped = gradeStored record bare) ∧
    (e.kind = .multipleChoice → ∀ members s, (members.lookup "selected" = some (.str s) ∨
        members.lookup "selected" = none ∧ members.lookup "selectedOptionIds" = some (.str s)) →
      ∀ settings, (gradeStored record (.object members)).Gives settings
        (Grading.failed (.diagnosed (.notOptionIds (.str s))))) := by
  refine ⟨fun wrapped bare h => ?_, fun hkind members s h settings => ?_⟩
  · rw [gradeStored_eq hrecord, gradeStored_eq hrecord]
    exact Exercise.grade_congr rfl (Grading.evaluate_of_wraps h)
  · refine (gives_gradeStored hrecord).2 (.inr ⟨_, ?_, rfl⟩)
    obtain ⟨task, explanation⟩ := e
    cases task with
    | multipleChoice content key =>
      show ((Grading.demand (Grading.multipleChoice content key explanation _)).run settings).result
        = _
      rw [Grading.multipleChoice, Grading.optionIds_of_single h]
      rfl
    | _ => cases hkind

/-- A stored exercise about an argument that is valid. -/
def validArgumentRecord : Json :=
  .object [("type", .str "VALIDATION"),
    ("content", .object [("premises", .list [.str "P"]), ("conclusion", .str "P")]),
    ("solution", .object [("isValid", .bool true)])]

/-- The exercise of this record. -/
def validArgument : Exercise := ⟨.validation ⟨["P"], "P", none⟩ ⟨true, "", none⟩, none⟩

/-- The number one is a truth value, and in an object in an object it is graded as it is bare. -/
theorem wrapped_answers_graded_alike_unless_single_option_nested :
    Exercise.decode validArgumentRecord = .ok validArgument ∧
    Relation.ReflTransGen validArgument.Wraps
      (.object [("isValid", .object [("isValid", .int 1)])]) (.int 1) ∧
    ∃ r, (gradeStored validArgumentRecord
        (.object [("isValid", .object [("isValid", .int 1)])])).Gives (.ok .standard) r ∧
      r.isCorrect = true := by
  have hrecord : Exercise.decode validArgumentRecord = .ok validArgument := rfl
  have hwraps : Relation.ReflTransGen validArgument.Wraps
      (.object [("isValid", .object [("isValid", .int 1)])]) (.int 1) :=
    .tail (.single (.isValid rfl rfl)) (.isValid rfl rfl)
  have hsame := (wrapped_answers_graded_alike_unless_single_option hrecord).1 _ _ hwraps
  refine ⟨hrecord, hwraps, ?_⟩
  rw [hsame]
  exact ⟨_, rfl, rfl⟩

/-- A stored multiple choice with a single right option. -/
def secondOptionRecord : Json :=
  .object [("type", .str "MULTIPLE_CHOICE"), ("content", .object []),
    ("solution", .object [("correctOptionIds", .list [.str "b"])])]

/-- The option is right if it is bare, and no answer if it is wrapped. -/
theorem single_option_in_object_is_no_answer :
    Exercise.decode secondOptionRecord =
      .ok ⟨.multipleChoice ⟨"", [], false, false⟩ ⟨["b"], []⟩, none⟩ ∧
    (∃ r, (gradeStored secondOptionRecord (.str "b")).Gives (.ok .standard) r ∧
      r.isCorrect = true) ∧
    ∃ r, (gradeStored secondOptionRecord (.object [("selected", .str "b")])).Gives
        (.ok .standard) r ∧
      r.isCorrect = false ∧
      r.feedback = "Could not grade this answer: Expected option id(s), got 'b'" :=
  ⟨rfl, ⟨_, rfl, rfl⟩, _, rfl, rfl, rfl⟩

end PropTutor
