/-
  Answers that are matched with accepted formulas.

  An answer counts as correct if it has the spelling of an accepted formula or its value under
  every assignment. Both make it a formula with the value of an accepted one, with one
  exception: the spelling of a text without tokens is compared without its blanks, so it is the
  text without its blanks that is such a formula. `P - > Q` is a text of this kind
  (`split_connective_is_accepted`).
-/
import PropTutor.Proofs.Formula.Spelling
import PropTutor.Proofs.Grading.Grade
import PropTutor.Proofs.Semantics.Answers

namespace PropTutor

variable {s : Except SettingsError Settings}

/-- The formulas that a task accepts; only some kinds of tasks have them. -/
def Task.accepted? : Task → Option (List String)
  | symbolArrangement _ key => some key.formulas
  | formulation _ key => some key.formulas
  | normalForm _ key => some key.formulas
  | _ => none

namespace Formula

/-- The formula has the value of an accepted one under every assignment. -/
def Matches (f : Formula) (accepted : List String) : Prop :=
  ∃ t ∈ accepted, ∃ g, parse t = .ok g ∧ ∀ a : Assignment, f.eval a.value = g.eval a.value

end Formula

namespace Grading

/-! ## Matching -/

/-- What the search finds has the same value under every assignment. -/
theorem matches_of_searchEquivalent {student : Formula} {candidates : List String} {found : Match}
    (h : (searchEquivalent student candidates).Gives s (some found)) :
    student.Matches candidates := by
  induction candidates with
  | nil => exact nomatch Action.gives_pure.1 h
  | cons candidate rest ih =>
    have hrest : (searchEquivalent student rest).Gives s (some found) →
        student.Matches (candidate :: rest) := by
      intro h
      obtain ⟨t, ht, hmatches⟩ := ih h
      exact ⟨t, List.mem_cons_of_mem _ ht, hmatches⟩
    rw [searchEquivalent] at h
    split at h
    · exact hrest (Action.gives_log_bind.1 h)
    · next g hg =>
      obtain ⟨equivalent, hequivalent, h⟩ := Action.gives_bind.1 h
      obtain ⟨settings, -, hequivalent⟩ := Action.gives_tabulating.1 hequivalent
      have hmeans := (Formula.isEquivalent_eq_ok.1 hequivalent).2
      cases equivalent with
      | true => exact ⟨candidate, List.mem_cons_self .., g, hg, hmeans.1 rfl⟩
      | false => exact hrest h

/-- A text that matches is a formula with the value of an accepted one, as it stands or, if it
    has no tokens, without its blanks. -/
theorem matches_of_matchAccepted {accepted : List String} {text : String} {found : Match}
    (haccepted : ∀ t ∈ accepted, ∃ g, Formula.parse t = .ok g)
    (h : (matchAccepted accepted text).Gives s (.ok (some found))) :
    ∃ read f, (read = text ∨ signature? text = none ∧ read = withoutBlanks text) ∧
      Formula.parse read = .ok f ∧ f.Matches accepted := by
  rw [matchAccepted] at h
  split at h
  · next hany =>
    obtain ⟨t, ht, hspelling⟩ := List.any_eq_true.1 hany
    obtain ⟨g, hg⟩ := haccepted t ht
    have hmatches : g.Matches accepted := ⟨t, ht, g, hg, fun _ => rfl⟩
    rcases Formula.parse_of_sameSpelling hspelling hg with hread | ⟨hnone, hread⟩
    · exact ⟨text, g, .inl rfl, hread, hmatches⟩
    · exact ⟨withoutBlanks text, g, .inr ⟨hnone, rfl⟩, hread, hmatches⟩
  · split at h
    · exact nomatch Action.gives_pure.1 h
    · next student hstudent =>
      obtain ⟨result, hsearch, h⟩ := Action.gives_bind.1 h
      obtain rfl : result = some found := Except.ok.inj (Action.gives_pure.1 h)
      exact ⟨text, student, .inl rfl, hstudent, matches_of_searchEquivalent hsearch⟩

/-! ## Grading -/

/-- An exercise with accepted formulas is graded correct only if the answer's text matches. -/
theorem matched_of_acceptedFormula {key : AcceptedFormulas} {explanation : Option String}
    {answer : Json} {r : GradingResult} (h : (acceptedFormula key explanation answer).Gives s r)
    (hcorrect : r.isCorrect = true) : ∃ text found, Answer.formula answer = .ok text ∧
      (matchAccepted key.formulas text).Gives s (.ok (some found)) := by
  rw [acceptedFormula] at h
  obtain ⟨text, htext, h⟩ := Action.gives_bind.1 h
  obtain ⟨outcome, houtcome, h⟩ := Action.gives_bind.1 h
  have htext := Action.gives_ofExcept.1 htext
  split at h
  · obtain rfl := Action.gives_pure.1 h
    cases hcorrect
  · obtain rfl := Action.gives_pure.1 h
    cases hcorrect
  · next found => exact ⟨text, found, htext, houtcome⟩

theorem matched_of_normalForm {content : NormalFormContent} {key : AcceptedFormulas}
    {explanation : Option String} {answer : Json} {r : GradingResult}
    (h : (normalForm content key explanation answer).Gives s r) (hcorrect : r.isCorrect = true) :
    ∃ text found, Answer.formula answer = .ok text ∧
      (matchAccepted key.formulas text).Gives s (.ok (some found)) := by
  rw [normalForm] at h
  obtain ⟨text, htext, h⟩ := Action.gives_bind.1 h
  obtain ⟨outcome, houtcome, h⟩ := Action.gives_bind.1 h
  have htext := Action.gives_ofExcept.1 htext
  split at h
  · obtain rfl := Action.gives_pure.1 h
    cases hcorrect
  · split at h
    · obtain rfl := Action.gives_pure.1 h
      cases hcorrect
    · next found => exact ⟨text, found, htext, houtcome⟩

theorem matched_of_evaluate {e : Exercise} {accepted : List String} {answer : Json}
    {r : GradingResult} (htask : e.task.accepted? = some accepted)
    (h : (evaluate e answer).Gives s r) (hcorrect : r.isCorrect = true) :
    ∃ text found, Answer.formula answer = .ok text ∧
      (matchAccepted accepted text).Gives s (.ok (some found)) := by
  obtain ⟨task, explanation⟩ := e
  cases task with
  | symbolArrangement content key =>
    obtain rfl : key.formulas = accepted := Option.some.inj htask
    exact matched_of_acceptedFormula h hcorrect
  | formulation content key =>
    obtain rfl : key.formulas = accepted := Option.some.inj htask
    exact matched_of_acceptedFormula h hcorrect
  | normalForm content key =>
    obtain rfl : key.formulas = accepted := Option.some.inj htask
    exact matched_of_normalForm h hcorrect
  | _ => cases htask

end Grading

/-- An answer to an exercise whose accepted formulas can all be read is correct only if its
    text is a formula with the value of an accepted one under every assignment. A text that has
    no tokens is read without its blanks. -/
theorem correct_answer_has_accepted_meaning {record answer : Json} {e : Exercise}
    {accepted : List String} {r : GradingResult} (hrecord : Exercise.decode record = .ok e)
    (htask : e.task.accepted? = some accepted)
    (haccepted : ∀ t ∈ accepted, ∃ g, Formula.parse t = .ok g)
    (hgives : (gradeStored record answer).Gives s r) (hcorrect : r.isCorrect = true) :
    ∃ text read f, Answer.formula answer = .ok text ∧
      (read = text ∨ signature? text = none ∧ read = withoutBlanks text) ∧
      Formula.parse read = .ok f ∧ ∃ t ∈ accepted, ∃ g, Formula.parse t = .ok g ∧
        ∀ a : Assignment, f.eval a.value = g.eval a.value := by
  have hevaluate := evaluated_of_isCorrect hrecord hgives hcorrect
  obtain ⟨text, found, htext, hfound⟩ := Grading.matched_of_evaluate htask hevaluate hcorrect
  obtain ⟨read, f, hread, hparse, hmatches⟩ := Grading.matches_of_matchAccepted haccepted hfound
  exact ⟨text, read, f, htext, hread, hparse, hmatches⟩

/-- A stored exercise that accepts `P -> Q`. -/
def arrowRecord : Json :=
  .object [("type", .str "FORMULATION"),
    ("content", .object [("naturalLanguage", .str "If P, then Q.")]),
    ("solution", .object [("correctFormulas", .list [.str "P -> Q"])])]

/-- The exercise of this record. -/
def arrowExercise : Exercise := ⟨.formulation ⟨"If P, then Q.", [], none⟩ ⟨["P -> Q"]⟩, none⟩

/-- The contraposition is accepted for `P -> Q`, and has its value under every assignment. -/
theorem correct_answer_has_accepted_meaning_contraposed :
    Exercise.decode arrowRecord = .ok arrowExercise ∧
    arrowExercise.task.accepted? = some ["P -> Q"] ∧
    (∀ t ∈ ["P -> Q"], ∃ g, Formula.parse t = .ok g) ∧
    (gradeStored arrowRecord (.str "~Q => ~P")).Gives (.ok .standard)
      (.correct "Correct!" none (.formula .equivalent)) ∧
    (GradingResult.correct "Correct!" none (.formula .equivalent)).isCorrect = true ∧
    ∃ text read f, Answer.formula (.str "~Q => ~P") = .ok text ∧
      (read = text ∨ signature? text = none ∧ read = withoutBlanks text) ∧
      Formula.parse read = .ok f ∧ ∃ t ∈ ["P -> Q"], ∃ g, Formula.parse t = .ok g ∧
        ∀ a : Assignment, f.eval a.value = g.eval a.value := by
  have haccepted : ∀ t ∈ ["P -> Q"], ∃ g, Formula.parse t = .ok g := by
    intro t ht
    obtain rfl := List.mem_singleton.1 ht
    exact ⟨.imp (.atom "P") (.atom "Q"), rfl⟩
  have hgives : (gradeStored arrowRecord (.str "~Q => ~P")).Gives (.ok .standard)
      (.correct "Correct!" none (.formula .equivalent)) := rfl
  have hrecord : Exercise.decode arrowRecord = .ok arrowExercise := rfl
  exact ⟨hrecord, rfl, haccepted, hgives, rfl,
    correct_answer_has_accepted_meaning hrecord rfl haccepted hgives rfl⟩

/-- With a blank inside its connective an answer has no tokens and is no formula. It has the
    spelling of `P -> Q` all the same, and is correct. -/
theorem split_connective_is_accepted :
    Exercise.decode arrowRecord = .ok arrowExercise ∧
    arrowExercise.task.accepted? = some ["P -> Q"] ∧
    (∀ t ∈ ["P -> Q"], ∃ g, Formula.parse t = .ok g) ∧
    (gradeStored arrowRecord (.str "P - > Q")).Gives (.ok .standard)
      (.correct "Correct!" none (.formula .exact)) ∧
    (GradingResult.correct "Correct!" none (.formula .exact)).isCorrect = true ∧
    Answer.formula (.str "P - > Q") = .ok "P - > Q" ∧
    Formula.parse "P - > Q" = .error (.strayCharacter '-' 2) := by
  refine ⟨rfl, rfl, fun t ht => ?_, rfl, rfl, rfl, rfl⟩
  obtain rfl := List.mem_singleton.1 ht
  exact ⟨.imp (.atom "P") (.atom "Q"), rfl⟩

end PropTutor
