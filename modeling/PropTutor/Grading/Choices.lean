/-
  Grading choices: multiple choice, the verdict on an argument, and the choice of a fallacy.
-/
import PropTutor.Grading.Answer
import PropTutor.Grading.Result

namespace PropTutor.Grading

/-- How many of the selected options are right and how many are wrong, each option counted
    once. -/
def choiceCounts (selected correct : List String) : ChoiceCounts :=
  let selected := selected.eraseDups
  let correct := correct.eraseDups
  { right := (selected.filter correct.contains).length
    wrong := (selected.filter (!correct.contains ·)).length
    total := correct.length }

/-- The score of a choice of several options: right ones less wrong ones, by the number of
    right options there are, and never below zero. -/
def choiceScore (c : ChoiceCounts) : Rat := mkRat (c.right - c.wrong : Nat) c.total

/-- Every right option and no wrong one was selected. -/
def ChoiceCounts.complete (c : ChoiceCounts) : Bool := c.right == c.total && c.wrong == 0

/-- Grade a multiple choice. -/
def multipleChoice (content : ChoiceContent) (key : ChoiceKey) (explanation : Option String)
    (answer : Json) : Except GradingError GradingResult := do
  let selected ← Answer.optionIds answer
  let counts := choiceCounts selected key.correctIds
  let remarks := key.remarks.filter fun r => selected.contains r.1
  if content.allowMultiple then
    let details := Details.choice (some counts) remarks
    if ChoiceCounts.complete counts then
      return .correct "Correct! You selected every right option." explanation details
    else
      return .incorrect
        ("Partially correct: " ++ toString counts.right ++ " of " ++ toString counts.total
          ++ " right options selected, " ++ toString counts.wrong ++ " wrong.")
        explanation (choiceScore counts) details
  else
    let details := Details.choice none remarks
    if ChoiceCounts.complete counts then return .correct "Correct!" explanation details
    else return .incorrect "Incorrect answer." explanation 0 details

/-- The explanation of the exercise, or else the one of its key if that is not empty. -/
def explanationOr (explanation : Option String) (other : String) : Option String :=
  explanation.or (if other.isEmpty then none else some other)

/-- Grade a verdict on an argument. -/
def validation (key : ValidityKey) (explanation : Option String) (answer : Json) :
    Except GradingError GradingResult := do
  let explanation := explanationOr explanation key.explanation
  let submitted ← Answer.truth answer
  let details := match key.counterexample with
    | some (a :: rest) => Details.counterexample (a :: rest)
    | _ => .nothing
  if submitted == key.isValid then
    let verdict := if key.isValid then "valid" else "invalid"
    return .correct ("Correct! The argument is " ++ verdict ++ ".") explanation details
  else
    return .incorrect "Incorrect. Review the argument's premises and conclusion." explanation 0
      details

/-- Grade the choice of a fallacy. -/
def fallacy (key : FallacyKey) (explanation : Option String) (answer : Json) :
    Except GradingError GradingResult := do
  let explanation := explanationOr explanation key.explanation
  let submitted ← Answer.fallacyId answer
  if Text.strip submitted == key.correctId then
    return .correct "Correct! You identified the fallacy." explanation .nothing
  else
    return .incorrect "Incorrect. That is not the fallacy in this argument." explanation 0 .nothing

end PropTutor.Grading
