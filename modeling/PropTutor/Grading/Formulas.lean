/-
  Grading formulas: equivalence exercises, and the exercises with a list of accepted
  formulas.

  An answer that is no formula gets a result that tells where the error is. An answer
  matches an accepted formula if both have the same spelling, or else the same value under
  every assignment; accepted formulas that cannot be read are passed over.
-/
import PropTutor.Formula.Parser
import PropTutor.Grading.Answer
import PropTutor.Grading.Result
import PropTutor.Token.Spelling

namespace PropTutor.Grading

/-- The result for a text that is no formula. -/
def syntaxErrorResult (e : SyntaxError) (explanation : Option String) : GradingResult :=
  .incorrect ("Syntax error: " ++ e.message) explanation 0 (.syntaxError e.pos e.token)

/-- A formula of the exercise itself. -/
def exerciseFormula (role : FormulaRole) (text : String) : Except GradingError Formula :=
  (Formula.parse text).mapError (.badFormula role text)

/-- The value, or else the diagnosis. -/
def demand {α : Type} (x : Except GradingError α) : Action α := Action.ofExcept .diagnosed x

/-- The target of an equivalence exercise: the one of the content, or else the one of the
    key. An empty text is no target. -/
def targetText (content key : EquivalenceTarget) : Except GradingError String :=
  let present (t : EquivalenceTarget) : Option String := t.target.filter (!·.isEmpty)
  match (present content).or (present key) with
  | some s => .ok s
  | none => .error .noTarget

/-- The result for a formula that is held against the target. A formula that is not equivalent is
    answered with the first assignment on which it differs from the target; verdict and assignment
    are read off separate tables. -/
def equivalenceResult (target : Formula) (explanation : Option String) (student : Formula) :
    Action GradingResult := do
  if ← Action.tabulating fun limit => student.isEquivalent limit target then
    return .correct "Correct! Your formula is logically equivalent." explanation .nothing
  else
    match ← Action.tabulating fun limit => (Formula.iff student target).counterModels limit with
    | a :: _ =>
      return .incorrect "Incorrect. Your formula is not equivalent; check the truth table."
        explanation 0 (.counterexample a)
    | [] => Action.fail .noDifference

/-- Grade an equivalence exercise. -/
def equivalence (content key : EquivalenceTarget) (explanation : Option String) (answer : Json) :
    Action GradingResult := do
  let target ← demand (targetText content key >>= exerciseFormula .target)
  match Formula.parse (← demand (Answer.formula answer)) with
  | .error e => return syntaxErrorResult e explanation
  | .ok student => equivalenceResult target explanation student

/-- The first accepted formula that has the same value as the student's under every
    assignment gives a match. -/
def searchEquivalent (student : Formula) : List String → Action (Option Match)
  | [] => return none
  | candidate :: rest => do
    match Formula.parse candidate with
    | .error e => do
      Action.log .grading .debug
        ("Skipping unparsable accepted formula " ++ Text.quoted candidate ++ ": " ++ e.message)
      searchEquivalent student rest
    | .ok g =>
      if ← Action.tabulating fun limit => student.isEquivalent limit g then
        return some .equivalent
      else searchEquivalent student rest

/-- Whether and how a text matches an accepted formula; a text that matches none has to be a
    formula. -/
def matchAccepted (accepted : List String) (text : String) :
    Action (Except SyntaxError (Option Match)) :=
  if accepted.any (sameSpelling text) then return .ok (some .exact)
  else match Formula.parse text with
    | .error e => return .error e
    | .ok student => do return .ok (← searchEquivalent student accepted)

/-- Grade an exercise with accepted formulas. -/
def acceptedFormula (key : AcceptedFormulas) (explanation : Option String) (answer : Json) :
    Action GradingResult := do
  let text ← demand (Answer.formula answer)
  match ← matchAccepted key.formulas text with
  | .error e => return syntaxErrorResult e explanation
  | .ok none =>
    return .incorrect "Incorrect. Your formula does not match any accepted answer." explanation 0
      .nothing
  | .ok (some found) => return .correct "Correct!" explanation (.formula found)

/-- Grade a normal form exercise. A match counts as correct whatever its shape; the shape is
    reported. -/
def normalForm (content : NormalFormContent) (key : AcceptedFormulas)
    (explanation : Option String) (answer : Json) : Action GradingResult := do
  let text ← demand (Answer.formula answer)
  match ← matchAccepted key.formulas text with
  | .error e => return syntaxErrorResult e explanation
  | .ok found =>
    let shape := (Formula.parse text).toOption.map (·.isInForm content.form)
    let inForm := shape.getD false
    match found with
    | none =>
      return .incorrect "Incorrect. Your formula is not equivalent to the expected result."
        explanation 0 (.normalForm none inForm)
    | some found =>
      let feedback :=
        if shape == some false then
          "Correct, your formula is equivalent, but it is not written in " ++ content.form.name
            ++ "."
        else "Correct!"
      return .correct feedback explanation (.normalForm (some found) inForm)

end PropTutor.Grading
