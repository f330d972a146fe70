/-
  Grading derivations.

  A derivation is checked by meaning: a step is supported if it is a formula that the
  premises entail, and the last step has to have the same value as the conclusion under every
  assignment. No rule of inference is checked.
-/
import PropTutor.Grading.Formulas

namespace PropTutor.Grading

/-- The conjunction of the premises, from left to right; there may be none. -/
def conjunction? : List Formula → Option Formula
  | [] => none
  | f :: rest => some (rest.foldl Formula.conj f)

/-- The premises entail the formula. -/
def follows (premises : List Formula) (f : Formula) : Action Bool :=
  Action.tabulating fun limit =>
    match conjunction? premises with
    | none => f.isTautology limit
    | some p => p.entails limit f

/-- The step is a formula that follows from the premises. -/
def isSupported (premises : List Formula) (step : String) : Action Bool :=
  match Formula.parse step with
  | .error _ => return false
  | .ok f => follows premises f

/-- The numbers of the steps that are not supported; the first step has the number `n`. -/
def unsupportedFrom (premises : List Formula) (n : Nat) : List String → Action (List Nat)
  | [] => return []
  | step :: rest => do
    let supported ← isSupported premises step
    let others ← unsupportedFrom premises (n + 1) rest
    return if supported then others else n :: others

/-- The step says the same as the conclusion. -/
def concludes (conclusion : Formula) (step : String) : Action Bool :=
  match Formula.parse step with
  | .error _ => return false
  | .ok f => Action.tabulating fun limit => f.isEquivalent limit conclusion

/-- The score of a derivation: the part of its steps that is supported, and half of that if
    the derivation does not reach the conclusion or is too long. -/
def derivationScore (r : ProofReport) : Rat :=
  let share : Rat := (r.supported : Rat) / r.total
  if r.reachesConclusion && r.withinLimit then share else share / 2

/-- What is said about a derivation that is not correct. -/
def derivationFeedback (r : ProofReport) (limit : Option Int) : String :=
  if !r.unsupported.isEmpty then
    "Steps " ++ ", ".intercalate (r.unsupported.map toString) ++ " do not follow from the premises."
  else if !r.reachesConclusion then
    "Every step follows, but the last step is not the conclusion."
  else
    "The proof uses " ++ toString r.total ++ " steps; at most "
      ++ toString (limit.getD 0) ++ " are allowed."

/-- Grade a derivation. -/
def derivation (content : ProofContent) (key : ProofKey) (explanation : Option String)
    (answer : Json) : Action GradingResult := do
  let premises ← demand (content.premises.mapM (exerciseFormula .premise))
  let conclusion ← demand (exerciseFormula .conclusion content.conclusion)
  let steps ← demand (Answer.steps answer)
  match steps.getLast? with
  | none => return .incorrect "No proof steps submitted." explanation 0 .nothing
  | some last =>
    let unsupported ← unsupportedFrom premises 1 steps
    let reached ← concludes conclusion last
    let report : ProofReport := {
      supported := steps.length - unsupported.length
      total := steps.length
      unsupported := unsupported
      reachesConclusion := reached
      withinLimit := content.maxSteps.all fun limit => decide ((steps.length : Int) ≤ limit)
      referenceSteps := key.steps.length }
    if report.unsupported.isEmpty && report.reachesConclusion && report.withinLimit then
      return .correct "Correct! Every step follows and you reached the conclusion." explanation
        (.proof report)
    else
      return .incorrect (derivationFeedback report content.maxSteps) explanation
        (derivationScore report) (.proof report)

end PropTutor.Grading
