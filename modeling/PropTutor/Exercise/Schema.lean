/-
  The fields of exercise records.

  Each field has its stored key and, where that differs, a second key; the first one that
  is there counts. Members with other keys are ignored.
-/
import PropTutor.Exercise.Basic
import PropTutor.Exercise.Field

namespace PropTutor

namespace EquivalenceTarget

/-- The content of an equivalence exercise. -/
def readContent : Json → Checked EquivalenceTarget :=
  Field.record "EquivalenceContent" fun m => mk
    <$> Field.defaulted ["targetFormula", "target_formula", "formula"] none
      (Field.nullable Field.nonemptyText) m

/-- The key of an equivalence exercise. -/
def readKey : Json → Checked EquivalenceTarget :=
  Field.record "EquivalenceSolution" fun m => mk
    <$> Field.defaulted ["targetFormula", "target_formula"] none (Field.nullable Field.text) m

end EquivalenceTarget

/-- An option of a multiple choice. -/
def ChoiceOption.read : Json → Checked ChoiceOption :=
  Field.record "ChoiceOption" fun m => mk
    <$> Field.required ["id"] Field.text m
    <*> Field.defaulted ["text"] "" Field.text m
    <*> Field.defaulted ["isFormula", "is_formula"] false Field.boolean m

/-- The content of a multiple choice. -/
def ChoiceContent.read : Json → Checked ChoiceContent :=
  Field.record "MultipleChoiceContent" fun m => mk
    <$> Field.defaulted ["question"] "" Field.text m
    <*> Field.defaulted ["options"] [] (Field.list ChoiceOption.read) m
    <*> Field.defaulted ["allowMultiple", "allow_multiple"] false Field.boolean m
    <*> Field.defaulted ["randomizeOrder", "randomize_order"] false Field.boolean m

/-- The key of a multiple choice. -/
def ChoiceKey.read : Json → Checked ChoiceKey :=
  Field.record "MultipleChoiceSolution" fun m => mk
    <$> Field.required ["correctOptionIds", "correct_option_ids"] (Field.nonemptyList Field.text) m
    <*> Field.defaulted ["explanations"] [] (Field.object Field.text) m

/-- A symbol that may be placed. -/
def AvailableSymbol.read : Json → Checked AvailableSymbol :=
  Field.record "AvailableSymbol" fun m => mk
    <$> Field.required ["id"] Field.text m
    <*> Field.required ["symbol"] Field.text m
    <*> Field.defaulted ["count"] 1 (Field.integerFrom 0) m

/-- The content of a symbol arrangement. -/
def ArrangementContent.read : Json → Checked ArrangementContent :=
  Field.record "SymbolArrangementContent" fun m => mk
    <$> Field.defaulted ["instruction"] "" Field.text m
    <*> Field.defaulted ["availableSymbols", "available_symbols"] []
      (Field.list AvailableSymbol.read) m
    <*> Field.defaulted ["targetDescription", "target_description"] none
      (Field.nullable Field.text) m

/-- The key of the exercises that ask for a formula. -/
def AcceptedFormulas.read : Json → Checked AcceptedFormulas :=
  Field.record "AcceptedFormulasSolution" fun m => mk
    <$> Field.required ["correctFormulas", "correct_formulas"] (Field.nonemptyList Field.text) m

/-- The content of a formulation. -/
def FormulationContent.read : Json → Checked FormulationContent :=
  Field.record "FormulationContent" fun m => mk
    <$> Field.required ["naturalLanguage", "natural_language"] Field.text m
    <*> Field.defaulted ["variables"] [] (Field.object Field.text) m
    <*> Field.defaulted ["hint"] none (Field.nullable Field.text) m

/-- The content of an argument validation. -/
def ArgumentContent.read : Json → Checked ArgumentContent :=
  Field.record "ValidationContent" fun m => mk
    <$> Field.defaulted ["premises"] [] (Field.list Field.text) m
    <*> Field.required ["conclusion"] Field.text m
    <*> Field.defaulted ["argumentInNaturalLanguage", "argument_in_natural_language"] none
      (Field.nullable Field.text) m

/-- The key of an argument validation. -/
def ValidityKey.read : Json → Checked ValidityKey :=
  Field.record "ValidationSolution" fun m => mk
    <$> Field.required ["isValid", "is_valid"] Field.boolean m
    <*> Field.defaulted ["explanation"] "" Field.text m
    <*> Field.defaulted ["counterexample"] none (Field.nullable (Field.object Field.boolean)) m

/-- A cell of a truth table. -/
def Cell.read : Json → Checked Cell :=
  Field.record "HiddenCell" fun m => mk
    <$> Field.required ["row"] (Field.integerFrom 0) m
    <*> Field.required ["column"] Field.text m

/-- The content of a truth table exercise. -/
def TableContent.read : Json → Checked TableContent :=
  Field.record "TruthTableContent" fun m => mk
    <$> Field.required ["formula"] Field.text m
    <*> Field.defaulted ["hiddenCells", "hidden_cells"] [] (Field.list Cell.read) m
    <*> Field.defaulted ["showIntermediateColumns", "show_intermediate_columns"] false
      Field.boolean m

/-- The key of a truth table exercise. -/
def TableKey.read : Json → Checked TableKey :=
  Field.record "TruthTableSolution" fun m => mk
    <$> Field.required ["values"] (Field.object (Field.list Field.boolean)) m

/-- The content of a normal form exercise. -/
def NormalFormContent.read : Json → Checked NormalFormContent :=
  Field.record "NormalFormContent" fun m => mk
    <$> Field.required ["formula"] Field.text m
    <*> Field.required ["targetForm", "target_form"] Field.normalForm m

/-- A step of a derivation. -/
def ProofStep.read : Json → Checked ProofStep :=
  Field.record "ProofStep" fun m => mk
    <$> Field.required ["formula"] Field.text m
    <*> Field.defaulted ["justification"] "" Field.text m
    <*> Field.defaulted ["lineRefs", "line_refs"] [] (Field.list Field.integer) m

/-- The content of a proof exercise. -/
def ProofContent.read : Json → Checked ProofContent :=
  Field.record "ProofContent" fun m => mk
    <$> Field.defaulted ["premises"] [] (Field.list Field.text) m
    <*> Field.required ["conclusion"] Field.text m
    <*> Field.defaulted ["allowedRules", "allowed_rules"] [] (Field.list Field.text) m
    <*> Field.defaulted ["maxSteps", "max_steps"] none (Field.nullable (Field.integerFrom 1)) m

/-- The key of a proof exercise. -/
def ProofKey.read : Json → Checked ProofKey :=
  Field.record "ProofSolution" fun m => mk
    <$> Field.defaulted ["proofSteps", "proof_steps"] [] (Field.list ProofStep.read) m

/-- A fallacy to choose from. -/
def FallacyOption.read : Json → Checked FallacyOption :=
  Field.record "FallacyOption" fun m => mk
    <$> Field.required ["id"] Field.text m
    <*> Field.defaulted ["name"] "" Field.text m
    <*> Field.defaulted ["description"] "" Field.text m

/-- The content of a fallacy exercise. -/
def FallacyContent.read : Json → Checked FallacyContent :=
  Field.record "IdentifyFallacyContent" fun m => mk
    <$> Field.defaulted ["argument"] "" Field.text m
    <*> Field.defaulted ["options"] [] (Field.list FallacyOption.read) m

/-- The key of a fallacy exercise. -/
def FallacyKey.read : Json → Checked FallacyKey :=
  Field.record "IdentifyFallacySolution" fun m => mk
    <$> Field.required ["correctFallacyId", "correct_fallacy_id"] Field.nonemptyText m
    <*> Field.defaulted ["explanation"] "" Field.text m

end PropTutor
