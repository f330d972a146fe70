/-
  The keys of exercise records.

  Every record that stored exercises consist of has its keys, and the reading of the record respects
  them: whatever else the record holds, and whichever key of a field it uses, the same is read. So
  the task of an exercise does not depend on such changes to its content and its key
  (`Exercise.readTask_of_changes`). An equivalence exercise takes a formula into its content under
  a key of its own, so only the other kinds are decoded from changed parts to what they were before
  (`Exercise.decode_of_partsChanged`).
-/
import PropTutor.Proofs.Exercise.Keys

namespace PropTutor

open KnownKeys

/-! ## Records -/

/-- The keys of the content of an equivalence exercise. -/
def EquivalenceTarget.contentKeys : KnownKeys :=
  .fields [(["targetFormula", "target_formula", "formula"], plain)]

theorem EquivalenceTarget.respects_readContent : contentKeys.Respects readContent := by
  refine FieldsRespect.record ?_ (by decide) _
  refine .map (.defaulted _ (respects_plain _) ?_) _
  simp

/-- The keys of the key of an equivalence exercise. -/
def EquivalenceTarget.keyKeys : KnownKeys := .fields [(["targetFormula", "target_formula"], plain)]

theorem EquivalenceTarget.respects_readKey : keyKeys.Respects readKey := by
  refine FieldsRespect.record ?_ (by decide) _
  refine .map (.defaulted _ (respects_plain _) ?_) _
  simp

/-- The keys of an option of a multiple choice. -/
def ChoiceOption.keys : KnownKeys :=
  .fields [(["id"], plain), (["text"], plain), (["isFormula", "is_formula"], plain)]

theorem ChoiceOption.respects_read : keys.Respects read := by
  refine FieldsRespect.record ?_ (by decide) _
  refine .seq (.seq (.map (.required (respects_plain _) ?_) _) (.defaulted _ (respects_plain _) ?_))
    (.defaulted _ (respects_plain _) ?_)
  all_goals simp

/-- The keys of the content of a multiple choice, with those of its options. -/
def ChoiceContent.keys : KnownKeys :=
  .fields [(["question"], plain), (["options"], .items ChoiceOption.keys),
    (["allowMultiple", "allow_multiple"], plain), (["randomizeOrder", "randomize_order"], plain)]

theorem ChoiceContent.respects_read : keys.Respects read := by
  refine FieldsRespect.record ?_ (by decide) _
  refine .seq (.seq (.seq (.map (.defaulted _ (respects_plain _) ?_) _)
    (.defaulted _ ChoiceOption.respects_read.list ?_)) (.defaulted _ (respects_plain _) ?_))
    (.defaulted _ (respects_plain _) ?_)
  all_goals simp

/-- The keys of the key of a multiple choice. -/
def ChoiceKey.keys : KnownKeys :=
  .fields [(["correctOptionIds", "correct_option_ids"], plain), (["explanations"], plain)]

theorem ChoiceKey.respects_read : keys.Respects read := by
  refine FieldsRespect.record ?_ (by decide) _
  refine .seq (.map (.required (respects_plain _) ?_) _) (.defaulted _ (respects_plain _) ?_)
  all_goals simp

/-- The keys of a symbol that may be placed. -/
def AvailableSymbol.keys : KnownKeys :=
  .fields [(["id"], plain), (["symbol"], plain), (["count"], plain)]

theorem AvailableSymbol.respects_read : keys.Respects read := by
  refine FieldsRespect.record ?_ (by decide) _
  refine .seq (.seq (.map (.required (respects_plain _) ?_) _) (.required (respects_plain _) ?_))
    (.defaulted _ (respects_plain _) ?_)
  all_goals simp

/-- The keys of the content of a symbol arrangement, with those of its symbols. -/
def ArrangementContent.keys : KnownKeys :=
  .fields [(["instruction"], plain),
    (["availableSymbols", "available_symbols"], .items AvailableSymbol.keys),
    (["targetDescription", "target_description"], plain)]

theorem ArrangementContent.respects_read : keys.Respects read := by
  refine FieldsRespect.record ?_ (by decide) _
  refine .seq (.seq (.map (.defaulted _ (respects_plain _) ?_) _)
    (.defaulted _ AvailableSymbol.respects_read.list ?_)) (.defaulted _ (respects_plain _) ?_)
  all_goals simp

/-- The keys of the key of the exercises that ask for a formula. -/
def AcceptedFormulas.keys : KnownKeys :=
  .fields [(["correctFormulas", "correct_formulas"], plain)]

theorem AcceptedFormulas.respects_read : keys.Respects read := by
  refine FieldsRespect.record ?_ (by decide) _
  refine .map (.required (respects_plain _) ?_) _
  simp

/-- The keys of the content of a formulation. -/
def FormulationContent.keys : KnownKeys :=
  .fields [(["naturalLanguage", "natural_language"], plain), (["variables"], plain),
    (["hint"], plain)]

theorem FormulationContent.respects_read : keys.Respects read := by
  refine FieldsRespect.record ?_ (by decide) _
  refine .seq (.seq (.map (.required (respects_plain _) ?_) _) (.defaulted _ (respects_plain _) ?_))
    (.defaulted _ (respects_plain _) ?_)
  all_goals simp

/-- The keys of the content of an argument validation. -/
def ArgumentContent.keys : KnownKeys :=
  .fields [(["premises"], plain), (["conclusion"], plain),
    (["argumentInNaturalLanguage", "argument_in_natural_language"], plain)]

theorem ArgumentContent.respects_read : keys.Respects read := by
  refine FieldsRespect.record ?_ (by decide) _
  refine .seq (.seq (.map (.defaulted _ (respects_plain _) ?_) _) (.required (respects_plain _) ?_))
    (.defaulted _ (respects_plain _) ?_)
  all_goals simp

/-- The keys of the key of an argument validation. -/
def ValidityKey.keys : KnownKeys :=
  .fields [(["isValid", "is_valid"], plain), (["explanation"], plain), (["counterexample"], plain)]

theorem ValidityKey.respects_read : keys.Respects read := by
  refine FieldsRespect.record ?_ (by decide) _
  refine .seq (.seq (.map (.required (respects_plain _) ?_) _) (.defaulted _ (respects_plain _) ?_))
    (.defaulted _ (respects_plain _) ?_)
  all_goals simp

/-- The keys of a cell of a truth table. -/
def Cell.keys : KnownKeys := .fields [(["row"], plain), (["column"], plain)]

theorem Cell.respects_read : keys.Respects read := by
  refine FieldsRespect.record ?_ (by decide) _
  refine .seq (.map (.required (respects_plain _) ?_) _) (.required (respects_plain _) ?_)
  all_goals simp

/-- The keys of the content of a truth table exercise, with those of its cells. -/
def TableContent.keys : KnownKeys :=
  .fields [(["formula"], plain), (["hiddenCells", "hidden_cells"], .items Cell.keys),
    (["showIntermediateColumns", "show_intermediate_columns"], plain)]

theorem TableContent.respects_read : keys.Respects read := by
  refine FieldsRespect.record ?_ (by decide) _
  refine .seq (.seq (.map (.required (respects_plain _) ?_) _)
    (.defaulted _ Cell.respects_read.list ?_)) (.defaulted _ (respects_plain _) ?_)
  all_goals simp

/-- The keys of the key of a truth table exercise. -/
def TableKey.keys : KnownKeys := .fields [(["values"], plain)]

theorem TableKey.respects_read : keys.Respects read := by
  refine FieldsRespect.record ?_ (by decide) _
  refine .map (.required (respects_plain _) ?_) _
  simp

/-- The keys of the content of a normal form exercise. -/
def NormalFormContent.keys : KnownKeys :=
  .fields [(["formula"], plain), (["targetForm", "target_form"], plain)]

theorem NormalFormContent.respects_read : keys.Respects read := by
  refine FieldsRespect.record ?_ (by decide) _
  refine .seq (.map (.required (respects_plain _) ?_) _) (.required (respects_plain _) ?_)
  all_goals simp

/-- The keys of a step of a derivation. -/
def ProofStep.keys : KnownKeys :=
  .fields [(["formula"], plain), (["justification"], plain), (["lineRefs", "line_refs"], plain)]

theorem ProofStep.respects_read : keys.Respects read := by
  refine FieldsRespect.record ?_ (by decide) _
  refine .seq (.seq (.map (.required (respects_plain _) ?_) _) (.defaulted _ (respects_plain _) ?_))
    (.defaulted _ (respects_plain _) ?_)
  all_goals simp

/-- The keys of the content of a proof exercise. -/
def ProofContent.keys : KnownKeys :=
  .fields [(["premises"], plain), (["conclusion"], plain),
    (["allowedRules", "allowed_rules"], plain), (["maxSteps", "max_steps"], plain)]

theorem ProofContent.respects_read : keys.Respects read := by
  refine FieldsRespect.record ?_ (by decide) _
  refine .seq (.seq (.seq (.map (.defaulted _ (respects_plain _) ?_) _)
    (.required (respects_plain _) ?_)) (.defaulted _ (respects_plain _) ?_))
    (.defaulted _ (respects_plain _) ?_)
  all_goals simp

/-- The keys of the key of a proof exercise, with those of its steps. -/
def ProofKey.keys : KnownKeys :=
  .fields [(["proofSteps", "proof_steps"], .items ProofStep.keys)]

theorem ProofKey.respects_read : keys.Respects read := by
  refine FieldsRespect.record ?_ (by decide) _
  refine .map (.defaulted _ ProofStep.respects_read.list ?_) _
  simp

/-- The keys of a fallacy to choose from. -/
def FallacyOption.keys : KnownKeys :=
  .fields [(["id"], plain), (["name"], plain), (["description"], plain)]

theorem FallacyOption.respects_read : keys.Respects read := by
  refine FieldsRespect.record ?_ (by decide) _
  refine .seq (.seq (.map (.required (respects_plain _) ?_) _) (.defaulted _ (respects_plain _) ?_))
    (.defaulted _ (respects_plain _) ?_)
  all_goals simp

/-- The keys of the content of a fallacy exercise, with those of its options. -/
def FallacyContent.keys : KnownKeys :=
  .fields [(["argument"], plain), (["options"], .items FallacyOption.keys)]

theorem FallacyContent.respects_read : keys.Respects read := by
  refine FieldsRespect.record ?_ (by decide) _
  refine .seq (.map (.defaulted _ (respects_plain _) ?_) _)
    (.defaulted _ FallacyOption.respects_read.list ?_)
  all_goals simp

/-- The keys of the key of a fallacy exercise. -/
def FallacyKey.keys : KnownKeys :=
  .fields [(["correctFallacyId", "correct_fallacy_id"], plain), (["explanation"], plain)]

theorem FallacyKey.respects_read : keys.Respects read := by
  refine FieldsRespect.record ?_ (by decide) _
  refine .seq (.map (.required (respects_plain _) ?_) _) (.defaulted _ (respects_plain _) ?_)
  all_goals simp

/-- The keys of the content of an exercise of this kind. -/
def ExerciseKind.contentKeys : ExerciseKind → KnownKeys
  | equivalence => EquivalenceTarget.contentKeys
  | multipleChoice => ChoiceContent.keys
  | symbolArrangement => ArrangementContent.keys
  | formulation => FormulationContent.keys
  | validation => ArgumentContent.keys
  | truthTable => TableContent.keys
  | proof => ProofContent.keys
  | normalForm => NormalFormContent.keys
  | identifyFallacy => FallacyContent.keys

/-- The keys of the key of an exercise of this kind. -/
def ExerciseKind.solutionKeys : ExerciseKind → KnownKeys
  | equivalence => EquivalenceTarget.keyKeys
  | multipleChoice => ChoiceKey.keys
  | symbolArrangement | formulation | normalForm => AcceptedFormulas.keys
  | validation => ValidityKey.keys
  | truthTable => TableKey.keys
  | proof => ProofKey.keys
  | identifyFallacy => FallacyKey.keys

namespace Exercise

/-- Two records of this kind agree, but for changes to their contents and solutions. -/
structure PartsChanged (kind : ExerciseKind) (members members' : List (String × Json)) : Prop where
  type : members'.lookup "type" = members.lookup "type"
  explanation : members'.lookup "explanation" = members.lookup "explanation"
  content : ∃ v v', loadPart .content (members.lookup "content") = .ok v ∧
    loadPart .content (members'.lookup "content") = .ok v' ∧ kind.contentKeys.Changes v v'
  solution : ∃ w w', loadPart .solution (members.lookup "solution") = .ok w ∧
    loadPart .solution (members'.lookup "solution") = .ok w' ∧ kind.solutionKeys.Changes w w'

/-- A task is read from changed parts as from the parts themselves. -/
theorem readTask_of_changes {kind : ExerciseKind} {v v' w w' : Json}
    (hv : kind.contentKeys.Changes v v') (hw : kind.solutionKeys.Changes w w') :
    readTask kind v' w' = readTask kind v w := by
  have hpair : ∀ {α β : Type} (make : α → β → Task) {a : Json → Checked α} {b : Json → Checked β},
      a v' = a v → b w' = b w →
      (do return make (← accept kind (a v')) (← accept kind (b w')) :
        Except GradingError Task) = do return make (← accept kind (a v)) (← accept kind (b w)) := by
    intro α β make a b ha hb
    rw [ha, hb]
  cases kind with
  | equivalence =>
    exact hpair .equivalence (EquivalenceTarget.respects_readContent.of_changes hv)
      (EquivalenceTarget.respects_readKey.of_changes hw)
  | multipleChoice =>
    exact hpair .multipleChoice (ChoiceContent.respects_read.of_changes hv)
      (ChoiceKey.respects_read.of_changes hw)
  | symbolArrangement =>
    exact hpair .symbolArrangement (ArrangementContent.respects_read.of_changes hv)
      (AcceptedFormulas.respects_read.of_changes hw)
  | formulation =>
    exact hpair .formulation (FormulationContent.respects_read.of_changes hv)
      (AcceptedFormulas.respects_read.of_changes hw)
  | validation =>
    exact hpair .validation (ArgumentContent.respects_read.of_changes hv)
      (ValidityKey.respects_read.of_changes hw)
  | truthTable =>
    exact hpair .truthTable (TableContent.respects_read.of_changes hv)
      (TableKey.respects_read.of_changes hw)
  | proof =>
    exact hpair .proof (ProofContent.respects_read.of_changes hv)
      (ProofKey.respects_read.of_changes hw)
  | normalForm =>
    exact hpair .normalForm (NormalFormContent.respects_read.of_changes hv)
      (AcceptedFormulas.respects_read.of_changes hw)
  | identifyFallacy =>
    exact hpair .identifyFallacy (FallacyContent.respects_read.of_changes hv)
      (FallacyKey.respects_read.of_changes hw)

/-- A record whose parts are changed holds the exercise that the record itself holds, unless that is
    an equivalence exercise. -/
theorem decode_of_partsChanged {e : Exercise} (hkind : e.kind ≠ .equivalence)
    {members members' : List (String × Json)} (h : PartsChanged e.kind members members') :
    decode (.object members') = .ok e ↔ decode (.object members) = .ok e := by
  obtain ⟨htype, hexplanation, ⟨v, v', hv, hv', hcontent⟩, w, w', hw, hw', hsolution⟩ := h
  have hexplained : explanationOf members' = explanationOf members := by
    rw [explanationOf, explanationOf, hexplanation]
  have htask : readTask e.kind (contentFor e.kind members' v') w' =
      readTask e.kind (contentFor e.kind members v) w := by
    rw [contentFor, contentFor, if_neg hkind, if_neg hkind]
    exact readTask_of_changes hcontent hsolution
  rw [decode_eq_ok, decode_eq_ok, htype, hexplained, hv, hv', hw, hw']
  constructor
  · rintro ⟨_, _, hnamed, hv', hw', hread, hexplained⟩
    obtain rfl := Except.ok.inj hv'
    obtain rfl := Except.ok.inj hw'
    exact ⟨v, w, hnamed, rfl, rfl, htask ▸ hread, hexplained⟩
  · rintro ⟨_, _, hnamed, hv, hw, hread, hexplained⟩
    obtain rfl := Except.ok.inj hv
    obtain rfl := Except.ok.inj hw
    exact ⟨v', w', hnamed, rfl, rfl, htask ▸ hread, hexplained⟩

end Exercise

end PropTutor
