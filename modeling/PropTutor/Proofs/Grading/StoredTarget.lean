/-
  Where the target of a stored equivalence exercise is looked for.

  The content may have a target under three keys and the record a formula of its own, which stands
  behind them; the solution may have one under two keys. Of the content and of the solution only
  the first value that is there is read (`EquivalenceTarget.target_of_readContent`,
  `EquivalenceTarget.target_of_readKey`), and the grader turns to the solution where the content
  gave no text. So a null under one key hides a text under the next one. Where nothing is hidden,
  the target is the first text of all, and no answer meets an exercise without target
  (`stored_target_found_unless_hidden`).
-/
import PropTutor.Proofs.Grading.Equivalence
import PropTutor.Proofs.Grading.Records

namespace PropTutor

/-! ## Values under a row of keys -/

/-- The text of the value, unless it is empty. -/
def Json.nonemptyText? (v : Json) : Option String := v.str?.filter (!·.isEmpty)

namespace Slots

/-- The first text that is not empty, whatever stands in front of it. -/
def firstText (slots : List (Option Json)) : Option String :=
  slots.findSome? (·.bind Json.nonemptyText?)

/-- The text of the first value that is there. -/
def textOfFirst (slots : List (Option Json)) : Option String :=
  (slots.findSome? id).bind Json.nonemptyText?

/-- The first value that is there has no text, and there is one behind it. -/
def Hides (slots : List (Option Json)) : Prop :=
  textOfFirst slots = none ∧ firstText slots ≠ none

variable {slots : List (Option Json)} {text : String}

theorem firstText_of_textOfFirst (h : textOfFirst slots = some text) :
    firstText slots = some text := by
  induction slots with
  | nil => cases h
  | cons slot slots ih =>
    cases slot with
    | none => exact ih h
    | some v =>
      have hv : v.nonemptyText? = some text := h
      rw [firstText, List.findSome?_cons, Option.bind_some, hv]

theorem textOfFirst_eq_firstText (h : ¬ Hides slots) : textOfFirst slots = firstText slots := by
  cases hfirst : textOfFirst slots with
  | some text => exact (firstText_of_textOfFirst hfirst).symm
  | none => exact (not_not.1 fun hne => h ⟨hfirst, Ne.symm hne⟩)

theorem firstText_append (slots slots' : List (Option Json)) :
    firstText (slots ++ slots') = (firstText slots).or (firstText slots') :=
  List.findSome?_append

/-- What has no text changes nothing behind the others. -/
theorem textOfFirst_append_of_no_text (slots : List (Option Json)) {slot : Option Json}
    (h : slot.bind Json.nonemptyText? = none) :
    textOfFirst (slots ++ [slot]) = textOfFirst slots := by
  rw [textOfFirst, textOfFirst, List.findSome?_append]
  cases slots.findSome? id with
  | some w => rfl
  | none =>
    cases slot with
    | none => rfl
    | some v => exact h

end Slots

/-- What counts as false has no text. -/
theorem Json.nonemptyText?_of_not_truthy {v : Json} (h : v.truthy = false) :
    v.nonemptyText? = none := by
  cases v with
  | str s =>
    have hempty : (!s.isEmpty) = false := h
    exact Option.filter_some_neg hempty
  | _ => rfl

/-! ## The places of a target -/

namespace EquivalenceTarget

/-- The target, unless it is empty. -/
def present (t : EquivalenceTarget) : Option String := t.target.filter (!·.isEmpty)

/-- What stands where the content may have its target: under its three keys in their order, and
    behind them as the record's own formula. -/
def contentSlots (members content : List (String × Json)) : List (Option Json) :=
  [content.lookup "targetFormula", content.lookup "target_formula", content.lookup "formula",
    members.lookup "formula"]

/-- What stands where the solution may have its target. -/
def keySlots (solution : List (String × Json)) : List (Option Json) :=
  [solution.lookup "targetFormula", solution.lookup "target_formula"]

variable {members content values : List (String × Json)} {target : EquivalenceTarget}

/-- A text that may be left out or null is the one of the first value under its keys. -/
theorem filter_of_defaulted {keys : List String} {read : Json → Checked String}
    {t : Option String} (hread : ∀ v s, read v = .ok s → v = .str s)
    (h : Field.defaulted keys none (Field.nullable read) values = .ok t) :
    t.filter (!·.isEmpty) = (Field.first? values keys).bind Json.nonemptyText? := by
  rw [Field.defaulted] at h
  split at h
  · next v hv =>
    rw [hv, Option.bind_some]
    unfold Field.nullable at h
    split at h
    · obtain rfl := Checked.ok.inj h
      rfl
    · obtain ⟨s, hs, rfl⟩ := Checked.map_eq_ok.1 h
      obtain rfl := hread _ s hs
      rfl
  · next hv =>
    obtain rfl := Checked.ok.inj h
    rw [hv]
    rfl

theorem str_of_text {v : Json} {s : String} (h : Field.text v = .ok s) : v = .str s := by
  cases v with
  | str t => exact congrArg Json.str (Checked.ok.inj h)
  | _ => cases h

/-- A content has the target that stands first under its keys. -/
theorem present_of_readContent (h : readContent (.object values) = .ok target) :
    target.present = Slots.textOfFirst [values.lookup "targetFormula",
      values.lookup "target_formula", values.lookup "formula"] := by
  obtain ⟨t, hread, rfl⟩ := Checked.map_eq_ok.1 h
  exact filter_of_defaulted (fun v s hs => str_of_text (Checked.ensure_eq_ok.1 hs).1) hread

/-- A solution has the target that stands first under its keys. -/
theorem present_of_readKey (h : readKey (.object values) = .ok target) :
    target.present = Slots.textOfFirst (keySlots values) := by
  obtain ⟨t, hread, rfl⟩ := Checked.map_eq_ok.1 h
  exact filter_of_defaulted (fun v s => str_of_text) hread

/-- The record's own formula stands behind what the content has. It is left out where the content
    has a formula, which hides it then, and where it counts as false, and then it has no text. -/
theorem present_of_withOwnFormula
    (h : readContent (Exercise.withOwnFormula (members.lookup "formula") (.object content)) =
      .ok target) : target.present = Slots.textOfFirst (contentSlots members content) := by
  have hbehind {slot : Option Json} (hslot : slot.bind Json.nonemptyText? = none) :=
    Slots.textOfFirst_append_of_no_text [content.lookup "targetFormula",
      content.lookup "target_formula", content.lookup "formula"] hslot
  cases hown : members.lookup "formula" with
  | none =>
    rw [hown] at h
    rw [present_of_readContent h, contentSlots, hown]
    exact (hbehind rfl).symm
  | some own =>
    rw [hown, Exercise.withOwnFormula] at h
    rw [contentSlots, hown]
    cases hformula : content.lookup "formula" with
    | some formula =>
      rw [hformula, Option.isNone_some, Bool.and_false, if_neg Bool.false_ne_true] at h
      rw [present_of_readContent h, hformula]
      cases content.lookup "targetFormula" <;> cases content.lookup "target_formula" <;> rfl
    | none =>
      cases htruthy : own.truthy with
      | false =>
        rw [htruthy, Bool.false_and, if_neg Bool.false_ne_true] at h
        have hown : (some own).bind Json.nonemptyText? = none :=
          Json.nonemptyText?_of_not_truthy htruthy
        rw [present_of_readContent h, ← hformula]
        exact (hbehind hown).symm
      | true =>
        rw [htruthy, hformula, Option.isNone_none, Bool.and_self, if_pos rfl] at h
        rw [present_of_readContent h, List.lookup_append, List.lookup_append, List.lookup_append,
          hformula]
        cases content.lookup "targetFormula" <;> cases content.lookup "target_formula" <;> rfl

theorem exists_object_of_readContent {own : Option Json} {v : Json}
    (h : readContent (Exercise.withOwnFormula own v) = .ok target) :
    ∃ content, v = .object content := by
  cases v with
  | object content => exact ⟨content, rfl⟩
  | _ => cases own <;> cases h

theorem exists_object_of_readKey {v : Json} (h : readKey v = .ok target) :
    ∃ solution, v = .object solution := by
  cases v with
  | object solution => exact ⟨solution, rfl⟩
  | _ => cases h

end EquivalenceTarget

open EquivalenceTarget (contentSlots keySlots)

/-- The target of a stored exercise is the text that stands first in its content, or else the one
    that stands first in its solution. -/
theorem exists_isTarget_iff_of_decode {members : List (String × Json)}
    {content key : EquivalenceTarget} {explanation : Option String}
    (h : Exercise.decode (.object members) = .ok ⟨.equivalence content key, explanation⟩) :
    ∃ cs ss, Exercise.loadPart .content (members.lookup "content") = .ok (.object cs) ∧
      Exercise.loadPart .solution (members.lookup "solution") = .ok (.object ss) ∧
      ∀ text, IsTarget content key text ↔ (Slots.textOfFirst (contentSlots members cs)).or
        (Slots.textOfFirst (keySlots ss)) = some text := by
  obtain ⟨v, w, -, hv, hw, htask, -⟩ := Exercise.decode_eq_ok.1 h
  obtain ⟨hcontent, hkey⟩ := Exercise.readFrom_of_readTask htask
  obtain ⟨cs, rfl⟩ := EquivalenceTarget.exists_object_of_readContent hcontent
  obtain ⟨ss, rfl⟩ := EquivalenceTarget.exists_object_of_readKey hkey
  refine ⟨cs, ss, hv, hw, fun text => ?_⟩
  rw [← Grading.targetText_eq_ok, Grading.targetText_eq_ok_iff_or,
    ← EquivalenceTarget.present_of_withOwnFormula hcontent,
    ← EquivalenceTarget.present_of_readKey hkey, EquivalenceTarget.present,
    EquivalenceTarget.present]

/-! ## Grading with a target -/

/-- An answer without a formula is diagnosed in one way. -/
theorem Answer.formula_eq_error {answer : Json} {error : GradingError}
    (h : Answer.formula answer = .error error) : error = .notFormulaText := by
  unfold Answer.formula at h
  split at h
  · cases h
  · split at h
    · cases h
    · exact (Except.error.inj h).symm
  · split at h
    · cases h
    · exact (Except.error.inj h).symm
  · exact (Except.error.inj h).symm

/-- A failure that grading may have although there is a target: one of the settings, or one that is
    not worded as that of an exercise without target. -/
def Failure.WithTarget (s : Except SettingsError Settings) (failure : Failure) : Prop :=
  (∃ error, s = .error error ∧ failure = .settings error) ∨
    Text.Apart failure.message "Equivalence exercise has no target formula"

namespace Grading

variable {s : Except SettingsError Settings} {content key : EquivalenceTarget}
  {explanation : Option String} {answer : Json} {target : String}

theorem failsWith_tabulating {α : Type} (f : Int → Except TableError α) :
    (Action.tabulating f).FailsWith s (Failure.WithTarget s) := by
  intro failure h
  cases s with
  | error error => exact .inl ⟨error, rfl, (Except.error.inj h).symm⟩
  | ok settings =>
    rw [Action.result_tabulating] at h
    obtain ⟨error, -, rfl⟩ := Action.mapError_eq_error.1 h
    have hmissing : Text.Apart "Variables missing from column set: ["
        "Equivalence exercise has no target formula" := Text.apart_ofList rfl rfl
    have hlarge : Text.Apart "Formula has " "Equivalence exercise has no target formula" :=
      Text.apart_ofList rfl rfl
    cases error with
    | missingColumns names => exact .inr ((hmissing.append _).append _)
    | tooLarge count limit => exact .inr (((hlarge.append _).append _).append _)

/-- Holding an answer against a target does not end as it does without one. -/
theorem failsWith_equivalence_of_isTarget (htarget : IsTarget content key target) :
    (equivalence content key explanation answer).FailsWith s (Failure.WithTarget s) := by
  have hrole : Text.Apart "Exercise " "Equivalence exercise has no target formula" :=
    Text.apart_ofList rfl rfl
  refine Action.failsWith_bind (Action.failsWith_ofExcept fun error herror => .inr ?_) fun t _ => ?_
  · rcases bind_eq_error.1 herror with h | ⟨text, -, h⟩
    · rw [targetText_eq_ok.2 htarget] at h
      cases h
    · obtain ⟨e, -, rfl⟩ := Action.mapError_eq_error.1 h
      exact ((((hrole.append _).append _).append _).append _).append _
  refine Action.failsWith_bind (Action.failsWith_ofExcept fun error herror => .inr ?_)
    fun text _ => ?_
  · rw [Answer.formula_eq_error herror]
    exact Text.apart_ofList rfl rfl
  split
  · exact Action.failsWith_of_gives (Action.gives_pure.2 rfl)
  · refine Action.failsWith_bind (failsWith_tabulating _) fun equivalent _ => ?_
    split
    · exact Action.failsWith_of_gives (Action.gives_pure.2 rfl)
    · refine Action.failsWith_bind (failsWith_tabulating _) fun differences _ => ?_
      split
      · exact Action.failsWith_of_gives (Action.gives_pure.2 rfl)
      · intro failure h
        obtain rfl := Except.error.inj h
        exact .inr (Text.apart_ofList rfl rfl)

/-- The target that is used may as well be the only one. -/
theorem evaluate_of_isTarget (htarget : IsTarget content key target) :
    evaluate ⟨.equivalence content key, explanation⟩ answer =
      evaluate ⟨.equivalence ⟨some target⟩ ⟨none⟩, explanation⟩ answer := by
  have honly : IsTarget ⟨some target⟩ ⟨none⟩ target := ⟨htarget.1, .inl rfl⟩
  show equivalence content key explanation answer = equivalence ⟨some target⟩ ⟨none⟩ _ _
  rw [equivalence, equivalence, targetText_eq_ok.2 htarget, targetText_eq_ok.2 honly]

/-- With a target, no feedback says that there is none. -/
theorem feedback_ne_of_isTarget {record : Json}
    (hrecord : Exercise.decode record = .ok ⟨.equivalence content key, explanation⟩)
    (htarget : IsTarget content key target) {settings : Settings} {r : GradingResult}
    (hr : (gradeStored record answer).Gives (.ok settings) r) :
    r.feedback ≠ "Could not grade this answer: Equivalence exercise has no target formula" := by
  intro hfeedback
  rcases (gives_gradeStored hrecord).1 hr with hgraded | ⟨failure, hfails, rfl⟩
  · have hgraded : Text.startsWith r.feedback "Could not grade this answer: " = false :=
      graded_evaluate _ _ _ _ hgraded
    rw [hfeedback] at hgraded
    cases (Text.startsWith_append _ "Equivalence exercise has no target formula").symm.trans hgraded
  · rcases failsWith_equivalence_of_isTarget htarget failure hfails with ⟨_, h, _⟩ | hapart
    · cases h
    · have hmessage : failure.message = "Equivalence exercise has no target formula" :=
        String.append_right_inj _ |>.1 hfeedback
      rw [hmessage] at hapart
      cases hapart.left

end Grading

/-- Which text of a stored equivalence exercise is its target: the first value that is there in the
    content counts, with the record's own formula behind it, and the first one in the solution where
    that is no text. Where no value hides a text behind it, the target is the first text of all.
    Then every answer is graded as if this were the only target, and in no case as if there were
    none. -/
theorem stored_target_found_unless_hidden {members : List (String × Json)}
    {content key : EquivalenceTarget} {explanation : Option String}
    (hdecode : Exercise.decode (.object members) =
      .ok ⟨.equivalence content key, explanation⟩) :
    ∃ cs ss, Exercise.loadPart .content (members.lookup "content") = .ok (.object cs) ∧
      Exercise.loadPart .solution (members.lookup "solution") = .ok (.object ss) ∧
      (∀ text, IsTarget content key text ↔ (Slots.textOfFirst (contentSlots members cs)).or
        (Slots.textOfFirst (keySlots ss)) = some text) ∧
      ∀ text, Slots.firstText (contentSlots members cs ++ keySlots ss) = some text →
        ¬ Slots.Hides (contentSlots members cs) →
        (Slots.firstText (contentSlots members cs) = none → ¬ Slots.Hides (keySlots ss)) →
        IsTarget content key text ∧ ∀ answer,
          gradeStored (.object members) answer =
            Exercise.grade ⟨.equivalence ⟨some text⟩ ⟨none⟩, explanation⟩ answer ∧
          (∀ s, (Grading.evaluate ⟨.equivalence content key, explanation⟩ answer).FailsWith s
            (· ≠ .diagnosed .noTarget)) ∧
          ∀ settings r, (gradeStored (.object members) answer).Gives (.ok settings) r →
            r.feedback ≠
              "Could not grade this answer: Equivalence exercise has no target formula" := by
  obtain ⟨cs, ss, hcontent, hsolution, hiff⟩ := exists_isTarget_iff_of_decode hdecode
  refine ⟨cs, ss, hcontent, hsolution, hiff, fun text htext hcs hss => ?_⟩
  rw [Slots.firstText_append] at htext
  have htarget : IsTarget content key text := by
    rw [hiff, Slots.textOfFirst_eq_firstText hcs]
    cases hfirst : Slots.firstText (contentSlots members cs) with
    | some t => rwa [hfirst] at htext
    | none => rwa [hfirst, ← Slots.textOfFirst_eq_firstText (hss hfirst)] at htext
  refine ⟨htarget, fun answer => ⟨?_, fun s failure hfails => ?_, fun settings r hr => ?_⟩⟩
  · exact (gradeStored_eq hdecode answer).trans
      (Exercise.grade_congr rfl (Grading.evaluate_of_isTarget htarget))
  · rintro rfl
    rcases Grading.failsWith_equivalence_of_isTarget htarget _ hfails with ⟨_, -, h⟩ | hapart
    · cases h
    · cases hapart.left
  · exact Grading.feedback_ne_of_isTarget hdecode htarget hr

/-- A stored exercise whose target is the record's own formula; its solution has a null for one. -/
def ownTargetRecord : List (String × Json) := [
  ("type", .str "EQUIVALENCE"), ("formula", .str "P & Q"),
  ("content", .object [("title", .str "Conjunctions")]),
  ("solution", .object [("targetFormula", .null)])]

/-- The own formula is the target, and no answer meets an exercise without one. -/
theorem stored_target_found_unless_hidden_own :
    Exercise.decode (.object ownTargetRecord) =
      .ok ⟨.equivalence ⟨some "P & Q"⟩ ⟨none⟩, none⟩ ∧
    Slots.firstText (contentSlots ownTargetRecord [("title", .str "Conjunctions")] ++
      keySlots [("targetFormula", .null)]) = some "P & Q" ∧
    ¬ Slots.Hides (contentSlots ownTargetRecord [("title", .str "Conjunctions")]) ∧
    ¬ Slots.Hides (keySlots [("targetFormula", .null)]) ∧
    IsTarget ⟨some "P & Q"⟩ ⟨none⟩ "P & Q" ∧
    ∀ answer settings r, (gradeStored (.object ownTargetRecord) answer).Gives (.ok settings) r →
      r.feedback ≠
        "Could not grade this answer: Equivalence exercise has no target formula" := by
  have hdecode : Exercise.decode (.object ownTargetRecord) =
      .ok ⟨.equivalence ⟨some "P & Q"⟩ ⟨none⟩, none⟩ := rfl
  have hcontent : ¬ Slots.Hides (contentSlots ownTargetRecord
      [("title", .str "Conjunctions")]) := fun h => nomatch h.1
  have hkey : ¬ Slots.Hides (keySlots [("targetFormula", .null)]) := fun h => h.2 rfl
  obtain ⟨cs, ss, hcs, hss, -, hfound⟩ := stored_target_found_unless_hidden hdecode
  obtain rfl := Json.object.inj (Except.ok.inj hcs)
  obtain rfl := Json.object.inj (Except.ok.inj hss)
  obtain ⟨htarget, hgraded⟩ := hfound "P & Q" rfl hcontent fun _ => hkey
  exact ⟨hdecode, rfl, hcontent, hkey, htarget,
    fun answer settings r => (hgraded answer).2.2 settings r⟩

/-- A stored exercise with an own formula, and with a null for a target in its content. -/
def nullTargetRecord : List (String × Json) := [
  ("type", .str "EQUIVALENCE"), ("formula", .str "P & Q"),
  ("content", .object [("targetFormula", .null)]), ("solution", .object [])]

/-- The null hides the formula: the first text is a target that is not found. -/
theorem null_target_hides_own_formula :
    Exercise.decode (.object nullTargetRecord) = .ok ⟨.equivalence ⟨none⟩ ⟨none⟩, none⟩ ∧
    Slots.firstText (contentSlots nullTargetRecord [("targetFormula", .null)] ++ keySlots []) =
      some "P & Q" ∧
    ∃ r, (gradeStored (.object nullTargetRecord) (.str "Q & P")).Gives (.ok .standard) r ∧
      r.isCorrect = false ∧ r.feedback =
        "Could not grade this answer: Equivalence exercise has no target formula" :=
  ⟨rfl, rfl, Grading.failed (.diagnosed .noTarget), rfl, rfl, rfl⟩

end PropTutor
