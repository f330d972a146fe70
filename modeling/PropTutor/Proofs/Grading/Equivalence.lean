/-
  Equivalence exercises.

  Within the limit, the verdict on a formula says whether it has the value of the target under
  every assignment. A formula that has not is answered with the first row of the common table in
  which the two differ (`FirstDifference`). Verdict and row are read off two tables; where the
  one finds no equivalence the other one has such a row (`exists_firstDifference`), so a formula
  is never refused without a reason.
-/
import PropTutor.Proofs.Exercise.Decode
import PropTutor.Proofs.Grading.Grade
import PropTutor.Proofs.Semantics.Comparison

namespace PropTutor

/-- The target of the exercise: the one of its content, or the one of its key if the content has
    none or an empty one. -/
def IsTarget (content key : EquivalenceTarget) (text : String) : Prop :=
  text ≠ "" ∧ (content.target = some text ∨
    (∀ other ∈ content.target, other = "") ∧ key.target = some text)

/-- The first assignment over the names of both formulas on which they differ, in the order of
    truth tables. -/
structure FirstDifference (f g : Formula) (a : Assignment) : Prop where
  names : a.map Prod.fst = sortNames (f.atoms ++ g.atoms)
  differ : f.eval a.value ≠ g.eval a.value
  first : ∀ b : Assignment, b.map Prod.fst = a.map Prod.fst → f.eval b.value ≠ g.eval b.value →
    b = a ∨ b.Below a

namespace Formula

variable {limit : Int} {f g : Formula}

/-- Where two formulas are not equivalent, the falsifying rows of their biconditional begin with
    the first difference. -/
theorem exists_firstDifference (hlimit : (iff f g).vars.length ≤ limit)
    (h : ¬ ∀ a : Assignment, f.eval a.value = g.eval a.value) :
    ∃ a rest, (iff f g).counterModels limit = .ok (a :: rest) ∧ FirstDifference f g a := by
  have hseparates := separates_differences f g
  have hrows := counterModels_iff hlimit
  cases hfound : f.differences g with
  | nil => exact absurd (differences_eq_nil_iff.1 hfound) h
  | cons a rest =>
    rw [hfound] at hseparates hrows
    obtain ⟨hnames, hdiffer⟩ := (hseparates.mem a).1 (List.mem_cons_self ..)
    refine ⟨a, rest, hrows, hnames, hdiffer, fun b hb hne => ?_⟩
    have hmem : b ∈ a :: rest := (hseparates.mem b).2 ⟨hb.trans hnames, hne⟩
    exact (List.mem_cons.1 hmem).imp_right ((List.pairwise_cons.1 hseparates.ordered).1 b)

end Formula

namespace Grading

variable {s : Except SettingsError Settings} {settings : Settings} {content key : EquivalenceTarget}
  {explanation : Option String} {answer : Json} {target text : String} {t f : Formula}

/-- The target that is used is the one of the content, or else the one of the solution. -/
theorem targetText_eq_ok_iff_or : targetText content key = .ok target ↔
    (content.target.filter (!·.isEmpty)).or (key.target.filter (!·.isEmpty)) = some target := by
  unfold targetText
  dsimp only
  split
  · next s hs => rw [hs, Except.ok.injEq, Option.some.injEq]
  · next hs => rw [hs]; exact iff_of_false nofun nofun

theorem targetText_eq_ok : targetText content key = .ok target ↔ IsTarget content key target := by
  have hpresent (t : EquivalenceTarget) (text : String) :
      t.target.filter (!·.isEmpty) = some text ↔ t.target = some text ∧ text ≠ "" := by
    rw [Option.filter_eq_some_iff, Bool.not_eq_true', String.isEmpty_eq_false_iff]
  have hnone : content.target.filter (!·.isEmpty) = none ↔ ∀ t ∈ content.target, t = "" := by
    rw [Option.filter_eq_none_iff]
    simp only [Bool.not_eq_true', Bool.not_eq_false, String.isEmpty_iff, Option.mem_def]
  rw [targetText_eq_ok_iff_or, Option.or_eq_some_iff, hpresent, hpresent, hnone, IsTarget]
  tauto

/-- A formula with the value of the target is correct where the table fits. -/
theorem gives_equivalenceResult (hlimit : (Formula.iff f t).vars.length ≤ settings.maxVariables)
    (h : ∀ a : Assignment, f.eval a.value = t.eval a.value) :
    (equivalenceResult t explanation f).Gives (.ok settings)
      (.correct "Correct! Your formula is logically equivalent." explanation .nothing) := by
  have hverdict : f.isEquivalent settings.maxVariables t = .ok true :=
    Formula.isEquivalent_eq_ok.2 ⟨hlimit, iff_of_true rfl h⟩
  exact Action.gives_bind.2 ⟨true, Action.gives_tabulating.2 ⟨settings, rfl, hverdict⟩, rfl⟩

/-- The verdict on a formula is right where the table fits, and a refusal has its reason. -/
theorem exists_gives_equivalenceResult
    (hlimit : (Formula.iff f t).vars.length ≤ settings.maxVariables) :
    ∃ r, (equivalenceResult t explanation f).Gives (.ok settings) r ∧
      (r.isCorrect = true ↔ ∀ a : Assignment, f.eval a.value = t.eval a.value) ∧
      (r.isCorrect = false → ∃ a, r.details = .counterexample a ∧ FirstDifference f t a) := by
  by_cases h : ∀ a : Assignment, f.eval a.value = t.eval a.value
  · exact ⟨_, gives_equivalenceResult hlimit h, iff_of_true rfl h, nofun⟩
  · have hverdict : f.isEquivalent settings.maxVariables t = .ok false :=
      Formula.isEquivalent_eq_ok.2 ⟨hlimit, iff_of_false Bool.false_ne_true h⟩
    obtain ⟨a, rest, hrows, ha⟩ := Formula.exists_firstDifference hlimit h
    refine ⟨.incorrect "Incorrect. Your formula is not equivalent; check the truth table."
      explanation 0 (.counterexample a), ?_, iff_of_false Bool.false_ne_true h,
      fun _ => ⟨a, rfl, ha⟩⟩
    -- the first table finds no equivalence, and the second one has a row to show
    refine Action.gives_bind.2 ⟨false, Action.gives_tabulating.2 ⟨settings, rfl, hverdict⟩, ?_⟩
    exact Action.gives_bind.2 ⟨a :: rest, Action.gives_tabulating.2 ⟨settings, rfl, hrows⟩, rfl⟩

/-- An answer is held against the target. -/
theorem gives_equivalence (htarget : IsTarget content key target)
    (ht : Formula.parse target = .ok t) (htext : Answer.formula answer = .ok text)
    {r : GradingResult} : (equivalence content key explanation answer).Gives s r ↔
      ((match Formula.parse text with
        | .error e => return syntaxErrorResult e explanation
        | .ok f => equivalenceResult t explanation f : Action GradingResult)).Gives s r := by
  have hread : (targetText content key >>= exerciseFormula .target) = .ok t :=
    bind_eq_ok.2 ⟨target, targetText_eq_ok.2 htarget, Action.mapError_eq_ok.2 ht⟩
  rw [equivalence, hread, htext]
  exact Iff.rfl

end Grading

/-- An answer to an equivalence exercise that is a formula is correct, where the table over it and
    the target fits the limit, exactly if it has the value of the target under every assignment;
    otherwise the result shows the first assignment on which they differ. An answer that is no
    formula is incorrect, and the result shows where its error is and at which token. -/
theorem equivalence_decided_with_first_difference {record : Json} {content key : EquivalenceTarget}
    {explanation : Option String} {target : String} {t : Formula}
    (hrecord : Exercise.decode record = .ok ⟨.equivalence content key, explanation⟩)
    (htarget : IsTarget content key target) (ht : Formula.parse target = .ok t)
    {answer : Json} {text : String} (htext : Answer.formula answer = .ok text) :
    (∀ f (settings : Settings), Formula.parse text = .ok f →
      ((f.vars.toFinset ∪ t.vars.toFinset).card : Int) ≤ settings.maxVariables →
      ∃ r, (gradeStored record answer).Gives (.ok settings) r ∧
        (r.isCorrect = true ↔ ∀ a : Assignment, f.eval a.value = t.eval a.value) ∧
        (r.isCorrect = false → ∃ a, r.details = .counterexample a ∧ FirstDifference f t a)) ∧
    (∀ error s, Formula.parse text = .error error →
      ∃ r, (gradeStored record answer).Gives s r ∧ r.isCorrect = false ∧ r.score = 0 ∧
        r.details = .syntaxError error.pos error.token) := by
  refine ⟨fun f settings hf hlimit => ?_, fun error s herror => ?_⟩
  · rw [← Formula.length_vars_bin .iff] at hlimit
    obtain ⟨r, hr, hverdict⟩ := Grading.exists_gives_equivalenceResult hlimit
    refine ⟨r, (gives_gradeStored hrecord).2 (.inl ?_), hverdict⟩
    refine (Grading.gives_equivalence htarget ht htext).2 ?_
    rw [hf]
    exact hr
  · refine ⟨Grading.syntaxErrorResult error explanation, (gives_gradeStored hrecord).2 (.inl ?_),
      rfl, rfl, rfl⟩
    refine (Grading.gives_equivalence htarget ht htext).2 ?_
    rw [herror]
    exact Action.gives_pure.2 rfl

/-- A stored exercise with the target `P -> Q`, which stands in its key. -/
def arrowTargetRecord : Json :=
  .object [("type", .str "EQUIVALENCE"), ("solution", .object [("targetFormula", .str "P -> Q")])]

/-- The converse of the target differs from it first where `P` is true and `Q` is false. -/
theorem equivalence_decided_with_first_difference_converse :
    Exercise.decode arrowTargetRecord = .ok ⟨.equivalence ⟨none⟩ ⟨some "P -> Q"⟩, none⟩ ∧
    IsTarget ⟨none⟩ ⟨some "P -> Q"⟩ "P -> Q" ∧
    Formula.parse "P -> Q" = .ok (.imp (.atom "P") (.atom "Q")) ∧
    Answer.formula (.str "Q -> P") = .ok "Q -> P" ∧
    Formula.parse "Q -> P" = .ok (.imp (.atom "Q") (.atom "P")) ∧
    ∃ r, (gradeStored arrowTargetRecord (.str "Q -> P")).Gives (.ok .standard) r ∧
      r.details = .counterexample [("P", true), ("Q", false)] ∧
      FirstDifference (.imp (.atom "Q") (.atom "P")) (.imp (.atom "P") (.atom "Q"))
        [("P", true), ("Q", false)] := by
  have hrecord : Exercise.decode arrowTargetRecord =
      .ok ⟨.equivalence ⟨none⟩ ⟨some "P -> Q"⟩, none⟩ := rfl
  have htarget : IsTarget ⟨none⟩ ⟨some "P -> Q"⟩ "P -> Q" := ⟨by decide, .inr ⟨nofun, rfl⟩⟩
  have htext : Answer.formula (.str "Q -> P") = .ok "Q -> P" := rfl
  have hgraded := equivalence_decided_with_first_difference hrecord htarget rfl htext
  obtain ⟨r, hr, -, hdiffer⟩ := hgraded.1 _ .standard rfl (by decide)
  have hresult : (gradeStored arrowTargetRecord (.str "Q -> P")).Gives (.ok .standard)
      (.incorrect "Incorrect. Your formula is not equivalent; check the truth table." none 0
        (.counterexample [("P", true), ("Q", false)])) := rfl
  obtain rfl := Except.ok.inj (hr.symm.trans hresult)
  obtain ⟨a, ha, hfirst⟩ := hdiffer rfl
  obtain rfl := Details.counterexample.inj ha
  exact ⟨hrecord, htarget, rfl, htext, rfl, _, hr, rfl, hfirst⟩

end PropTutor
