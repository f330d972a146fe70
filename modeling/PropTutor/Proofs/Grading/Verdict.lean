/-
  What becomes of every text that is held against accepted formulas.

  Where the tables over the text and the entries fit the limit, matching ends with the verdict
  that the texts themselves demand (`Grading.Verdict`): an exact match for the spelling of an
  entry, an equivalent one for a formula with the value of an entry under every assignment, no
  match for any other formula, and a syntax error for any other text. Every text has exactly one
  verdict, and the verdict does not depend on the order or the repetition of the entries. The
  graders report it as it is, and the one for normal forms adds whether the text is a formula
  that the conversion to the form leaves unchanged (`Grading.Reports`).
-/
import PropTutor.Proofs.Grading.Matching
import PropTutor.Proofs.NormalForm.Forms

namespace PropTutor

variable {s : Except SettingsError Settings} {settings : Settings}

/-- The match that the details of a result report. -/
def Details.match? : Details → Option Match
  | formula found => some found
  | normalForm found _ => found
  | _ => none

/-- The shape that the details of a result report: whether the answer is in the form that was
    asked for. -/
def Details.inForm? : Details → Option Bool
  | normalForm _ inForm => some inForm
  | _ => none

/-- The task with another list of accepted formulas; a task without such a list stays as it is. -/
def Task.accepting (accepted : List String) : Task → Task
  | symbolArrangement content _ => symbolArrangement content ⟨accepted⟩
  | formulation content _ => formulation content ⟨accepted⟩
  | normalForm content _ => normalForm content ⟨accepted⟩
  | task => task

namespace Grading

/-- The text has the spelling of an entry. -/
def Spelled (text : String) (accepted : List String) : Prop :=
  ∃ t ∈ accepted, sameSpelling text t = true

/-- If the text is a formula, its tables with the entries that can be read are within the
    limit. -/
def TablesFit (limit : Int) (text : String) (accepted : List String) : Prop :=
  ∀ f, Formula.parse text = .ok f → ∀ t ∈ accepted, ∀ g, Formula.parse t = .ok g →
    ((f.vars.toFinset ∪ g.vars.toFinset).card : Int) ≤ limit

/-- What the texts demand to be the outcome of matching. -/
inductive Verdict (text : String) (accepted : List String) :
    Except SyntaxError (Option Match) → Prop where
  | exact : Spelled text accepted → Verdict text accepted (.ok (some .exact))
  | equivalent {f : Formula} : ¬ Spelled text accepted → Formula.parse text = .ok f →
      f.Matches accepted → Verdict text accepted (.ok (some .equivalent))
  | unmatched {f : Formula} : ¬ Spelled text accepted → Formula.parse text = .ok f →
      ¬ f.Matches accepted → Verdict text accepted (.ok none)
  | unreadable {e : SyntaxError} : ¬ Spelled text accepted → Formula.parse text = .error e →
      Verdict text accepted (.error e)

variable {text : String} {accepted accepted' : List String}
  {v : Except SyntaxError (Option Match)}

/-! ## Verdicts -/

theorem exists_verdict (text : String) (accepted : List String) :
    ∃ v, Verdict text accepted v := by
  by_cases hspelled : Spelled text accepted
  · exact ⟨_, .exact hspelled⟩
  · cases hparse : Formula.parse text with
    | error e => exact ⟨_, .unreadable hspelled hparse⟩
    | ok f =>
      by_cases hmatches : f.Matches accepted
      · exact ⟨_, .equivalent hspelled hparse hmatches⟩
      · exact ⟨_, .unmatched hspelled hparse hmatches⟩

/-- A verdict depends on which entries there are, not on their order or repetition. -/
theorem Verdict.congr (h : Verdict text accepted v) (hentries : ∀ t, t ∈ accepted' ↔ t ∈ accepted) :
    Verdict text accepted' v := by
  have hspelled : Spelled text accepted' ↔ Spelled text accepted := by
    simp only [Spelled, hentries]
  have hmatches (f : Formula) : f.Matches accepted' ↔ f.Matches accepted := by
    simp only [Formula.Matches, hentries]
  cases h with
  | exact h => exact .exact (hspelled.2 h)
  | equivalent h hf hm => exact .equivalent (mt hspelled.1 h) hf ((hmatches _).2 hm)
  | unmatched h hf hm => exact .unmatched (mt hspelled.1 h) hf (mt (hmatches _).1 hm)
  | unreadable h he => exact .unreadable (mt hspelled.1 h) he

theorem Verdict.matched_iff (h : Verdict text accepted v) : (∃ found, v = .ok (some found)) ↔
    Spelled text accepted ∨ ∃ f, Formula.parse text = .ok f ∧ f.Matches accepted := by
  cases h with
  | exact hspelled => exact iff_of_true ⟨_, rfl⟩ (.inl hspelled)
  | equivalent hspelled hf hmatches => exact iff_of_true ⟨_, rfl⟩ (.inr ⟨_, hf, hmatches⟩)
  | unmatched hspelled hf hmatches =>
    refine iff_of_false nofun ?_
    rintro (h | ⟨g, hg, h⟩)
    · exact hspelled h
    · obtain rfl := Except.ok.inj (hf.symm.trans hg)
      exact hmatches h
  | unreadable hspelled he =>
    refine iff_of_false nofun ?_
    rintro (h | ⟨g, hg, -⟩)
    · exact hspelled h
    · cases he.symm.trans hg

theorem Verdict.exact_iff (h : Verdict text accepted v) :
    v = .ok (some .exact) ↔ Spelled text accepted := by
  cases h with
  | exact hspelled => exact iff_of_true rfl hspelled
  | equivalent hspelled _ _ => exact iff_of_false nofun hspelled
  | unmatched hspelled _ _ => exact iff_of_false nofun hspelled
  | unreadable hspelled _ => exact iff_of_false nofun hspelled

theorem Verdict.eq_error (h : Verdict text accepted v) (hspelled : ¬ Spelled text accepted)
    {e : SyntaxError} (he : Formula.parse text = .error e) : v = .error e := by
  cases h with
  | exact h => exact absurd h hspelled
  | equivalent _ hf _ => cases he.symm.trans hf
  | unmatched _ hf _ => cases he.symm.trans hf
  | unreadable _ he' => rw [Except.error.inj (he.symm.trans he')]

theorem TablesFit.congr {limit : Int} (h : TablesFit limit text accepted)
    (hentries : ∀ t, t ∈ accepted' ↔ t ∈ accepted) : TablesFit limit text accepted' := by
  intro f hf t ht
  exact h f hf t ((hentries t).1 ht)

/-- Where the tables fit, nothing stops the search. -/
theorem not_stopped_of_tablesFit {limit : Int} {f : Formula} (h : TablesFit limit text accepted)
    (hf : Formula.parse text = .ok f) : ¬ f.Stopped limit accepted := by
  rintro ⟨before, t, after, rfl, ⟨g, hg, hlarge⟩, -⟩
  have hmem : t ∈ before ++ t :: after := List.mem_append_right _ (List.mem_cons_self ..)
  have hsmall := h f hf t hmem g hg
  omega

/-- Where nothing stops the search, matching ends with the verdict. -/
theorem Verdict.gives_of_free (h : Verdict text accepted v)
    (hfree : ∀ f, ¬ Spelled text accepted → Formula.parse text = .ok f →
      ¬ f.Stopped settings.maxVariables accepted) :
    (matchAccepted accepted text).Gives (.ok settings) v := by
  have hsearch {f : Formula} {found : Option Match} (hspelled : ¬ Spelled text accepted)
      (hf : Formula.parse text = .ok f)
      (hfound : found = some .equivalent ∧ f.Matches accepted ∨
        found = none ∧ ¬ f.Matches accepted) :
      (matchAccepted accepted text).Gives (.ok settings) (.ok found) := by
    rw [matchAccepted, if_neg (mt List.any_eq_true.1 hspelled), hf]
    have hgives := gives_searchEquivalent.2 ⟨hfree f hspelled hf, hfound⟩
    exact Action.gives_bind.2 ⟨found, hgives, Action.gives_pure.2 rfl⟩
  cases h with
  | exact hspelled =>
    rw [matchAccepted, if_pos (List.any_eq_true.2 hspelled)]
    exact Action.gives_pure.2 rfl
  | equivalent hspelled hf hmatches => exact hsearch hspelled hf (.inl ⟨rfl, hmatches⟩)
  | unmatched hspelled hf hmatches => exact hsearch hspelled hf (.inr ⟨rfl, hmatches⟩)
  | unreadable hspelled he =>
    rw [matchAccepted, if_neg (mt List.any_eq_true.1 hspelled), he]
    exact Action.gives_pure.2 rfl

/-- Where the tables fit, matching ends with the verdict. -/
theorem Verdict.gives (h : Verdict text accepted v)
    (hfit : TablesFit settings.maxVariables text accepted) :
    (matchAccepted accepted text).Gives (.ok settings) v :=
  h.gives_of_free fun _ _ => not_stopped_of_tablesFit hfit

/-! ## Reports -/

/-- The result of a grader with accepted formulas reports the outcome of matching. -/
structure Reports (explanation : Option String) (v : Except SyntaxError (Option Match))
    (r : GradingResult) : Prop where
  error : ∀ error, v = .error error → r = syntaxErrorResult error explanation
  isCorrect : r.isCorrect = true ↔ ∃ found, v = .ok (some found)
  found : r.details.match? = v.toOption.join

/-- The result reports whether the text is a formula that the conversion to the form leaves
    unchanged. -/
def ReportsForm (form : NormalForm) (text : String) (r : GradingResult) : Prop :=
  ∃ inForm, r.details.inForm? = some inForm ∧
    (inForm = true ↔ ∃ f, Formula.parse text = .ok f ∧ f.convert form = f)

variable {explanation : Option String} {answer : Json} {e : Exercise} {r : GradingResult}

theorem reports_error (error : SyntaxError) :
    Reports explanation (.error error) (syntaxErrorResult error explanation) where
  error := by
    rintro _ ⟨⟩
    rfl
  isCorrect := iff_of_false Bool.false_ne_true nofun
  found := rfl

theorem reports_unmatched {feedback : String} {details : Details} (h : details.match? = none) :
    Reports explanation (.ok none) (.incorrect feedback explanation 0 details) where
  error := nofun
  isCorrect := iff_of_false Bool.false_ne_true nofun
  found := h

theorem reports_match {feedback : String} {details : Details} {found : Match}
    (h : details.match? = some found) :
    Reports explanation (.ok (some found)) (.correct feedback explanation details) where
  error := nofun
  isCorrect := iff_of_true rfl ⟨found, rfl⟩
  found := h

theorem exists_reports_acceptedFormula {key : AcceptedFormulas}
    (htext : Answer.formula answer = .ok text) (hv : (matchAccepted key.formulas text).Gives s v) :
    ∃ r, (acceptedFormula key explanation answer).Gives s r ∧ Reports explanation v r := by
  have htext' : (demand (Answer.formula answer)).Gives s text := Action.gives_ofExcept.2 htext
  simp only [acceptedFormula, Action.gives_bind_of_gives htext', Action.gives_bind_of_gives hv]
  rcases v with error | _ | found
  · exact ⟨_, Action.gives_pure.2 rfl, reports_error error⟩
  · exact ⟨_, Action.gives_pure.2 rfl, reports_unmatched rfl⟩
  · exact ⟨_, Action.gives_pure.2 rfl, reports_match rfl⟩

/-- What the grader for normal forms asks of a text is whether it is in the form. -/
theorem shape_eq_true {form : NormalForm} :
    ((Formula.parse text).toOption.map (·.isInForm form)).getD false = true ↔
      ∃ f, Formula.parse text = .ok f ∧ f.convert form = f := by
  cases Formula.parse text with
  | error error => exact iff_of_false Bool.false_ne_true nofun
  | ok f =>
    have hform : f.isInForm form = true ↔ f.convert form = f :=
      ⟨Formula.convert_of_isInForm, fun h => h ▸ Formula.isInForm_convert form f⟩
    simp only [Except.ok.injEq, exists_eq_left']
    exact hform

theorem exists_reports_normalForm {content : NormalFormContent} {key : AcceptedFormulas}
    (htext : Answer.formula answer = .ok text) (hv : (matchAccepted key.formulas text).Gives s v) :
    ∃ r, (normalForm content key explanation answer).Gives s r ∧ Reports explanation v r ∧
      ∀ found, v = .ok found → ReportsForm content.form text r := by
  have htext' : (demand (Answer.formula answer)).Gives s text := Action.gives_ofExcept.2 htext
  simp only [normalForm, Action.gives_bind_of_gives htext', Action.gives_bind_of_gives hv]
  rcases v with error | _ | found
  · refine ⟨_, Action.gives_pure.2 rfl, reports_error error, ?_⟩
    intro found hfound
    cases hfound
  · exact ⟨_, Action.gives_pure.2 rfl, reports_unmatched rfl, fun _ _ => ⟨_, rfl, shape_eq_true⟩⟩
  · exact ⟨_, Action.gives_pure.2 rfl, reports_match rfl, fun _ _ => ⟨_, rfl, shape_eq_true⟩⟩

/-- Every grader with accepted formulas reports the outcome of matching. -/
theorem exists_reports (htask : e.task.accepted? = some accepted)
    (htext : Answer.formula answer = .ok text) (hv : (matchAccepted accepted text).Gives s v) :
    ∃ r, (evaluate e answer).Gives s r ∧ Reports e.explanation v r ∧
      ∀ content key found, e.task = .normalForm content key → v = .ok found →
        ReportsForm content.form text r := by
  obtain ⟨task, explanation⟩ := e
  cases task with
  | symbolArrangement content key =>
    obtain rfl : key.formulas = accepted := Option.some.inj htask
    obtain ⟨r, hr, hreports⟩ := exists_reports_acceptedFormula htext hv
    exact ⟨r, hr, hreports, nofun⟩
  | formulation content key =>
    obtain rfl : key.formulas = accepted := Option.some.inj htask
    obtain ⟨r, hr, hreports⟩ := exists_reports_acceptedFormula htext hv
    exact ⟨r, hr, hreports, nofun⟩
  | normalForm content key =>
    obtain rfl : key.formulas = accepted := Option.some.inj htask
    obtain ⟨r, hr, hreports, hform⟩ := exists_reports_normalForm htext hv
    refine ⟨r, hr, hreports, fun content' key' found htask' => ?_⟩
    obtain ⟨rfl, rfl⟩ := Task.normalForm.inj htask'
    exact hform found
  | _ => cases htask

/-- Lists of accepted formulas on which matching has the same outcome give the same result. -/
theorem gives_accepting (htask : e.task.accepted? = some accepted)
    (htext : Answer.formula answer = .ok text) (hv : (matchAccepted accepted text).Gives s v)
    (hv' : (matchAccepted accepted' text).Gives s v) (hr : (evaluate e answer).Gives s r) :
    (evaluate ⟨e.task.accepting accepted', e.explanation⟩ answer).Gives s r := by
  have htext' : (demand (Answer.formula answer)).Gives s text := Action.gives_ofExcept.2 htext
  have haccepted {key : AcceptedFormulas} (hkey : key.formulas = accepted)
      (h : (acceptedFormula key e.explanation answer).Gives s r) :
      (acceptedFormula ⟨accepted'⟩ e.explanation answer).Gives s r := by
    subst hkey
    simp only [acceptedFormula, Action.gives_bind_of_gives htext', Action.gives_bind_of_gives hv,
      Action.gives_bind_of_gives hv'] at h ⊢
    exact h
  obtain ⟨task, explanation⟩ := e
  cases task with
  | symbolArrangement content key => exact haccepted (Option.some.inj htask) hr
  | formulation content key => exact haccepted (Option.some.inj htask) hr
  | normalForm content key =>
    obtain rfl : key.formulas = accepted := Option.some.inj htask
    simp only [evaluate, Task.accepting, normalForm, Action.gives_bind_of_gives htext',
      Action.gives_bind_of_gives hv, Action.gives_bind_of_gives hv'] at hr ⊢
    exact hr
  | _ => cases htask

end Grading

/-- An answer to a stored exercise with accepted formulas, where the tables over the answer and the
    entries fit the limit, is correct exactly if its text has the spelling of an entry or is a
    formula with the value of an entry that can be read under every assignment. The match is exact
    in the first case and equivalent otherwise; a text that is neither and no formula has its
    syntax error for a result. A normal form exercise reports in every other result whether the
    text is a formula that the conversion to the form leaves unchanged. An exercise with the same
    entries in another order, or with repetitions, has the same result. -/
theorem accepted_formulas_decide_every_text {record answer : Json} {e : Exercise}
    {accepted : List String} {text : String} (hrecord : Exercise.decode record = .ok e)
    (htask : e.task.accepted? = some accepted) (htext : Answer.formula answer = .ok text)
    (hfit : Grading.TablesFit settings.maxVariables text accepted) :
    ∃ r, (gradeStored record answer).Gives (.ok settings) r ∧
      (r.isCorrect = true ↔ Grading.Spelled text accepted ∨
        ∃ f, Formula.parse text = .ok f ∧ f.Matches accepted) ∧
      (r.isCorrect = true → (r.details.match? = some .exact ↔ Grading.Spelled text accepted) ∧
        (¬ Grading.Spelled text accepted → r.details.match? = some .equivalent)) ∧
      (r.isCorrect = false → r.details.match? = none) ∧
      (¬ Grading.Spelled text accepted → ∀ error, Formula.parse text = .error error →
        r = Grading.syntaxErrorResult error e.explanation) ∧
      (∀ content key, e.task = .normalForm content key →
        (∀ error, r ≠ Grading.syntaxErrorResult error e.explanation) →
          ∃ inForm, r.details.inForm? = some inForm ∧
            (inForm = true ↔ ∃ f, Formula.parse text = .ok f ∧ f.convert content.form = f)) ∧
      ∀ record' accepted',
        Exercise.decode record' = .ok ⟨e.task.accepting accepted', e.explanation⟩ →
        (∀ t, t ∈ accepted' ↔ t ∈ accepted) →
          (gradeStored record' answer).Gives (.ok settings) r := by
  obtain ⟨v, hverdict⟩ := Grading.exists_verdict text accepted
  have hv := hverdict.gives hfit
  obtain ⟨r, hr, hreports, hform⟩ := Grading.exists_reports htask htext hv
  refine ⟨r, (gives_gradeStored hrecord).2 (.inl hr), ?_, ?_, ?_, ?_, ?_, ?_⟩
  · rw [hreports.isCorrect]
    exact hverdict.matched_iff
  · intro hcorrect
    obtain ⟨found, rfl⟩ := hreports.isCorrect.1 hcorrect
    have hfound : r.details.match? = some found := hreports.found
    have hexact : found = .exact ↔ Grading.Spelled text accepted := by
      rw [← hverdict.exact_iff, Except.ok.injEq, Option.some.injEq]
    rw [hfound, Option.some.injEq, Option.some.injEq]
    refine ⟨hexact, fun hspelled => ?_⟩
    cases found with
    | exact => exact absurd (hexact.1 rfl) hspelled
    | equivalent => rfl
  · intro hincorrect
    rw [hreports.found]
    rcases v with error | _ | found
    · rfl
    · rfl
    · rw [hreports.isCorrect.2 ⟨found, rfl⟩] at hincorrect
      cases hincorrect
  · intro hspelled error herror
    exact hreports.error error (hverdict.eq_error hspelled herror)
  · intro content key htask' hread
    cases v with
    | error error => exact absurd (hreports.error error rfl) (hread error)
    | ok found => exact hform content key found htask' rfl
  · intro record' accepted' hrecord' hentries
    have hv' := (hverdict.congr hentries).gives (hfit.congr hentries)
    exact (gives_gradeStored hrecord').2 (.inl (Grading.gives_accepting htask htext hv hv' hr))

/-- A stored exercise that asks for the conjunctive normal form of `P -> Q`, with these accepted
    formulas. -/
def clausalRecord (accepted : List String) : Json :=
  .object [("type", .str "NORMAL_FORM"),
    ("content", .object [("formula", .str "P -> Q"), ("targetForm", .str "CNF")]),
    ("solution", .object [("correctFormulas", .list (accepted.map .str))])]

/-- The exercise of this record. -/
def clausalExercise (accepted : List String) : Exercise :=
  ⟨.normalForm ⟨"P -> Q", .cnf⟩ ⟨accepted⟩, none⟩

/-- The formula itself is accepted as equivalent, behind an entry that cannot be read and in either
    order, and is reported not to be in conjunctive normal form. -/
theorem accepted_formulas_decide_every_text_unconverted :
    Exercise.decode (clausalRecord ["P ->", "~P | Q"]) = .ok (clausalExercise ["P ->", "~P | Q"]) ∧
    Answer.formula (.str " P => Q") = .ok "P => Q" ∧
    Grading.TablesFit 2 "P => Q" ["P ->", "~P | Q"] ∧
    ∃ r, (gradeStored (clausalRecord ["P ->", "~P | Q"]) (.str " P => Q")).Gives
        (.ok twoVariables) r ∧
      (gradeStored (clausalRecord ["~P | Q", "P ->", "~P | Q"]) (.str " P => Q")).Gives
        (.ok twoVariables) r ∧
      r.isCorrect = true ∧ r.details.match? = some .equivalent ∧
      r.details.inForm? = some false := by
  have hrecord : Exercise.decode (clausalRecord ["P ->", "~P | Q"]) =
      .ok (clausalExercise ["P ->", "~P | Q"]) := rfl
  have hparse : Formula.parse "P => Q" = .ok (.imp (.atom "P") (.atom "Q")) := rfl
  have hentry : Formula.parse "~P | Q" = .ok (.disj (.neg (.atom "P")) (.atom "Q")) := rfl
  have hfit : Grading.TablesFit twoVariables.maxVariables "P => Q" ["P ->", "~P | Q"] := by
    intro f hf t ht g hg
    obtain rfl := Except.ok.inj (hparse.symm.trans hf)
    rcases List.mem_cons.1 ht with rfl | ht
    · cases hg
    · obtain rfl := List.mem_singleton.1 ht
      obtain rfl := Except.ok.inj (hentry.symm.trans hg)
      decide
  have hspelled : ¬ Grading.Spelled "P => Q" ["P ->", "~P | Q"] := by
    unfold Grading.Spelled
    decide
  have htext : Answer.formula (.str " P => Q") = .ok "P => Q" := rfl
  have hresult : (gradeStored (clausalRecord ["P ->", "~P | Q"]) (.str " P => Q")).Gives
      (.ok twoVariables)
      (.correct "Correct, your formula is equivalent, but it is not written in CNF." none
        (.normalForm (some .equivalent) false)) := rfl
  obtain ⟨r, hr, -, hmatch, -, -, -, hsame⟩ :=
    accepted_formulas_decide_every_text hrecord rfl htext hfit
  obtain rfl := Except.ok.inj (hr.symm.trans hresult)
  have hentries : ∀ t, t ∈ ["~P | Q", "P ->", "~P | Q"] ↔ t ∈ ["P ->", "~P | Q"] := by
    intro t
    simp only [List.mem_cons, List.not_mem_nil, or_false]
    tauto
  have hreordered := hsame (clausalRecord ["~P | Q", "P ->", "~P | Q"]) _ rfl hentries
  exact ⟨hrecord, htext, hfit, _, hr, hreordered, rfl, (hmatch rfl).2 hspelled, rfl⟩

end PropTutor
