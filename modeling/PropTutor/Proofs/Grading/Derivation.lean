/-
  Derivations are graded by entailment.

  A step counts if it is a formula that is true wherever all premises are (`Entails`). Which
  steps do not count, whether the last one is the conclusion, the score and the verdict are read
  off this relation alone (`DerivationGraded`), as long as the tables that are needed fit the
  limit. The premises count as a set, so their order does not matter, and a derivation that is
  correct exists exactly if the premises entail the conclusion: the conclusion itself is one.
-/
import Mathlib.Data.List.Perm.Basic
import PropTutor.Proofs.Exercise.Decode
import PropTutor.Proofs.Formula.Spelling
import PropTutor.Proofs.Grading.Grade
import PropTutor.Proofs.NormalForm.Meaning
import PropTutor.Proofs.Semantics.Answers
import PropTutor.Proofs.Semantics.Variables

namespace PropTutor

/-- The texts are read as these formulas. -/
def ReadAs (texts : List String) (formulas : List Formula) : Prop :=
  List.Forall₂ (fun text f => Formula.parse text = .ok f) texts formulas

/-- The formula is true under every assignment that makes all premises true. -/
def Entails (premises : List Formula) (f : Formula) : Prop :=
  ∀ a : Assignment, (∀ p ∈ premises, p.eval a.value = true) → f.eval a.value = true

/-- A table over the atoms of all these formulas fits the limit. -/
def TableFits (limit : Int) (formulas : List Formula) : Prop :=
  ((formulas.flatMap Formula.atoms).toFinset.card : Int) ≤ limit

/-- The step is a formula that the premises entail. -/
def Supported (premises : List Formula) (step : String) : Prop :=
  ∃ f, Formula.parse step = .ok f ∧ Entails premises f

/-- The step is a formula with the value of the conclusion under every assignment. -/
def Concludes (conclusion : Formula) (step : String) : Prop :=
  ∃ f, Formula.parse step = .ok f ∧ ∀ a : Assignment, f.eval a.value = conclusion.eval a.value

/-- The tables that grading a derivation needs fit the limit: one over the premises and each
    step, and one over the last step and the conclusion. -/
structure DerivationFits (limit : Int) (premises : List Formula) (conclusion : Formula)
    (steps : List String) : Prop where
  step : ∀ t ∈ steps, ∀ f, Formula.parse t = .ok f → TableFits limit (premises ++ [f])
  last : ∀ t ∈ steps.getLast?, ∀ f, Formula.parse t = .ok f → TableFits limit [f, conclusion]

/-- What a report says about a derivation; the steps are numbered from one. -/
structure ProofReport.Describes (report : ProofReport) (premises : List Formula)
    (conclusion : Formula) (maxSteps : Option Int) (steps : List String) : Prop where
  total : report.total = steps.length
  increasing : report.unsupported.Pairwise (· < ·)
  mem_unsupported : ∀ i, i ∈ report.unsupported ↔
    ∃ j step, steps[j]? = some step ∧ i = j + 1 ∧ ¬ Supported premises step
  supported : report.supported + report.unsupported.length = report.total
  reaches : report.reachesConclusion = true ↔ ∃ last ∈ steps.getLast?, Concludes conclusion last
  within : report.withinLimit = true ↔ ∀ n ∈ maxSteps, (steps.length : Int) ≤ n

/-- The result that a derivation deserves. -/
structure DerivationGraded (premises : List Formula) (conclusion : Formula)
    (maxSteps : Option Int) (steps : List String) (r : GradingResult) : Prop where
  empty : steps = [] → r.isCorrect = false ∧ r.score = 0
  report : steps ≠ [] → ∃ report : ProofReport, r.details = .proof report ∧
    report.Describes premises conclusion maxSteps steps ∧
    (r.score = if report.reachesConclusion = true ∧ report.withinLimit = true
      then (report.supported : Rat) / report.total
      else (report.supported : Rat) / report.total / 2) ∧
    (r.isCorrect = true ↔
      report.unsupported = [] ∧ report.reachesConclusion = true ∧ report.withinLimit = true)

namespace Grading

variable {settings : Settings} {premises premises' : List Formula} {conclusion f : Formula}

/-! ## The premises -/

theorem eval_foldl_conj (v : String → Bool) (p : Formula) (rest : List Formula) :
    (rest.foldl Formula.conj p).eval v = true ↔ ∀ q ∈ p :: rest, q.eval v = true := by
  induction rest generalizing p with
  | nil => rw [List.foldl_nil, List.forall_mem_singleton]
  | cons q rest ih =>
    rw [List.foldl_cons, ih, List.forall_mem_cons, List.forall_mem_cons, List.forall_mem_cons,
      ← and_assoc, Formula.eval, Connective.holds, Bool.and_eq_true]

theorem atoms_foldl_conj (p : Formula) (rest : List Formula) :
    (rest.foldl Formula.conj p).atoms = (p :: rest).flatMap Formula.atoms := by
  induction rest generalizing p with
  | nil => rw [List.foldl_nil, List.flatMap_cons, List.flatMap_nil, List.append_nil]
  | cons q rest ih =>
    rw [List.foldl_cons, ih, List.flatMap_cons, List.flatMap_cons, List.flatMap_cons,
      Formula.atoms, List.append_assoc]

/-- Whether a formula follows is answered exactly if the table fits, and then rightly. -/
theorem gives_follows {b : Bool} : (follows premises f).Gives (.ok settings) b ↔
    TableFits settings.maxVariables (premises ++ [f]) ∧ (b = true ↔ Entails premises f) := by
  have hatoms : (premises ++ [f]).flatMap Formula.atoms =
      premises.flatMap Formula.atoms ++ f.atoms := by
    rw [List.flatMap_append, List.flatMap_cons, List.flatMap_nil, List.append_nil]
  rw [follows, Action.gives_tabulating, TableFits, hatoms]
  cases premises with
  | nil =>
    simp only [conjunction?, Except.ok.injEq, exists_eq_left', Formula.isTautology_eq_ok,
      Formula.length_vars, List.flatMap_nil, List.nil_append, Entails, List.not_mem_nil,
      false_implies, implies_true, true_implies]
  | cons p rest =>
    simp only [conjunction?, Except.ok.injEq, exists_eq_left', Formula.entails_eq_ok,
      Formula.length_vars, Formula.atoms, atoms_foldl_conj, Entails, eval_foldl_conj]

theorem follows_perm (h : premises'.Perm premises) : follows premises' = follows premises := by
  funext f
  cases premises with
  | nil => rw [List.perm_nil.1 h]
  | cons p rest =>
    cases premises' with
    | nil => exact absurd h.symm.eq_nil (List.cons_ne_nil _ _)
    | cons p' rest' =>
      have hsame : (rest'.foldl Formula.conj p').SameMeaning (rest.foldl Formula.conj p) := by
        refine ⟨fun v => ?_, fun n => ?_⟩
        · rw [Bool.eq_iff_iff, eval_foldl_conj, eval_foldl_conj]
          simp only [h.mem_iff]
        · rw [atoms_foldl_conj, atoms_foldl_conj, (h.flatMap_right _).mem_iff]
      have himp := hsame.bin .implies (.refl f)
      exact congrArg Action.tabulating (funext fun limit =>
        Formula.isTautology_congr (Formula.vars_congr himp.atoms) himp.eval limit)

/-! ## The steps -/

/-- A test of a step that is no formula fails; else the formula decides. -/
theorem gives_of_parse {step : String} {test : Formula → Action Bool} {fits holds : Formula → Prop}
    {b : Bool} (htest : ∀ f b, (test f).Gives (.ok settings) b ↔ fits f ∧ (b = true ↔ holds f)) :
    (match Formula.parse step with
      | .error _ => return false
      | .ok f => test f : Action Bool).Gives (.ok settings) b ↔
      (∀ f, Formula.parse step = .ok f → fits f) ∧
        (b = true ↔ ∃ f, Formula.parse step = .ok f ∧ holds f) := by
  cases hparse : Formula.parse step with
  | error e =>
    refine Action.gives_pure.trans ⟨?_, fun h => ?_⟩
    · rintro rfl
      exact ⟨nofun, iff_of_false nofun fun ⟨_, h, _⟩ => nomatch h⟩
    · refine (Bool.eq_false_iff.2 fun hb => ?_).symm
      obtain ⟨_, h, -⟩ := h.2.1 hb
      cases h
  | ok f => simp only [htest, Except.ok.injEq, forall_eq', exists_eq_left']

theorem gives_isSupported {step : String} {b : Bool} :
    (isSupported premises step).Gives (.ok settings) b ↔
      (∀ f, Formula.parse step = .ok f → TableFits settings.maxVariables (premises ++ [f])) ∧
        (b = true ↔ Supported premises step) :=
  gives_of_parse fun _ _ => gives_follows

theorem gives_concludes {step : String} {b : Bool} :
    (concludes conclusion step).Gives (.ok settings) b ↔
      (∀ f, Formula.parse step = .ok f → TableFits settings.maxVariables [f, conclusion]) ∧
        (b = true ↔ Concludes conclusion step) := by
  refine gives_of_parse fun f b => ?_
  have hatoms : [f, conclusion].flatMap Formula.atoms = f.atoms ++ conclusion.atoms := by
    rw [List.flatMap_cons, List.flatMap_cons, List.flatMap_nil, List.append_nil]
  simp only [Action.gives_tabulating, Except.ok.injEq, exists_eq_left', Formula.isEquivalent_eq_ok,
    Formula.length_vars, Formula.atoms, TableFits, hatoms]

/-- The numbers of the steps that are not supported, counted from `n` on. -/
structure Numbers (premises : List Formula) (n : Nat) (steps : List String) (found : List Nat) :
    Prop where
  increasing : found.Pairwise (· < ·)
  mem : ∀ i, i ∈ found ↔ ∃ j step, steps[j]? = some step ∧ i = n + j ∧ ¬ Supported premises step
  length_le : found.length ≤ steps.length

namespace Numbers

theorem le_of_mem {n : Nat} {steps : List String} {found : List Nat}
    (h : Numbers premises n steps found) {i : Nat} (hi : i ∈ found) : n ≤ i := by
  obtain ⟨j, -, -, rfl, -⟩ := (h.mem i).1 hi
  exact Nat.le_add_right n j

theorem nil (n : Nat) : Numbers premises n [] [] :=
  ⟨.nil, fun i => iff_of_false List.not_mem_nil fun ⟨_, _, h, _⟩ => by simp at h, Nat.le_refl 0⟩

theorem supported {n : Nat} {step : String} {steps : List String} {found : List Nat}
    (h : Numbers premises (n + 1) steps found) (hstep : Supported premises step) :
    Numbers premises n (step :: steps) found := by
  refine ⟨h.increasing, fun i => ?_, Nat.le_succ_of_le h.length_le⟩
  rw [h.mem]
  constructor
  · rintro ⟨j, t, ht, rfl, hnot⟩
    exact ⟨j + 1, t, ht, by omega, hnot⟩
  · rintro ⟨j, t, ht, rfl, hnot⟩
    cases j with
    | zero =>
      obtain rfl : step = t := Option.some.inj ht
      exact absurd hstep hnot
    | succ j => exact ⟨j, t, ht, by omega, hnot⟩

theorem unsupported {n : Nat} {step : String} {steps : List String} {found : List Nat}
    (h : Numbers premises (n + 1) steps found) (hstep : ¬ Supported premises step) :
    Numbers premises n (step :: steps) (n :: found) := by
  refine ⟨List.pairwise_cons.2 ⟨fun i hi => h.le_of_mem hi, h.increasing⟩, fun i => ?_,
    Nat.succ_le_succ h.length_le⟩
  rw [List.mem_cons, h.mem]
  constructor
  · rintro (rfl | ⟨j, t, ht, rfl, hnot⟩)
    · exact ⟨0, step, rfl, rfl, hstep⟩
    · exact ⟨j + 1, t, ht, by omega, hnot⟩
  · rintro ⟨j, t, ht, rfl, hnot⟩
    cases j with
    | zero => exact .inl rfl
    | succ j => exact .inr ⟨j, t, ht, by omega, hnot⟩

end Numbers

/-- The walk through the steps finds the numbers of those that are not supported. -/
theorem numbers_of_gives {n : Nat} {steps : List String} {found : List Nat}
    (h : (unsupportedFrom premises n steps).Gives (.ok settings) found) :
    Numbers premises n steps found := by
  induction steps generalizing n found with
  | nil =>
    obtain rfl := Action.gives_pure.1 h
    exact .nil n
  | cons step steps ih =>
    obtain ⟨supported, hsupported, h⟩ := Action.gives_bind.1 h
    obtain ⟨others, hothers, h⟩ := Action.gives_bind.1 h
    obtain rfl := Action.gives_pure.1 h
    have hmeans := (gives_isSupported.1 hsupported).2
    cases supported with
    | true => exact (ih hothers).supported (hmeans.1 rfl)
    | false => exact (ih hothers).unsupported fun hstep => nomatch hmeans.2 hstep

/-- The walk comes to its end where the tables fit. -/
theorem exists_gives_unsupportedFrom {steps : List String}
    (h : ∀ t ∈ steps, ∀ f, Formula.parse t = .ok f →
      TableFits settings.maxVariables (premises ++ [f])) (n : Nat) :
    ∃ found, (unsupportedFrom premises n steps).Gives (.ok settings) found := by
  classical
  induction steps generalizing n with
  | nil => exact ⟨[], rfl⟩
  | cons step steps ih =>
    obtain ⟨others, hothers⟩ := ih (fun t ht => h t (List.mem_cons_of_mem _ ht)) (n + 1)
    have hsupported := gives_isSupported.2
      ⟨h step (List.mem_cons_self ..), @decide_eq_true_iff (Supported premises step) _⟩
    exact ⟨_, Action.gives_bind.2 ⟨_, hsupported, Action.gives_bind.2 ⟨_, hothers, rfl⟩⟩⟩

/-! ## The report -/

/-- The report of a walk through the steps and a look at the last one. -/
theorem describes_report (maxSteps : Option Int) (referenceSteps : Nat) {steps : List String}
    {last : String} {unsupported : List Nat} {reached : Bool}
    (hlast : steps.getLast? = some last) (hnumbers : Numbers premises 1 steps unsupported)
    (hreached : reached = true ↔ Concludes conclusion last) :
    ProofReport.Describes
      { supported := steps.length - unsupported.length
        total := steps.length
        unsupported := unsupported
        reachesConclusion := reached
        withinLimit := maxSteps.all fun limit => decide ((steps.length : Int) ≤ limit)
        referenceSteps := referenceSteps } premises conclusion maxSteps steps := by
  refine ⟨rfl, hnumbers.increasing, fun i => ?_, Nat.sub_add_cancel hnumbers.length_le, ?_, ?_⟩
  · rw [hnumbers.mem]
    simp only [Nat.add_comm 1]
  · rw [hreached, hlast]
    simp only [Option.mem_def, Option.some.injEq, exists_eq_left']
  · rw [Option.all_eq_true]
    simp only [decide_eq_true_eq, Option.mem_def]

theorem derivationScore_eq (report : ProofReport) : derivationScore report =
    if report.reachesConclusion = true ∧ report.withinLimit = true
    then (report.supported : Rat) / report.total
    else (report.supported : Rat) / report.total / 2 := by
  simp only [derivationScore, Bool.and_eq_true]

/-- A derivation whose steps are all supported has the full share. -/
theorem share_eq_one {report : ProofReport} {maxSteps : Option Int} {steps : List String}
    (h : report.Describes premises conclusion maxSteps steps) (hsteps : steps ≠ [])
    (hunsupported : report.unsupported = []) : (report.supported : Rat) / report.total = 1 := by
  have hall : report.supported = report.total := by
    rw [← h.supported, hunsupported, List.length_nil, Nat.add_zero]
  have htotal : (report.total : Rat) ≠ 0 := by
    rw [h.total]
    exact fun hzero => hsteps (List.length_eq_zero_iff.1 (Rat.natCast_inj.1 hzero))
  rw [hall, Rat.div_def, Rat.mul_inv_cancel _ htotal]

theorem exerciseFormula_eq_ok {role : FormulaRole} {text : String} :
    exerciseFormula role text = .ok f ↔ Formula.parse text = .ok f :=
  Action.mapError_eq_ok

theorem mapM_exerciseFormula (role : FormulaRole) {texts : List String}
    (h : ReadAs texts premises) :
    texts.mapM (exerciseFormula role) = .ok premises :=
  mapM_eq_ok (h.imp fun _ _ => exerciseFormula_eq_ok.2)

variable {content : ProofContent} {key : ProofKey} {explanation : Option String} {answer : Json}
  {steps : List String} {r : GradingResult}

/-- A derivation that is graded has steps, and the result that they deserve. -/
theorem graded_of_gives
    (hpremises : ReadAs content.premises premises)
    (hconclusion : Formula.parse content.conclusion = .ok conclusion)
    (h : (derivation content key explanation answer).Gives (.ok settings) r) :
    ∃ steps, Answer.steps answer = .ok steps ∧
      DerivationGraded premises conclusion content.maxSteps steps r := by
  rw [derivation] at h
  obtain ⟨premises', hpremises', h⟩ := Action.gives_bind.1 h
  obtain ⟨conclusion', hconclusion', h⟩ := Action.gives_bind.1 h
  obtain ⟨steps, hsteps, h⟩ := Action.gives_bind.1 h
  -- the exercise and the answer are read in one way only
  obtain rfl : premises = premises' := Except.ok.inj
    ((mapM_exerciseFormula .premise hpremises).symm.trans (Action.gives_ofExcept.1 hpremises'))
  obtain rfl : conclusion = conclusion' := Except.ok.inj
    ((exerciseFormula_eq_ok.2 hconclusion).symm.trans (Action.gives_ofExcept.1 hconclusion'))
  refine ⟨steps, Action.gives_ofExcept.1 hsteps, ?_⟩
  split at h
  · next hlast =>
    obtain rfl := Action.gives_pure.1 h
    exact ⟨fun _ => ⟨rfl, rfl⟩, fun hne => absurd (List.getLast?_eq_none_iff.1 hlast) hne⟩
  · next last hlast =>
    obtain ⟨unsupported, hunsupported, h⟩ := Action.gives_bind.1 h
    obtain ⟨reached, hreached, h⟩ := Action.gives_bind.1 h
    have hdescribes := describes_report content.maxSteps key.steps.length hlast
      (numbers_of_gives hunsupported) (gives_concludes.1 hreached).2
    have hne : steps ≠ [] := by
      rintro rfl
      cases hlast
    dsimp only at h
    split at h
    · next hall =>
      obtain rfl := Action.gives_pure.1 h
      simp only [Bool.and_eq_true, List.isEmpty_iff] at hall
      obtain ⟨⟨hnone, hreaches⟩, hwithin⟩ := hall
      have hscore := share_eq_one hdescribes hne hnone
      refine ⟨fun hnil => absurd hnil hne, fun _ => ⟨_, rfl, hdescribes, ?_, ?_⟩⟩
      · rw [if_pos ⟨hreaches, hwithin⟩, hscore]
        rfl
      · exact iff_of_true rfl ⟨hnone, hreaches, hwithin⟩
    · next hnot =>
      obtain rfl := Action.gives_pure.1 h
      simp only [Bool.and_eq_true, List.isEmpty_iff] at hnot
      refine ⟨fun hnil => absurd hnil hne,
        fun _ => ⟨_, rfl, hdescribes, derivationScore_eq _, iff_of_false nofun ?_⟩⟩
      exact fun ⟨hnone, hreaches, hwithin⟩ => hnot ⟨⟨hnone, hreaches⟩, hwithin⟩

/-- A derivation is graded where the tables fit. -/
theorem exists_gives_derivation
    (hpremises : ReadAs content.premises premises)
    (hconclusion : Formula.parse content.conclusion = .ok conclusion)
    (hsteps : Answer.steps answer = .ok steps)
    (hfits : DerivationFits settings.maxVariables premises conclusion steps) :
    ∃ r, (derivation content key explanation answer).Gives (.ok settings) r := by
  classical
  refine Action.exists_gives_bind
    (Action.gives_ofExcept.2 (mapM_exerciseFormula .premise hpremises)) ?_
  refine Action.exists_gives_bind
    (Action.gives_ofExcept.2 (exerciseFormula_eq_ok.2 hconclusion)) ?_
  refine Action.exists_gives_bind (Action.gives_ofExcept.2 hsteps) ?_
  split
  · exact ⟨_, rfl⟩
  · next last hlast =>
    obtain ⟨unsupported, hunsupported⟩ := exists_gives_unsupportedFrom hfits.step 1
    have hreached := gives_concludes.2
      ⟨hfits.last last hlast, @decide_eq_true_iff (Concludes conclusion last) _⟩
    refine Action.exists_gives_bind hunsupported (Action.exists_gives_bind hreached ?_)
    dsimp only
    split
    · exact ⟨_, rfl⟩
    · exact ⟨_, rfl⟩

/-! ## Premises in another order -/

theorem demand_ok {α : Type} (a : α) : demand (.ok a) = pure a := rfl

theorem unsupportedFrom_perm (h : premises'.Perm premises) (n : Nat) (steps : List String) :
    unsupportedFrom premises' n steps = unsupportedFrom premises n steps := by
  induction steps generalizing n with
  | nil => rfl
  | cons step steps ih =>
    rw [unsupportedFrom, unsupportedFrom, isSupported, isSupported, follows_perm h]
    simp only [ih]

/-- Premises in another order do not change how a derivation is graded. -/
theorem derivation_perm {texts : List String} (htexts : texts.Perm content.premises)
    (hpremises : ReadAs content.premises premises) :
    derivation { content with premises := texts } key explanation answer =
      derivation content key explanation answer := by
  obtain ⟨premises', hpremises', hperm⟩ := List.perm_comp_forall₂ htexts hpremises
  simp only [derivation, mapM_exerciseFormula .premise hpremises,
    mapM_exerciseFormula .premise hpremises', demand_ok, pure_bind, unsupportedFrom_perm hperm]

/-! ## Correct derivations -/

/-- A derivation that is graded as it deserves is correct only if the premises entail the
    conclusion. -/
theorem entails_of_isCorrect {maxSteps : Option Int}
    (h : DerivationGraded premises conclusion maxSteps steps r) (hcorrect : r.isCorrect = true) :
    Entails premises conclusion := by
  have hne : steps ≠ [] := fun hnil => by
    rw [(h.empty hnil).1] at hcorrect
    cases hcorrect
  obtain ⟨report, -, hdescribes, -, hverdict⟩ := h.report hne
  obtain ⟨hnone, hreaches, -⟩ := hverdict.1 hcorrect
  obtain ⟨last, hlast, f, hparse, hvalue⟩ := hdescribes.reaches.1 hreaches
  rw [List.getLast?_eq_getElem?] at hlast
  -- the last step has a number, which would be reported if the step did not follow
  have hsupported : Supported premises last := by
    by_contra hnot
    have hmem := (hdescribes.mem_unsupported _).2 ⟨_, last, hlast, rfl, hnot⟩
    rw [hnone] at hmem
    cases hmem
  obtain ⟨f', hparse', hentails⟩ := hsupported
  obtain rfl : f = f' := Except.ok.inj (hparse.symm.trans hparse')
  exact fun a ha => hvalue a ▸ hentails a ha

/-- The conclusion alone, if the premises entail it, is a correct derivation. -/
theorem isCorrect_of_entails {maxSteps : Option Int} {step : String}
    (hmax : ∀ n ∈ maxSteps, 1 ≤ n) (hparse : Formula.parse step = .ok conclusion)
    (hentails : Entails premises conclusion)
    (h : DerivationGraded premises conclusion maxSteps [step] r) : r.isCorrect = true := by
  obtain ⟨report, -, hdescribes, -, hverdict⟩ := h.report (List.cons_ne_nil _ _)
  refine hverdict.2 ⟨List.eq_nil_iff_forall_not_mem.2 fun i hi => ?_, ?_, ?_⟩
  · obtain ⟨j, t, ht, -, hnot⟩ := (hdescribes.mem_unsupported i).1 hi
    obtain rfl : step = t := by
      have hmem := List.mem_of_getElem? ht
      exact (List.mem_singleton.1 hmem).symm
    exact hnot ⟨conclusion, hparse, hentails⟩
  · exact hdescribes.reaches.2 ⟨step, rfl, conclusion, hparse, fun _ => rfl⟩
  · exact hdescribes.within.2 hmax

/-- Grading the conclusion alone takes one table over the premises and the conclusion. -/
theorem derivationFits_singleton {limit : Int} {step : String}
    (hparse : Formula.parse step = .ok conclusion)
    (hfits : TableFits limit (premises ++ [conclusion])) :
    DerivationFits limit premises conclusion [step] := by
  constructor
  · intro t ht f hf
    obtain rfl := List.mem_singleton.1 ht
    obtain rfl : conclusion = f := Except.ok.inj (hparse.symm.trans hf)
    exact hfits
  · intro t ht f hf
    obtain rfl : step = t := Option.some.inj ht
    obtain rfl : conclusion = f := Except.ok.inj (hparse.symm.trans hf)
    refine le_trans (Int.ofNat_le.2 (Finset.card_le_card fun n hn => ?_)) hfits
    simp only [List.mem_toFinset, List.mem_flatMap, List.mem_cons, List.not_mem_nil, or_false,
      List.mem_append, or_self] at hn ⊢
    obtain ⟨g, rfl, hn⟩ := hn
    exact ⟨g, .inr rfl, hn⟩

end Grading

/-- A proof exercise whose premises and conclusion can be read is graded by entailment: where
    the tables fit, every derivation gets the result that it deserves. Premises in another order
    grade every answer alike. And where the table over premises and conclusion fits, some answer
    is correct exactly if the premises entail the conclusion. -/
theorem derivation_graded_by_entailment {record : Json} {content : ProofContent} {key : ProofKey}
    {explanation : Option String} {premises : List Formula} {conclusion : Formula}
    (settings : Settings)
    (hrecord : Exercise.decode record = .ok ⟨.proof content key, explanation⟩)
    (hpremises : ReadAs content.premises premises)
    (hconclusion : Formula.parse content.conclusion = .ok conclusion) :
    (∀ answer steps, Answer.steps answer = .ok steps →
      DerivationFits settings.maxVariables premises conclusion steps →
      ∃ r, (gradeStored record answer).Gives (.ok settings) r ∧
        DerivationGraded premises conclusion content.maxSteps steps r) ∧
    (∀ record' texts, texts.Perm content.premises →
      Exercise.decode record' =
        .ok ⟨.proof { content with premises := texts } key, explanation⟩ →
      ∀ answer, gradeStored record' answer = gradeStored record answer) ∧
    (TableFits settings.maxVariables (premises ++ [conclusion]) →
      ((∃ answer r, (gradeStored record answer).Gives (.ok settings) r ∧ r.isCorrect = true) ↔
        Entails premises conclusion)) := by
  have hgraded : ∀ answer steps, Answer.steps answer = .ok steps →
      DerivationFits settings.maxVariables premises conclusion steps →
      ∃ r, (gradeStored record answer).Gives (.ok settings) r ∧
        DerivationGraded premises conclusion content.maxSteps steps r := by
    intro answer steps hsteps hfits
    obtain ⟨r, hr⟩ := Grading.exists_gives_derivation hpremises hconclusion hsteps hfits
    obtain ⟨steps', hsteps', h⟩ := Grading.graded_of_gives hpremises hconclusion hr
    obtain rfl : steps = steps' := Except.ok.inj (hsteps.symm.trans hsteps')
    exact ⟨r, (gives_gradeStored hrecord).2 (.inl hr), h⟩
  refine ⟨hgraded, ?_, fun hfits => ⟨?_, fun hentails => ?_⟩⟩
  · intro record' texts htexts hrecord' answer
    rw [gradeStored, gradeStored, hrecord, hrecord']
    exact Exercise.grade_congr rfl (Grading.derivation_perm htexts hpremises)
  · rintro ⟨answer, r, hr, hcorrect⟩
    have hevaluate := evaluated_of_isCorrect hrecord hr hcorrect
    obtain ⟨steps, -, h⟩ := Grading.graded_of_gives hpremises hconclusion hevaluate
    exact Grading.entails_of_isCorrect h hcorrect
  · have hparse : Formula.parse (Text.strip content.conclusion) = .ok conclusion :=
      (Formula.parse_congr (signature?_strip _)).2 hconclusion
    obtain ⟨r, hr, h⟩ := hgraded (.list [.str content.conclusion]) _ rfl
      (Grading.derivationFits_singleton hparse hfits)
    have hmax : ∀ n ∈ content.maxSteps, 1 ≤ n := fun n hn =>
      Exercise.one_le_of_maxSteps hrecord hn
    exact ⟨_, r, hr, Grading.isCorrect_of_entails hmax hparse hentails h⟩

/-- A stored exercise: derive `Q` from `P -> Q` and `P` in two steps at most. -/
def modusPonensRecord : Json :=
  .object [("type", .str "PROOF"),
    ("content", .object [("premises", .list [.str "P -> Q", .str "P"]), ("conclusion", .str "Q"),
      ("maxSteps", .int 2)])]

/-- The content of this exercise. -/
def modusPonens : ProofContent := ⟨["P -> Q", "P"], "Q", [], some 2⟩

/-- Its premises. -/
def modusPonensPremises : List Formula := [.imp (.atom "P") (.atom "Q"), .atom "P"]

/-- A derivation of modus ponens with a step that is no formula, and the exercise itself, which
    can be solved. -/
theorem derivation_graded_by_entailment_modus_ponens :
    Exercise.decode modusPonensRecord = .ok ⟨.proof modusPonens ⟨[]⟩, none⟩ ∧
    ReadAs modusPonens.premises modusPonensPremises ∧
    Formula.parse modusPonens.conclusion = .ok (.atom "Q") ∧
    DerivationFits Settings.standard.maxVariables modusPonensPremises (.atom "Q") ["P &", "Q"] ∧
    (∃ r, (gradeStored modusPonensRecord (.list [.str "P &", .str "Q"])).Gives (.ok .standard) r ∧
      DerivationGraded modusPonensPremises (.atom "Q") (some 2) ["P &", "Q"] r) ∧
    TableFits Settings.standard.maxVariables (modusPonensPremises ++ [.atom "Q"]) ∧
    ((∃ answer r, (gradeStored modusPonensRecord answer).Gives (.ok .standard) r ∧
      r.isCorrect = true) ↔ Entails modusPonensPremises (.atom "Q")) := by
  have hrecord : Exercise.decode modusPonensRecord = .ok ⟨.proof modusPonens ⟨[]⟩, none⟩ := rfl
  have hpremises : ReadAs modusPonens.premises modusPonensPremises := .cons rfl (.cons rfl .nil)
  have hconclusion : Formula.parse modusPonens.conclusion = .ok (.atom "Q") := rfl
  have htable : TableFits Settings.standard.maxVariables (modusPonensPremises ++ [.atom "Q"]) := by
    unfold TableFits
    decide
  have hfits : DerivationFits Settings.standard.maxVariables modusPonensPremises (.atom "Q")
      ["P &", "Q"] := by
    constructor
    · intro t ht f hf
      rcases List.mem_cons.1 ht with rfl | ht
      · cases hf
      · obtain rfl := List.mem_singleton.1 ht
        obtain rfl : Formula.atom "Q" = f := Except.ok.inj hf
        exact htable
    · intro t ht f hf
      obtain rfl : "Q" = t := Option.some.inj ht
      obtain rfl : Formula.atom "Q" = f := Except.ok.inj hf
      unfold TableFits
      decide
  have hgraded := derivation_graded_by_entailment .standard hrecord hpremises hconclusion
  exact ⟨hrecord, hpremises, hconclusion, hfits, hgraded.1 _ _ rfl hfits, htable,
    hgraded.2.2 htable⟩

end PropTutor
