/-
  Which answers match an accepted formula.

  An answer is correct if its text has the spelling of an entry of the list, or if it is a formula
  with the value of an entry under every assignment and the search comes to such an entry
  (`exists_correct_iff`). The search takes the entries in order, passes over those that cannot be
  read, and ends without a result at one whose table with the answer is too large
  (`Formula.Stopped`). So a list with more entries, or with its entries in another order, accepts
  the answers that it accepted before, unless an entry that is too large has come to stand in
  front of all that have the value of the answer (`more_formulas_accept_unless_stopped`).
-/
import PropTutor.Proofs.Grading.Accepted

namespace PropTutor

variable {s : Except SettingsError Settings} {settings : Settings}

namespace Formula

variable {limit : Int} {f : Formula} {t : String} {ts : List String}

/-- The table over the formula and the entry is larger than the limit. -/
def Oversized (limit : Int) (f : Formula) (t : String) : Prop :=
  ∃ g, parse t = .ok g ∧ limit < ((f.vars.toFinset ∪ g.vars.toFinset).card : Int)

/-- Before any entry with the value of the formula there is one that is too large. -/
def Stopped (limit : Int) (f : Formula) (accepted : List String) : Prop :=
  ∃ before t after, accepted = before ++ t :: after ∧ f.Oversized limit t ∧ ¬ f.Matches before

theorem not_matches_nil : ¬ f.Matches [] := fun ⟨_, ht, _⟩ => nomatch ht

theorem matches_cons (t : String) (ts : List String) :
    f.Matches (t :: ts) ↔ f.Matches [t] ∨ f.Matches ts := by
  simp only [Matches, List.mem_cons, List.not_mem_nil, or_false, or_and_right, exists_or,
    exists_eq_left]

theorem matches_singleton {g : Formula} (h : parse t = .ok g) :
    f.Matches [t] ↔ ∀ a : Assignment, f.eval a.value = g.eval a.value := by
  simp only [Matches, List.mem_singleton, exists_eq_left, h, Except.ok.injEq, exists_eq_left']

theorem oversized_iff {g : Formula} (h : parse t = .ok g) :
    f.Oversized limit t ↔ limit < ((f.vars.toFinset ∪ g.vars.toFinset).card : Int) := by
  simp only [Oversized, h, Except.ok.injEq, exists_eq_left']

/-- A list with more entries has all values that it had. -/
theorem Matches.mono {ts' : List String} (h : f.Matches ts) (hsub : ∀ t ∈ ts, t ∈ ts') :
    f.Matches ts' := by
  obtain ⟨t, ht, hmatches⟩ := h
  exact ⟨t, hsub t ht, hmatches⟩

theorem not_stopped_nil : ¬ f.Stopped limit [] := by
  rintro ⟨before, t, after, h, -⟩
  cases before <;> cases h

theorem stopped_cons : f.Stopped limit (t :: ts) ↔
    f.Oversized limit t ∨ ¬ f.Matches [t] ∧ f.Stopped limit ts := by
  constructor
  · rintro ⟨before, u, after, heq, hover, hnot⟩
    cases before with
    | nil =>
      obtain ⟨rfl, -⟩ := List.cons.inj heq
      exact .inl hover
    | cons v before =>
      obtain ⟨rfl, rfl⟩ := List.cons.inj heq
      rw [matches_cons, not_or] at hnot
      exact .inr ⟨hnot.1, before, u, after, rfl, hover, hnot.2⟩
  · rintro (hover | ⟨hnot, before, u, after, rfl, hover, hbefore⟩)
    · exact ⟨[], t, ts, rfl, hover, not_matches_nil⟩
    · refine ⟨t :: before, u, after, rfl, hover, fun h => ?_⟩
      exact ((matches_cons t before).1 h).elim hnot hbefore

end Formula

namespace Grading

/-! ## The search -/

/-- Without settings the search finds nothing. -/
theorem exists_settings_of_search {f : Formula} {accepted : List String} {found : Match}
    (h : (searchEquivalent f accepted).Gives s (some found)) : ∃ settings, s = .ok settings := by
  induction accepted with
  | nil => cases h
  | cons t ts ih =>
    rw [searchEquivalent] at h
    split at h
    · exact ih (Action.gives_log_bind.1 h)
    · obtain ⟨equivalent, hequivalent, -⟩ := Action.gives_bind.1 h
      obtain ⟨settings, hs, -⟩ := Action.gives_tabulating.1 hequivalent
      exact ⟨settings, hs⟩

/-- Two formulas are compared exactly if their table fits, and rightly. -/
theorem gives_isEquivalent {f g : Formula} {b : Bool} :
    (Action.tabulating fun limit => f.isEquivalent limit g).Gives (.ok settings) b ↔
      ¬ settings.maxVariables < ((f.vars.toFinset ∪ g.vars.toFinset).card : Int) ∧
        (b = true ↔ ∀ a : Assignment, f.eval a.value = g.eval a.value) := by
  simp only [Action.gives_tabulating, Except.ok.injEq, exists_eq_left', Formula.isEquivalent_eq_ok,
    Formula.length_vars_bin, not_lt]

/-- The search comes past an entry that is not too large: it ends at a match, and goes on behind
    any other. -/
theorem gives_searchEquivalent_cons {f : Formula} {t : String} {ts : List String}
    {found : Option Match} : (searchEquivalent f (t :: ts)).Gives (.ok settings) found ↔
      ¬ f.Oversized settings.maxVariables t ∧ (f.Matches [t] ∧ found = some .equivalent ∨
        ¬ f.Matches [t] ∧ (searchEquivalent f ts).Gives (.ok settings) found) := by
  cases hparse : Formula.parse t with
  | error e =>
    have hunread (g : Formula) : Formula.parse t ≠ .ok g := fun h => nomatch hparse.symm.trans h
    have hover : ¬ f.Oversized settings.maxVariables t := fun ⟨g, hg, _⟩ => hunread g hg
    have hmatch : ¬ f.Matches [t] := fun ⟨u, hu, g, hg, _⟩ =>
      hunread g (List.mem_singleton.1 hu ▸ hg)
    rw [searchEquivalent, hparse, and_iff_right hover, and_iff_right hmatch,
      or_iff_right fun h => hmatch h.1]
    exact Action.gives_log_bind
  | ok g =>
    rw [searchEquivalent, hparse]
    refine Action.gives_bind.trans ?_
    -- the comparison is asked what `Oversized` and `Matches` say of this entry
    simp only [gives_isEquivalent, ← Formula.oversized_iff hparse,
      ← Formula.matches_singleton hparse]
    constructor
    · rintro ⟨equivalent, ⟨hover, hequivalent⟩, hfound⟩
      refine ⟨hover, ?_⟩
      cases equivalent with
      | true => exact .inl ⟨hequivalent.1 rfl, (Action.gives_pure.1 hfound).symm⟩
      | false => exact .inr ⟨fun h => Bool.false_ne_true (hequivalent.2 h), hfound⟩
    · rintro ⟨hover, ⟨hmatch, rfl⟩ | ⟨hmatch, hfound⟩⟩
      · exact ⟨true, ⟨hover, iff_of_true rfl hmatch⟩, Action.gives_pure.2 rfl⟩
      · exact ⟨false, ⟨hover, iff_of_false Bool.false_ne_true hmatch⟩, hfound⟩

/-- The search ends unless it is stopped, and then it has found an entry exactly if there is
    one. -/
theorem gives_searchEquivalent {f : Formula} {accepted : List String} {found : Option Match} :
    (searchEquivalent f accepted).Gives (.ok settings) found ↔
      ¬ f.Stopped settings.maxVariables accepted ∧
        (found = some .equivalent ∧ f.Matches accepted ∨ found = none ∧ ¬ f.Matches accepted) := by
  induction accepted with
  | nil =>
    simp only [searchEquivalent, Action.gives_pure, Formula.not_stopped_nil,
      Formula.not_matches_nil, not_false_eq_true, true_and, and_false, false_or, and_true, eq_comm]
  | cons t ts ih =>
    rw [gives_searchEquivalent_cons, ih, Formula.stopped_cons, Formula.matches_cons t ts]
    -- a match decides the search, and any other entry leaves it to the rest
    by_cases hmatch : f.Matches [t]
    · simp only [hmatch, true_and, not_true_eq_false, false_and, or_false, true_or, and_true,
        and_false]
    · simp only [hmatch, false_and, not_false_eq_true, true_and, false_or, not_or, and_assoc]

/-! ## Grading -/

/-- A text matches by its spelling, or as a formula whose search finds an entry. -/
theorem exists_gives_matchAccepted {accepted : List String} {text : String} :
    (∃ found, (matchAccepted accepted text).Gives s (.ok (some found))) ↔
      (∃ t ∈ accepted, sameSpelling text t = true) ∨
        ∃ f settings, Formula.parse text = .ok f ∧ s = .ok settings ∧ f.Matches accepted ∧
          ¬ f.Stopped settings.maxVariables accepted := by
  rw [← List.any_eq_true, matchAccepted]
  by_cases hspelling : accepted.any (sameSpelling text) = true
  · rw [if_pos hspelling]
    exact iff_of_true ⟨.exact, Action.gives_pure.2 rfl⟩ (.inl hspelling)
  · rw [if_neg hspelling, or_iff_right hspelling]
    constructor
    · rintro ⟨found, h⟩
      split at h
      · cases Action.gives_pure.1 h
      · next f hf =>
        obtain ⟨result, hsearch, h⟩ := Action.gives_bind.1 h
        obtain rfl : result = some found := Except.ok.inj (Action.gives_pure.1 h)
        obtain ⟨settings, rfl⟩ := exists_settings_of_search hsearch
        obtain ⟨hfree, ⟨-, hmatches⟩ | ⟨hnone, -⟩⟩ := gives_searchEquivalent.1 hsearch
        · exact ⟨f, settings, hf, rfl, hmatches, hfree⟩
        · cases hnone
    · rintro ⟨f, settings, hf, rfl, hmatches, hfree⟩
      have hsearch : (searchEquivalent f accepted).Gives (.ok settings) (some .equivalent) :=
        gives_searchEquivalent.2 ⟨hfree, .inl ⟨rfl, hmatches⟩⟩
      rw [hf]
      exact ⟨.equivalent, Action.gives_bind.2 ⟨_, hsearch, Action.gives_pure.2 rfl⟩⟩

/-- Every grader with accepted formulas gives full marks for a text that matches. -/
theorem exists_correct_of_matched {e : Exercise} {accepted : List String} {answer : Json}
    {text : String} {found : Match} (htask : e.task.accepted? = some accepted)
    (htext : Answer.formula answer = .ok text)
    (hfound : (matchAccepted accepted text).Gives s (.ok (some found))) :
    ∃ feedback details, (evaluate e answer).Gives s (.correct feedback e.explanation details) := by
  obtain ⟨task, explanation⟩ := e
  have htext' : (demand (Answer.formula answer)).Gives s text := Action.gives_ofExcept.2 htext
  have haccepted {key : AcceptedFormulas} (hkey : key.formulas = accepted) :
      (acceptedFormula key explanation answer).Gives s
        (.correct "Correct!" explanation (.formula found)) := by
    subst hkey
    exact Action.gives_bind.2
      ⟨text, htext', Action.gives_bind.2 ⟨_, hfound, Action.gives_pure.2 rfl⟩⟩
  cases task with
  | symbolArrangement content key => exact ⟨_, _, haccepted (Option.some.inj htask)⟩
  | formulation content key => exact ⟨_, _, haccepted (Option.some.inj htask)⟩
  | normalForm content key =>
    obtain rfl : key.formulas = accepted := Option.some.inj htask
    exact ⟨_, _, Action.gives_bind.2
      ⟨text, htext', Action.gives_bind.2 ⟨_, hfound, Action.gives_pure.2 rfl⟩⟩⟩
  | _ => cases htask

end Grading

/-- An answer to a stored exercise with accepted formulas is correct exactly if its text has the
    spelling of an entry, or is a formula with the value of one and the search is not stopped. -/
theorem exists_correct_iff {record answer : Json} {e : Exercise} {accepted : List String}
    (hrecord : Exercise.decode record = .ok e) (htask : e.task.accepted? = some accepted) :
    (∃ r, (gradeStored record answer).Gives s r ∧ r.isCorrect = true) ↔
      ∃ text, Answer.formula answer = .ok text ∧ ((∃ t ∈ accepted, sameSpelling text t = true) ∨
        ∃ f settings, Formula.parse text = .ok f ∧ s = .ok settings ∧ f.Matches accepted ∧
          ¬ f.Stopped settings.maxVariables accepted) := by
  simp only [← Grading.exists_gives_matchAccepted]
  constructor
  · rintro ⟨r, hgives, hcorrect⟩
    obtain ⟨text, found, htext, hfound⟩ :=
      Grading.matched_of_evaluate htask (evaluated_of_isCorrect hrecord hgives hcorrect) hcorrect
    exact ⟨text, htext, found, hfound⟩
  · rintro ⟨text, htext, found, hfound⟩
    obtain ⟨feedback, details, hgives⟩ := Grading.exists_correct_of_matched htask htext hfound
    exact ⟨_, (gives_gradeStored hrecord).2 (.inl hgives), rfl⟩

/-- An answer that is correct stays correct where more formulas are accepted, in whatever order
    they stand, exactly if its text has the spelling of one of them or no entry that is too large
    stands in front of all with the value of the answer. -/
theorem more_formulas_accept_unless_stopped {record record' answer : Json} {e e' : Exercise}
    {accepted accepted' : List String} {r : GradingResult}
    (hrecord : Exercise.decode record = .ok e) (htask : e.task.accepted? = some accepted)
    (hrecord' : Exercise.decode record' = .ok e') (htask' : e'.task.accepted? = some accepted')
    (hmore : ∀ t ∈ accepted, t ∈ accepted') (hgives : (gradeStored record answer).Gives s r)
    (hcorrect : r.isCorrect = true) :
    ∃ text r', Answer.formula answer = .ok text ∧ (gradeStored record' answer).Gives s r' ∧
      (r'.isCorrect = true ↔ (∃ t ∈ accepted', sameSpelling text t = true) ∨
        ∃ f settings, Formula.parse text = .ok f ∧ s = .ok settings ∧
          ¬ f.Stopped settings.maxVariables accepted') := by
  obtain ⟨text, htext, hmatch⟩ := (exists_correct_iff hrecord htask).1 ⟨r, hgives, hcorrect⟩
  obtain ⟨r', hgives', -⟩ := e'.exists_gives_grade answer s
  rw [← gradeStored_eq hrecord'] at hgives'
  refine ⟨text, r', htext, hgives', fun hcorrect' => ?_, fun hmatch' => ?_⟩
  · obtain ⟨text', htext', hmatch'⟩ :=
      (exists_correct_iff hrecord' htask').1 ⟨r', hgives', hcorrect'⟩
    obtain rfl := Except.ok.inj (htext.symm.trans htext')
    exact hmatch'.imp_right fun ⟨f, settings, hf, hs, _, hfree⟩ => ⟨f, settings, hf, hs, hfree⟩
  · suffices h : ∃ r, (gradeStored record' answer).Gives s r ∧ r.isCorrect = true by
      obtain ⟨r, hr, hcorrect⟩ := h
      rwa [Except.ok.inj (hgives'.symm.trans hr)]
    refine (exists_correct_iff hrecord' htask').2 ⟨text, htext, ?_⟩
    rcases hmatch with ⟨t, ht, hspelling⟩ | ⟨f, -, hf, -, hmatches, -⟩
    · exact .inl ⟨t, hmore t ht, hspelling⟩
    · refine hmatch'.imp_right fun ⟨f', settings, hf', hs, hfree⟩ => ?_
      obtain rfl := Except.ok.inj (hf.symm.trans hf')
      exact ⟨f, settings, hf, hs, hmatches.mono hmore, hfree⟩

/-- A stored exercise that accepts these formulas. -/
def acceptingRecord (accepted : List String) : Json :=
  .object [("type", .str "FORMULATION"),
    ("content", .object [("naturalLanguage", .str "If P, then Q.")]),
    ("solution", .object [("correctFormulas", .list (accepted.map .str))])]

/-- The exercise of this record. -/
def acceptingExercise (accepted : List String) : Exercise :=
  ⟨.formulation ⟨"If P, then Q.", [], none⟩ ⟨accepted⟩, none⟩

/-- Settings under which a table has two variables at most. -/
def twoVariables : Settings := { Settings.standard with maxVariables := 2 }

/-- An entry that cannot be read and, behind the one that matches, an entry that is too large
    leave the contraposition of `P -> Q` correct. -/
theorem more_formulas_accept_unless_stopped_behind :
    Exercise.decode (acceptingRecord ["P -> Q"]) = .ok (acceptingExercise ["P -> Q"]) ∧
    Exercise.decode (acceptingRecord ["P -", "P -> Q", "A & B & C"]) =
      .ok (acceptingExercise ["P -", "P -> Q", "A & B & C"]) ∧
    (∀ t ∈ ["P -> Q"], t ∈ ["P -", "P -> Q", "A & B & C"]) ∧
    (gradeStored (acceptingRecord ["P -> Q"]) (.str "~Q -> ~P")).Gives (.ok twoVariables)
      (.correct "Correct!" none (.formula .equivalent)) ∧
    ∃ text r', Answer.formula (.str "~Q -> ~P") = .ok text ∧
      (gradeStored (acceptingRecord ["P -", "P -> Q", "A & B & C"]) (.str "~Q -> ~P")).Gives
        (.ok twoVariables) r' ∧ r'.isCorrect = true ∧
      ((∃ t ∈ ["P -", "P -> Q", "A & B & C"], sameSpelling text t = true) ∨
        ∃ f settings, Formula.parse text = .ok f ∧
          (.ok twoVariables : Except SettingsError Settings) = .ok settings ∧
          ¬ f.Stopped settings.maxVariables ["P -", "P -> Q", "A & B & C"]) := by
  have hmore : ∀ t ∈ ["P -> Q"], t ∈ ["P -", "P -> Q", "A & B & C"] := by decide
  have hgives : (gradeStored (acceptingRecord ["P -> Q"]) (.str "~Q -> ~P")).Gives
      (.ok twoVariables) (.correct "Correct!" none (.formula .equivalent)) := rfl
  have hrecord : Exercise.decode (acceptingRecord ["P -> Q"]) =
      .ok (acceptingExercise ["P -> Q"]) := rfl
  have hrecord' : Exercise.decode (acceptingRecord ["P -", "P -> Q", "A & B & C"]) =
      .ok (acceptingExercise ["P -", "P -> Q", "A & B & C"]) := rfl
  obtain ⟨text, r', htext, hgives', hverdict⟩ :=
    more_formulas_accept_unless_stopped hrecord rfl hrecord' rfl hmore hgives rfl
  have hbehind : (gradeStored (acceptingRecord ["P -", "P -> Q", "A & B & C"])
      (.str "~Q -> ~P")).Gives (.ok twoVariables)
        (.correct "Correct!" none (.formula .equivalent)) := rfl
  obtain rfl := Except.ok.inj (hgives'.symm.trans hbehind)
  exact ⟨hrecord, hrecord', hmore, hgives, text, _, htext, hgives', rfl, hverdict.1 rfl⟩

/-- In front of the entry that matches, an entry that is too large makes the contraposition of
    `P -> Q` incorrect. -/
theorem oversized_entry_in_front_rejects :
    Exercise.decode (acceptingRecord ["P -> Q"]) = .ok (acceptingExercise ["P -> Q"]) ∧
    Exercise.decode (acceptingRecord ["P -> Q", "A & B & C"]) =
      .ok (acceptingExercise ["P -> Q", "A & B & C"]) ∧
    Exercise.decode (acceptingRecord ["A & B & C", "P -> Q"]) =
      .ok (acceptingExercise ["A & B & C", "P -> Q"]) ∧
    (∃ r, (gradeStored (acceptingRecord ["P -> Q"]) (.str "~Q -> ~P")).Gives (.ok twoVariables) r ∧
      r.isCorrect = true) ∧
    (∃ r, (gradeStored (acceptingRecord ["P -> Q", "A & B & C"]) (.str "~Q -> ~P")).Gives
      (.ok twoVariables) r ∧ r.isCorrect = true) ∧
    ∃ r, (gradeStored (acceptingRecord ["A & B & C", "P -> Q"]) (.str "~Q -> ~P")).Gives
      (.ok twoVariables) r ∧ r.isCorrect = false :=
  ⟨rfl, rfl, rfl, ⟨_, rfl, rfl⟩, ⟨_, rfl, rfl⟩, ⟨_, rfl, rfl⟩⟩

end PropTutor
