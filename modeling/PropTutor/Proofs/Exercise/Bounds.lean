/-
  The bounds of decoded exercises.

  What grading divides by, looks up or searches is there: the fields that grading relies on are
  checked when a record is read, whatever spelling their values have, and so every task that was
  read is within bounds (`Task.withinBounds_of_readFrom`). An explanation that is kept has a text
  (`Exercise.explanationOf_ne_empty`). So a record is an exercise within these bounds, or it is
  diagnosed.
-/
import PropTutor.Proofs.Exercise.SchemaKeys

namespace PropTutor

/-! ## Texts of values -/

/-- What stands behind a text that is not empty leaves it so. -/
theorem append_ne_empty {s : String} (h : s ≠ "") (t : String) : s ++ t ≠ "" :=
  fun hempty => h (String.append_eq_empty_iff.1 hempty).1

theorem DecimalLayout.positional_ne_empty (ds : List Char) (point : Int) :
    positional ds point ≠ "" := by
  unfold positional
  split
  · exact append_ne_empty (by decide) _
  · exact String.ofList_eq_empty_iff.not.2
      (List.append_ne_nil_of_right_ne_nil _ (List.cons_ne_nil _ _))

theorem DecimalLayout.render_ne_empty (layout : DecimalLayout) (digits : Nat) (scale : Int) :
    layout.render digits scale ≠ "" := by
  unfold render
  dsimp only
  split
  · exact positional_ne_empty _ _
  · split
    · decide
    · have hfirst := fun c cs => String.ofList_eq_empty_iff.not.2 (List.cons_ne_nil c cs)
      exact append_ne_empty (append_ne_empty (hfirst _ _) _) _

theorem Binary64.text_ne_empty (x : Binary64) : x.text ≠ "" := by
  cases x with
  | finite negative m e =>
    have hbehind : ∀ sign s : String, s ≠ "" → sign ++ s ≠ "" :=
      fun sign s h hempty => h (String.append_eq_empty_iff.1 hempty).2
    unfold text
    dsimp only
    split
    · exact hbehind _ _ (by decide)
    · exact hbehind _ _ (DecimalLayout.render_ne_empty _ _ _)
  | infinite negative => cases negative <;> decide
  | nan => decide

theorem int_text_ne_empty (n : Int) : toString n ≠ "" := by
  cases n with
  | ofNat n => exact Nat.repr_ne_empty
  | negSucc n => exact append_ne_empty (by decide) _

/-- What does not count as false has a text. -/
theorem Json.toText_ne_empty {v : Json} (h : v.truthy = true) : v.toText ≠ "" := by
  cases v with
  | null => cases h
  | bool b => cases b <;> decide
  | int n => exact int_text_ne_empty n
  | float x => exact x.text_ne_empty
  | str s =>
    rintro rfl
    cases h
  | list items => exact append_ne_empty (append_ne_empty (by decide) _) _
  | object members => exact append_ne_empty (append_ne_empty (by decide) _) _

/-- A record keeps no empty explanation. -/
theorem Exercise.explanationOf_ne_empty (members : List (String × Json)) :
    explanationOf members ≠ some "" := by
  intro h
  obtain ⟨v, -, hv⟩ := Option.bind_eq_some_iff.1 h
  split at hv
  · next htruthy => exact Json.toText_ne_empty htruthy (Option.some.inj hv)
  · cases hv

/-! ## Fields -/

theorem Field.ne_empty_of_nonemptyText {v : Json} {s : String} (h : nonemptyText v = .ok s) :
    s ≠ "" := by
  have htest := (Checked.ensure_eq_ok.1 h).2
  rintro rfl
  cases htest

theorem EquivalenceTarget.target_ne_empty_of_readContent {v : Json} {content : EquivalenceTarget}
    (h : readContent v = .ok content) : content.target ≠ some "" := by
  obtain ⟨members, h⟩ := Field.of_record h
  obtain ⟨target, hread, rfl⟩ := Checked.map_eq_ok.1 h
  rintro rfl
  rcases Field.of_defaulted hread with hdefault | ⟨v, hread⟩
  · cases hdefault
  · exact Field.ne_empty_of_nonemptyText (Field.of_nullable hread) rfl

theorem AvailableSymbol.count_nonneg_of_read {v : Json} {symbol : AvailableSymbol}
    (h : AvailableSymbol.read v = .ok symbol) : 0 ≤ symbol.count := by
  obtain ⟨members, h⟩ := Field.of_record h
  obtain ⟨withSymbol, count, hsymbol, hcount, rfl⟩ := Checked.seq_eq_ok.1 h
  obtain ⟨withId, name, hid, -, rfl⟩ := Checked.seq_eq_ok.1 hsymbol
  obtain ⟨id, -, rfl⟩ := Checked.map_eq_ok.1 hid
  rcases Field.of_defaulted hcount with rfl | ⟨v, hread⟩
  · exact Int.one_nonneg
  · exact Field.le_of_integerFrom hread

theorem ArrangementContent.count_nonneg_of_read {v : Json} {content : ArrangementContent}
    (h : ArrangementContent.read v = .ok content) {symbol : AvailableSymbol}
    (hsymbol : symbol ∈ content.symbols) : 0 ≤ symbol.count := by
  obtain ⟨members, h⟩ := Field.of_record h
  obtain ⟨withSymbols, goal, hsymbols, -, rfl⟩ := Checked.seq_eq_ok.1 h
  obtain ⟨withInstruction, symbols, hinstruction, hread, rfl⟩ := Checked.seq_eq_ok.1 hsymbols
  obtain ⟨instruction, -, rfl⟩ := Checked.map_eq_ok.1 hinstruction
  rcases Field.of_defaulted hread with rfl | ⟨v, hread⟩
  · cases hsymbol
  · obtain ⟨w, hw⟩ := Field.exists_of_mem_list hread hsymbol
    exact AvailableSymbol.count_nonneg_of_read hw

theorem AcceptedFormulas.formulas_ne_nil_of_read {v : Json} {key : AcceptedFormulas}
    (h : AcceptedFormulas.read v = .ok key) : key.formulas ≠ [] := by
  obtain ⟨members, h⟩ := Field.of_record h
  obtain ⟨formulas, hread, rfl⟩ := Checked.map_eq_ok.1 h
  obtain ⟨v, hread⟩ := Field.of_required hread
  exact Field.ne_nil_of_nonemptyList hread

theorem FallacyKey.correctId_ne_empty_of_read {v : Json} {key : FallacyKey}
    (h : FallacyKey.read v = .ok key) : key.correctId ≠ "" := by
  obtain ⟨members, h⟩ := Field.of_record h
  obtain ⟨withId, explanation, hid, -, rfl⟩ := Checked.seq_eq_ok.1 h
  obtain ⟨id, hread, rfl⟩ := Checked.map_eq_ok.1 hid
  obtain ⟨v, hread⟩ := Field.of_required hread
  exact Field.ne_empty_of_nonemptyText hread

/-! ## Tasks -/

/-- What grading relies on: a target that is given has a text, something is right, symbols are there
    in numbers, cells have rows, and a derivation may have a step. -/
def Task.WithinBounds : Task → Prop
  | equivalence content _ => content.target ≠ some ""
  | multipleChoice _ key => key.correctIds ≠ []
  | symbolArrangement content key => (∀ s ∈ content.symbols, 0 ≤ s.count) ∧ key.formulas ≠ []
  | formulation _ key => key.formulas ≠ []
  | validation .. => True
  | truthTable content _ => ∀ cell ∈ content.hidden, 0 ≤ cell.row
  | proof content _ => ∀ n, content.maxSteps = some n → 1 ≤ n
  | normalForm content key => content.form.name ∈ ["NNF", "CNF", "DNF"] ∧ key.formulas ≠ []
  | identifyFallacy _ key => key.correctId ≠ ""

theorem Task.withinBounds_of_readFrom {task : Task} {v w : Json} (h : task.ReadFrom v w) :
    task.WithinBounds := by
  cases task with
  | equivalence content key => exact EquivalenceTarget.target_ne_empty_of_readContent h.1
  | multipleChoice content key => exact ChoiceKey.correctIds_ne_nil_of_read h.2
  | symbolArrangement content key =>
    exact ⟨fun s hs => ArrangementContent.count_nonneg_of_read h.1 hs,
      AcceptedFormulas.formulas_ne_nil_of_read h.2⟩
  | formulation content key => exact AcceptedFormulas.formulas_ne_nil_of_read h.2
  | validation content key => trivial
  | truthTable content key => exact fun cell hcell => TableContent.row_nonneg_of_read h.1 hcell
  | proof content key => exact fun n hn => ProofContent.one_le_of_read h.1 hn
  | normalForm content key =>
    refine ⟨?_, AcceptedFormulas.formulas_ne_nil_of_read h.2⟩
    cases content.form <;> decide
  | identifyFallacy content key => exact FallacyKey.correctId_ne_empty_of_read h.2

/-- A record is diagnosed, or it holds an exercise of the kind that it names: content and key were
    read from its parts as records of this kind, they are within bounds, and an explanation has a
    text. Members under unknown keys, and second keys in the place of stored ones, do not change the
    exercise, if it is no equivalence exercise. -/
theorem decoding_bounds_tasks_and_ignores_keys :
    (∀ members, (∃ error, Exercise.decode (.object members) = .error (.diagnosed error)) ∨
      ∃ e v w, Exercise.decode (.object members) = .ok e ∧
        members.lookup "type" = some (.str e.kind.name) ∧
        Exercise.loadPart .content (members.lookup "content") = .ok v ∧
        Exercise.loadPart .solution (members.lookup "solution") = .ok w ∧
        e.task.ReadFrom (Exercise.contentFor e.kind members v) w ∧ e.task.WithinBounds ∧
        e.explanation ≠ some "") ∧
    ∀ (e : Exercise) members members', e.kind ≠ .equivalence →
      Exercise.PartsChanged e.kind members members' →
      (Exercise.decode (.object members') = .ok e ↔ Exercise.decode (.object members) = .ok e) := by
  refine ⟨fun members => ?_, fun e members members' hkind h =>
    Exercise.decode_of_partsChanged hkind h⟩
  cases hmembers : Exercise.ofMembers members with
  | error error => exact .inl ⟨error, congrArg (Except.mapError DecodeError.diagnosed) hmembers⟩
  | ok e =>
    have hdecode : Exercise.decode (.object members) = .ok e :=
      congrArg (Except.mapError DecodeError.diagnosed) hmembers
    obtain ⟨v, w, htype, hv, hw, htask, hexplanation⟩ := Exercise.decode_eq_ok.1 hdecode
    have hread := Exercise.readFrom_of_readTask htask
    exact .inr ⟨e, v, w, hdecode, htype, hv, hw, hread, Task.withinBounds_of_readFrom hread,
      hexplanation ▸ Exercise.explanationOf_ne_empty members⟩

/-- A multiple choice with keys in camel case. -/
def camelCaseChoice : List (String × Json) := [
  ("type", .str "MULTIPLE_CHOICE"),
  ("content", .object [("options", .list [.object [("id", .str "a"), ("isFormula", .int 1)]])]),
  ("solution", .object [("correctOptionIds", .list [.str "a"])])]

/-- The same choice with keys in snake case, a colour for its option and a note in its solution. -/
def snakeCaseChoice : List (String × Json) := [
  ("type", .str "MULTIPLE_CHOICE"),
  ("content", .object [("options", .list [.object
    [("id", .str "a"), ("colour", .null), ("is_formula", .int 1)]])]),
  ("solution", .object [("correct_option_ids", .list [.str "a"]), ("note", .int 1)])]

/-- The exercise that both of them hold. -/
def singleChoice : Exercise :=
  ⟨.multipleChoice ⟨"", [⟨"a", "", true⟩], false, false⟩ ⟨["a"], []⟩, none⟩

/-- Both choices are the same exercise, which has a right option. -/
theorem decoding_bounds_tasks_and_ignores_keys_choice :
    singleChoice.kind ≠ .equivalence ∧
    Exercise.PartsChanged singleChoice.kind camelCaseChoice snakeCaseChoice ∧
    Exercise.decode (.object camelCaseChoice) = .ok singleChoice ∧
    Exercise.decode (.object snakeCaseChoice) = .ok singleChoice ∧
    singleChoice.task.WithinBounds := by
  have hcontent : ChoiceContent.keys.Changes
      (.object [("options", .list [.object [("id", .str "a"), ("isFormula", .int 1)]])])
      (.object [("options", .list [.object
        [("id", .str "a"), ("colour", .null), ("is_formula", .int 1)]])]) := by
    have hfield : (["options"], KnownKeys.items ChoiceOption.keys) ∈
        [(["question"], KnownKeys.plain), (["options"], .items ChoiceOption.keys),
          (["allowMultiple", "allow_multiple"], .plain),
          (["randomizeOrder", "randomize_order"], .plain)] := by simp
    have hcolour : ChoiceOption.keys.Change
        (.object [("id", .str "a"), ("isFormula", .int 1)])
        (.object [("id", .str "a"), ("colour", .null), ("isFormula", .int 1)]) :=
      .unknown .null [("id", .str "a")] [("isFormula", .int 1)] (by simp)
    have hsnake : KnownKeys.rekey "isFormula" "is_formula"
        [("id", .str "a"), ("colour", .null), ("isFormula", .int 1)] =
        [("id", .str "a"), ("colour", .null), ("is_formula", .int 1)] := by
      simp [KnownKeys.rekey]
    have hrenamed : ChoiceOption.keys.Change
        (.object [("id", .str "a"), ("colour", .null), ("isFormula", .int 1)])
        (.object (KnownKeys.rekey "isFormula" "is_formula"
          [("id", .str "a"), ("colour", .null), ("isFormula", .int 1)])) :=
      .renamed (List.mem_of_getLast? rfl) (by simp)
    rw [hsnake] at hrenamed
    have hinside : ∀ {v v' : Json}, ChoiceOption.keys.Change v v' → ChoiceContent.keys.Change
        (.object [("options", .list [v])]) (.object [("options", .list [v'])]) :=
      fun h => .field [] [] hfield (List.mem_singleton_self _) (.item [] [] h)
    exact .tail (.single (hinside hcolour)) (hinside hrenamed)
  have hsolution : ChoiceKey.keys.Changes (.object [("correctOptionIds", .list [.str "a"])])
      (.object [("correct_option_ids", .list [.str "a"]), ("note", .int 1)]) := by
    have hsnake : KnownKeys.rekey "correctOptionIds" "correct_option_ids"
        [("correctOptionIds", .list [.str "a"])] = [("correct_option_ids", .list [.str "a"])] := by
      simp [KnownKeys.rekey]
    have hrenamed : ChoiceKey.keys.Change (.object [("correctOptionIds", .list [.str "a"])])
        (.object (KnownKeys.rekey "correctOptionIds" "correct_option_ids"
          [("correctOptionIds", .list [.str "a"])])) :=
      .renamed (List.mem_cons_self ..) (by simp)
    rw [hsnake] at hrenamed
    exact .tail (.single hrenamed)
      (.unknown (.int 1) [("correct_option_ids", .list [.str "a"])] [] (by simp))
  have hchanged : Exercise.PartsChanged singleChoice.kind camelCaseChoice snakeCaseChoice :=
    ⟨rfl, rfl, ⟨_, _, rfl, rfl, hcontent⟩, ⟨_, _, rfl, rfl, hsolution⟩⟩
  have hkind : singleChoice.kind ≠ .equivalence := by decide
  have hdecode : Exercise.decode (.object camelCaseChoice) = .ok singleChoice := rfl
  have hdecode' := (decoding_bounds_tasks_and_ignores_keys.2 _ _ _ hkind hchanged).2 hdecode
  rcases decoding_bounds_tasks_and_ignores_keys.1 camelCaseChoice with
    ⟨error, hfails⟩ | ⟨e, v, w, he, -, -, -, -, hbounds, -⟩
  · rw [hdecode] at hfails
    cases hfails
  · obtain rfl : singleChoice = e := Except.ok.inj (hdecode.symm.trans he)
    exact ⟨hkind, hchanged, hdecode, hdecode', hbounds⟩

end PropTutor
