/-
  Multiple choice as a comparison of two sets.

  An answer submits identifiers, each of which stands for the option that it is the text of; so it
  selects a set of options, and the key has another one. A choice of one option is correct or has no
  score. A choice of several options has the score of its balance, which is the number of right
  options less the number of wrong ones, by the number of right options there are
  (`Grading.balance`); a negative balance has no score. Another right option takes the balance up by
  one share and another wrong one takes it down by one (`balance_insert_of_mem`,
  `balance_insert_of_notMem`), and only below zero this is not seen in the score. In which order
  identifiers stand and how often is not seen at all (`multipleChoice_congr`).
-/
import Mathlib.Tactic.Ring
import PropTutor.Proofs.Grading.Score

namespace PropTutor

namespace Answer

/-- The answer submits these identifiers: a text is one, a list holds them, and an object has the
    list under `selected` or, without such a member, under `selectedOptionIds`. -/
inductive Submits : Json → List Json → Prop where
  | one (s : String) : Submits (.str s) [.str s]
  | list (ids : List Json) : Submits (.list ids) ids
  | selected {members : List (String × Json)} {ids : List Json} :
      members.lookup "selected" = some (.list ids) → Submits (.object members) ids
  | selectedOptionIds {members : List (String × Json)} {ids : List Json} :
      members.lookup "selected" = none → members.lookup "selectedOptionIds" = some (.list ids) →
      Submits (.object members) ids

/-- The options that identifiers select; an identifier stands for the option that is its text. -/
def selection (ids : List Json) : Finset String := (ids.map Json.toText).toFinset

/-- The identifiers that are submitted are read, each as its text. -/
theorem optionIds_of_submits {answer : Json} {ids : List Json} (h : Submits answer ids) :
    optionIds answer = .ok (ids.map Json.toText) := by
  cases h with
  | one s => rfl
  | list => rfl
  | selected hselected => rw [optionIds, hselected]; rfl
  | selectedOptionIds hnone hids => rw [optionIds, hnone, hids]; rfl

end Answer

namespace Grading

/-! ## The balance of a choice -/

/-- The right options of a choice less its wrong ones, as a share of all right options. -/
def balance (chosen right : Finset String) : Rat :=
  (((chosen ∩ right).card : Rat) - (chosen \ right).card) / right.card

variable {chosen right : Finset String} {option : String}

/-- A choice of several options has the score of its balance, if that is not negative. -/
theorem choiceScore_choiceCounts (selected correct : List String) :
    choiceScore (choiceCounts selected correct) =
      max 0 (balance selected.toFinset correct.toFinset) := by
  rw [choiceCounts_eq, choiceScore, Rat.mkRat_eq_div, balance]
  dsimp only
  generalize (selected.toFinset ∩ correct.toFinset).card = m
  generalize (selected.toFinset \ correct.toFinset).card = n
  have htotal : (0 : Rat) ≤ correct.toFinset.card := Nat.cast_nonneg _
  rcases Nat.le_total n m with hle | hle
  · have hdifference : (((m - n : Nat) : Int) : Rat) = (m : Rat) - n := by
      rw [Int.cast_natCast, Nat.cast_sub hle]
    have hnonneg : (0 : Rat) ≤ (m : Rat) - n := sub_nonneg.2 (Nat.cast_le.2 hle)
    rw [hdifference, max_eq_right (div_nonneg hnonneg htotal)]
  · have hnonpos : (m : Rat) - n ≤ 0 := sub_nonpos.2 (Nat.cast_le.2 hle)
    rw [max_eq_left (div_nonpos_of_nonpos_of_nonneg hnonpos htotal), Nat.sub_eq_zero_of_le hle]
    simp

theorem balance_self (h : right.Nonempty) : balance right right = 1 := by
  have hcard : (right.card : Rat) ≠ 0 := Nat.cast_ne_zero.2 (Finset.card_ne_zero.2 h)
  rw [balance, Finset.inter_self, Finset.sdiff_self, Finset.card_empty, Nat.cast_zero, sub_zero,
    div_self hcard]

/-- Another right option takes the balance up by one share. -/
theorem balance_insert_of_mem (hnew : option ∉ chosen) (hright : option ∈ right) :
    balance (insert option chosen) right = balance chosen right + 1 / right.card := by
  have hinter : option ∉ chosen ∩ right := fun h => hnew (Finset.mem_inter.1 h).1
  rw [balance, balance, Finset.insert_inter_of_mem hright, Finset.card_insert_of_notMem hinter,
    Finset.insert_sdiff_of_mem _ hright, Nat.cast_succ]
  ring

/-- Another wrong option takes the balance down by one share. -/
theorem balance_insert_of_notMem (hnew : option ∉ chosen) (hwrong : option ∉ right) :
    balance (insert option chosen) right = balance chosen right - 1 / right.card := by
  have hsdiff : option ∉ chosen \ right := fun h => hnew (Finset.mem_sdiff.1 h).1
  rw [balance, balance, Finset.insert_inter_of_notMem hwrong,
    Finset.insert_sdiff_of_notMem _ hwrong, Finset.card_insert_of_notMem hsdiff, Nat.cast_succ]
  ring

/-- What changes is seen in the score, unless it is below zero before and after. -/
theorem clamp_of_lt {a b : Rat} (h : a < b) :
    max 0 a ≤ max 0 b ∧ (max 0 a = max 0 b → max 0 a = 0) := by
  refine ⟨max_le_max_left 0 h.le, fun heq => ?_⟩
  have hb : b ≤ 0 := by
    by_contra hpos
    have hlt : max 0 a < b := max_lt (not_le.1 hpos) h
    rw [heq, max_eq_right (not_le.1 hpos).le] at hlt
    exact lt_irrefl b hlt
  exact max_eq_left (h.le.trans hb)

/-! ## The grader -/

variable {content : ChoiceContent} {key : ChoiceKey} {explanation : Option String} {answer : Json}
  {selected : List String}

/-- A multiple choice is graded by the two sets. -/
theorem exists_multipleChoice (hids : key.correctIds ≠ [])
    (hselected : Answer.optionIds answer = .ok selected) :
    ∃ r, multipleChoice content key explanation answer = .ok r ∧
      (r.isCorrect = true ↔ selected.toFinset = key.correctIds.toFinset) ∧
      (content.allowMultiple = false →
        r.score = if selected.toFinset = key.correctIds.toFinset then 1 else 0) ∧
      (content.allowMultiple = true →
        r.score = max 0 (balance selected.toFinset key.correctIds.toFinset)) := by
  have hcomplete := @complete_choiceCounts selected key.correctIds
  have hnonempty := (List.toFinset_nonempty_iff key.correctIds).2 hids
  unfold multipleChoice
  rw [hselected]
  by_cases hsame : selected.toFinset = key.correctIds.toFinset
  · have hone : (1 : Rat) = max 0 (balance selected.toFinset key.correctIds.toFinset) := by
      rw [hsame, balance_self hnonempty, max_eq_right zero_le_one]
    cases hmultiple : content.allowMultiple with
    | true =>
      simp only [bind, Except.bind, hcomplete.2 hsame, if_true]
      exact ⟨_, rfl, iff_of_true rfl hsame, nofun, fun _ => hone⟩
    | false =>
      simp only [bind, Except.bind, hcomplete.2 hsame, if_true, Bool.false_eq_true,
        if_false]
      exact ⟨_, rfl, iff_of_true rfl hsame, fun _ => (if_pos hsame).symm, nofun⟩
  · have hincomplete := Bool.eq_false_iff.2 (mt hcomplete.1 hsame)
    cases hmultiple : content.allowMultiple with
    | true =>
      simp only [bind, Except.bind, hincomplete, if_true, Bool.false_eq_true, if_false]
      exact ⟨_, rfl, iff_of_false Bool.false_ne_true hsame, nofun,
        fun _ => choiceScore_choiceCounts selected key.correctIds⟩
    | false =>
      simp only [bind, Except.bind, hincomplete, Bool.false_eq_true, if_false]
      exact ⟨_, rfl, iff_of_false Bool.false_ne_true hsame, fun _ => (if_neg hsame).symm, nofun⟩

/-- Selections of the same options are graded alike by keys with the same right options. -/
theorem multipleChoice_congr {answer' : Json} {selected' correctIds : List String}
    (hselected : Answer.optionIds answer = .ok selected)
    (hselected' : Answer.optionIds answer' = .ok selected')
    (hsame : selected'.toFinset = selected.toFinset)
    (hright : correctIds.toFinset = key.correctIds.toFinset) :
    multipleChoice content ⟨correctIds, key.remarks⟩ explanation answer' =
      multipleChoice content key explanation answer := by
  have hcounts : choiceCounts selected' correctIds = choiceCounts selected key.correctIds := by
    rw [choiceCounts_eq, choiceCounts_eq, hsame, hright]
  have hremarks : key.remarks.filter (fun r => selected'.contains r.1) =
      key.remarks.filter fun r => selected.contains r.1 := by
    refine List.filter_congr fun r _ => ?_
    have hmem := Finset.ext_iff.1 hsame r.1
    rw [List.mem_toFinset, List.mem_toFinset] at hmem
    rw [Bool.eq_iff_iff, List.contains_iff_mem, List.contains_iff_mem, hmem]
  simp only [multipleChoice, hselected, hselected', hcounts, hremarks, bind, Except.bind]

end Grading

/-- A multiple choice has right options, and an answer that submits identifiers is correct exactly
    if it selects these and no others. Where one option is to be selected, the score is one or
    nothing; where several may be, it is the balance of the selection, or nothing if that is
    negative. The order and the repetition of identifiers do not matter, neither in the answer nor
    in the key. Where several options may be selected, another right one never lowers the score and
    another wrong one never raises it, and the score stays the same only if it is nothing before
    and after. -/
theorem choice_scored_by_balance {record answer : Json} {e : Exercise} {content : ChoiceContent}
    {key : ChoiceKey} {ids : List Json} (hrecord : Exercise.decode record = .ok e)
    (htask : e.task = .multipleChoice content key) (hids : Answer.Submits answer ids) :
    key.correctIds.toFinset.Nonempty ∧
    (∀ s, ∃ r, (gradeStored record answer).Gives s r ∧
      (r.isCorrect = true ↔ Answer.selection ids = key.correctIds.toFinset) ∧
      (content.allowMultiple = false →
        r.score = if Answer.selection ids = key.correctIds.toFinset then 1 else 0) ∧
      (content.allowMultiple = true →
        r.score = max 0 (Grading.balance (Answer.selection ids) key.correctIds.toFinset))) ∧
    (∀ record' answer' ids' correctIds, Exercise.decode record' =
        .ok ⟨.multipleChoice content ⟨correctIds, key.remarks⟩, e.explanation⟩ →
      Answer.Submits answer' ids' → Answer.selection ids' = Answer.selection ids →
      correctIds.toFinset = key.correctIds.toFinset →
      gradeStored record' answer' = gradeStored record answer) ∧
    (content.allowMultiple = true → ∀ answer' ids' option, Answer.Submits answer' ids' →
      option ∉ Answer.selection ids →
      Answer.selection ids' = insert option (Answer.selection ids) →
      ∀ s r r', (gradeStored record answer).Gives s r → (gradeStored record answer').Gives s r' →
        (option ∈ key.correctIds.toFinset →
          r.score ≤ r'.score ∧ (r.score = r'.score → r.score = 0)) ∧
        (option ∉ key.correctIds.toFinset →
          r'.score ≤ r.score ∧ (r'.score = r.score → r'.score = 0))) := by
  have hright : key.correctIds ≠ [] := Exercise.correctIds_ne_nil hrecord htask
  have hnonempty := (List.toFinset_nonempty_iff key.correctIds).2 hright
  obtain ⟨task, explanation⟩ := e
  obtain rfl : task = .multipleChoice content key := htask
  have hgraded : ∀ {answer ids}, Answer.Submits answer ids → ∀ s, ∃ r,
      (gradeStored record answer).Gives s r ∧
      (r.isCorrect = true ↔ Answer.selection ids = key.correctIds.toFinset) ∧
      (content.allowMultiple = false →
        r.score = if Answer.selection ids = key.correctIds.toFinset then 1 else 0) ∧
      (content.allowMultiple = true →
        r.score = max 0 (Grading.balance (Answer.selection ids) key.correctIds.toFinset)) := by
    intro answer ids hids s
    obtain ⟨r, hr, hresult⟩ := @Grading.exists_multipleChoice content key explanation answer _
      hright (Answer.optionIds_of_submits hids)
    exact ⟨r, (gives_gradeStored hrecord).2 (.inl (Action.gives_ofExcept.2 hr)), hresult⟩
  refine ⟨hnonempty, hgraded hids, ?_, ?_⟩
  · intro record' answer' ids' correctIds hrecord' hids' hselection hcorrect
    rw [gradeStored_eq hrecord, gradeStored_eq hrecord']
    refine Exercise.grade_congr rfl (congrArg Grading.demand ?_)
    exact Grading.multipleChoice_congr (Answer.optionIds_of_submits hids)
      (Answer.optionIds_of_submits hids') hselection hcorrect
  · intro hmultiple answer' ids' option hids' hnew hselection s r r' hr hr'
    have hscore : ∀ {answer ids r}, Answer.Submits answer ids →
        (gradeStored record answer).Gives s r →
        r.score = max 0 (Grading.balance (Answer.selection ids) key.correctIds.toFinset) := by
      intro answer ids r hids hr
      obtain ⟨r', hr', -, -, hscore⟩ := hgraded hids s
      obtain rfl := Except.ok.inj (hr.symm.trans hr')
      exact hscore hmultiple
    have hshare : (0 : Rat) < 1 / key.correctIds.toFinset.card :=
      one_div_pos.2 (Nat.cast_pos.2 (Finset.card_pos.2 hnonempty))
    rw [hscore hids hr, hscore hids' hr', hselection]
    constructor
    · intro hoption
      rw [Grading.balance_insert_of_mem hnew hoption]
      exact Grading.clamp_of_lt (lt_add_of_pos_right _ hshare)
    · intro hoption
      rw [Grading.balance_insert_of_notMem hnew hoption]
      exact Grading.clamp_of_lt (sub_lt_self _ hshare)

/-- The options `a`, `b` and the wrong one `d` of a choice with three right options, two of them
    submitted more than once. Selecting `c` too raises the score from a third to two thirds. -/
theorem choice_scored_by_balance_raised :
    Exercise.decode threeOptionsRecord = .ok threeOptions ∧
    Answer.Submits (.list [.str "b", .str "d", .str "a", .str "b"])
      [.str "b", .str "d", .str "a", .str "b"] ∧
    Answer.Submits (.object [("selectedOptionIds", .list [.str "c", .str "d", .str "b", .str "a"])])
      [.str "c", .str "d", .str "b", .str "a"] ∧
    ∃ r r', (gradeStored threeOptionsRecord
        (.list [.str "b", .str "d", .str "a", .str "b"])).Gives (.ok .standard) r ∧
      (gradeStored threeOptionsRecord (.object [("selectedOptionIds",
        .list [.str "c", .str "d", .str "b", .str "a"])])).Gives (.ok .standard) r' ∧
      r.score = 1 / 3 ∧ r'.score = 2 / 3 ∧ r.score ≤ r'.score := by
  have hrecord : Exercise.decode threeOptionsRecord = .ok threeOptions := rfl
  have hids : Answer.Submits (.list [.str "b", .str "d", .str "a", .str "b"])
      [.str "b", .str "d", .str "a", .str "b"] := .list _
  have hids' : Answer.Submits
      (.object [("selectedOptionIds", .list [.str "c", .str "d", .str "b", .str "a"])])
      [.str "c", .str "d", .str "b", .str "a"] := .selectedOptionIds rfl rfl
  obtain ⟨-, hgraded, -, hmore⟩ := choice_scored_by_balance hrecord rfl hids
  obtain ⟨-, hgraded', -, -⟩ := choice_scored_by_balance hrecord rfl hids'
  obtain ⟨r, hr, -, -, hscore⟩ := hgraded (.ok .standard)
  obtain ⟨r', hr', -, -, hscore'⟩ := hgraded' (.ok .standard)
  have hraised := hmore rfl _ _ "c" hids' (by decide) (by decide) (.ok .standard) r r' hr hr'
  have hthird : Grading.balance (Answer.selection [.str "b", .str "d", .str "a", .str "b"])
      ["a", "b", "c"].toFinset = 1 / 3 := by decide +kernel
  have htwo : Grading.balance (Answer.selection [.str "c", .str "d", .str "b", .str "a"])
      ["a", "b", "c"].toFinset = 2 / 3 := by decide +kernel
  refine ⟨hrecord, hids, hids', r, r', hr, hr', ?_, ?_, (hraised.1 (by decide)).1⟩
  · rw [hscore rfl]
    exact (congrArg (max 0) hthird).trans (by norm_num)
  · rw [hscore' rfl]
    exact (congrArg (max 0) htwo).trans (by norm_num)

end PropTutor
