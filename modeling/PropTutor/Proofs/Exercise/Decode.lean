/-
  What decoding guarantees.

  A record that was read passed the checks of its fields. What an exercise is decoded from is told
  part by part (`Exercise.decode_eq_ok`), and its content and its key were read as the records of
  its kind (`Exercise.exists_readFrom`). So the steps of a proof exercise that was decoded are
  limited, if at all, to one or more (`Exercise.one_le_of_maxSteps`), a multiple choice has a right
  option (`Exercise.correctIds_ne_nil`), and no hidden cell has a negative row
  (`Exercise.row_nonneg_of_mem_hidden`).
-/
import Mathlib.Data.List.Forall2
import PropTutor.Exercise.Decode

namespace PropTutor

variable {α β : Type}

namespace Checked

theorem map_eq_ok {f : α → β} {x : Checked α} {b : β} :
    f <$> x = .ok b ↔ ∃ a, x = .ok a ∧ f a = b := by
  cases x with
  | ok a =>
    refine ⟨fun h => ⟨a, rfl, Checked.ok.inj h⟩, ?_⟩
    rintro ⟨a', ha, rfl⟩
    rw [Checked.ok.inj ha]
    rfl
  | bad i is => exact iff_of_false nofun fun ⟨_, h, _⟩ => nomatch h

theorem seq_eq_ok {f : Checked (α → β)} {x : Checked α} {b : β} :
    f <*> x = .ok b ↔ ∃ g a, f = .ok g ∧ x = .ok a ∧ g a = b := by
  cases f with
  | ok g =>
    show g <$> x = .ok b ↔ _
    rw [map_eq_ok]
    constructor
    · rintro ⟨a, hx, hb⟩
      exact ⟨g, a, rfl, hx, hb⟩
    · rintro ⟨g', a, hg, hx, hb⟩
      exact ⟨a, hx, Checked.ok.inj hg ▸ hb⟩
  | bad i is =>
    refine iff_of_false (fun h => ?_) fun ⟨_, _, h, _⟩ => nomatch h
    cases x with
    | ok a => cases h
    | bad j js => cases h

/-- A value that passed a check has what the check demands. -/
theorem ensure_eq_ok {test : α → Bool} {i : Issue} {x : Checked α} {a : α} :
    x.ensure test i = .ok a ↔ x = .ok a ∧ test a = true := by
  cases x with
  | ok b =>
    rw [ensure]
    split
    · next h =>
      refine ⟨fun hb => ?_, And.left⟩
      obtain rfl := Checked.ok.inj hb
      exact ⟨rfl, h⟩
    · next h => exact iff_of_false nofun fun ⟨hb, ha⟩ => h (Checked.ok.inj hb ▸ ha)
  | bad j js => exact iff_of_false nofun fun ⟨h, _⟩ => nomatch h

/-- The items of a list that passed were read one by one. -/
theorem exists_of_mem_all {read : α → Checked β} {xs : List α} {ys : List β}
    (h : all read xs = .ok ys) {y : β} (hy : y ∈ ys) : ∃ x ∈ xs, read x = .ok y := by
  induction xs generalizing ys with
  | nil =>
    obtain rfl := Checked.ok.inj h
    cases hy
  | cons x xs ih =>
    obtain ⟨consHead, rest, hhead, hrest, rfl⟩ := seq_eq_ok.1 h
    obtain ⟨z, hz, rfl⟩ := map_eq_ok.1 hhead
    rcases List.mem_cons.1 hy with rfl | hy
    · exact ⟨x, List.mem_cons_self .., hz⟩
    · obtain ⟨x', hx', hread⟩ := ih hrest hy
      exact ⟨x', List.mem_cons_of_mem _ hx', hread⟩

end Checked

namespace Field

/-- A field that may be left out has its default, or a value that was read. -/
theorem of_defaulted {keys : List String} {default a : α} {read : Json → Checked α}
    {members : List (String × Json)} (h : defaulted keys default read members = .ok a) :
    a = default ∨ ∃ v, read v = .ok a := by
  rw [defaulted] at h
  split at h
  · next v _ => exact .inr ⟨v, h⟩
  · exact .inl (Checked.ok.inj h).symm

theorem of_nullable {read : Json → Checked α} {v : Json} {a : α}
    (h : nullable read v = .ok (some a)) : read v = .ok a := by
  unfold nullable at h
  split at h
  · cases h
  · obtain ⟨b, hread, hb⟩ := Checked.map_eq_ok.1 h
    rw [hread, Option.some.inj hb]

/-- A field that has to be there was read from some value. -/
theorem of_required {keys : List String} {a : α} {read : Json → Checked α}
    {members : List (String × Json)} (h : required keys read members = .ok a) :
    ∃ v, read v = .ok a := by
  rw [required] at h
  split at h
  · next v _ => exact ⟨v, h⟩
  · cases h

theorem ne_nil_of_nonemptyList {read : Json → Checked α} {v : Json} {xs : List α}
    (h : nonemptyList read v = .ok xs) : xs ≠ [] := by
  have htest := (Checked.ensure_eq_ok.1 h).2
  rintro rfl
  cases htest

theorem exists_of_mem_list {read : Json → Checked α} {v : Json} {xs : List α}
    (h : list read v = .ok xs) {x : α} (hx : x ∈ xs) : ∃ w, read w = .ok x := by
  unfold list at h
  split at h
  · obtain ⟨w, -, hread⟩ := Checked.exists_of_mem_all h hx
    exact ⟨w, hread⟩
  · cases h

/-- A record is read from the members of an object. -/
theorem of_record {name : String} {read : List (String × Json) → Checked α} {v : Json} {a : α}
    (h : record name read v = .ok a) : ∃ members, read members = .ok a := by
  unfold record at h
  split at h
  · next members => exact ⟨members, h⟩
  · cases h

theorem le_of_integerFrom {bound n : Int} {v : Json} (h : integerFrom bound v = .ok n) :
    bound ≤ n :=
  of_decide_eq_true (Checked.ensure_eq_ok.1 h).2

end Field

theorem ProofContent.one_le_of_read {v : Json} {content : ProofContent}
    (h : ProofContent.read v = .ok content) {n : Int} (hn : content.maxSteps = some n) :
    1 ≤ n := by
  obtain ⟨members, h⟩ := Field.of_record h
  -- the limit is the last of the four fields
  obtain ⟨withRules, maxSteps, hrules, hmaxSteps, rfl⟩ := Checked.seq_eq_ok.1 h
  obtain ⟨withConclusion, rules, hconclusion, -, rfl⟩ := Checked.seq_eq_ok.1 hrules
  obtain ⟨withPremises, conclusion, hpremises, -, rfl⟩ := Checked.seq_eq_ok.1 hconclusion
  obtain ⟨premises, -, rfl⟩ := Checked.map_eq_ok.1 hpremises
  obtain rfl : maxSteps = some n := hn
  rcases Field.of_defaulted hmaxSteps with hdefault | ⟨v, hread⟩
  · cases hdefault
  · exact Field.le_of_integerFrom (Field.of_nullable hread)

theorem ChoiceKey.correctIds_ne_nil_of_read {v : Json} {key : ChoiceKey}
    (h : ChoiceKey.read v = .ok key) : key.correctIds ≠ [] := by
  obtain ⟨members, h⟩ := Field.of_record h
  obtain ⟨withIds, remarks, hids, -, rfl⟩ := Checked.seq_eq_ok.1 h
  obtain ⟨ids, hread, rfl⟩ := Checked.map_eq_ok.1 hids
  obtain ⟨v, hread⟩ := Field.of_required hread
  exact Field.ne_nil_of_nonemptyList hread

theorem Cell.row_nonneg_of_read {v : Json} {cell : Cell} (h : Cell.read v = .ok cell) :
    0 ≤ cell.row := by
  obtain ⟨members, h⟩ := Field.of_record h
  obtain ⟨withRow, column, hrow, -, rfl⟩ := Checked.seq_eq_ok.1 h
  obtain ⟨row, hread, rfl⟩ := Checked.map_eq_ok.1 hrow
  obtain ⟨v, hread⟩ := Field.of_required hread
  exact Field.le_of_integerFrom hread

theorem TableContent.row_nonneg_of_read {v : Json} {content : TableContent}
    (h : TableContent.read v = .ok content) {cell : Cell} (hcell : cell ∈ content.hidden) :
    0 ≤ cell.row := by
  obtain ⟨members, h⟩ := Field.of_record h
  obtain ⟨withHidden, showIntermediate, hhidden, -, rfl⟩ := Checked.seq_eq_ok.1 h
  obtain ⟨withFormula, hidden, hformula, hread, rfl⟩ := Checked.seq_eq_ok.1 hhidden
  obtain ⟨formula, -, rfl⟩ := Checked.map_eq_ok.1 hformula
  rcases Field.of_defaulted hread with rfl | ⟨v, hread⟩
  · cases hcell
  · obtain ⟨w, hw⟩ := Field.exists_of_mem_list hread hcell
    exact Cell.row_nonneg_of_read hw

theorem bind_eq_ok {ε : Type} {x : Except ε α} {f : α → Except ε β} {b : β} :
    (x >>= f) = .ok b ↔ ∃ a, x = .ok a ∧ f a = .ok b := by
  cases x with
  | ok a =>
    refine ⟨fun h => ⟨a, rfl, h⟩, ?_⟩
    rintro ⟨a', ha, h⟩
    rwa [← Except.ok.inj ha] at h
  | error e => exact iff_of_false nofun fun ⟨_, h, _⟩ => nomatch h

theorem bind_eq_error {ε : Type} {x : Except ε α} {f : α → Except ε β} {e : ε} :
    (x >>= f) = .error e ↔ x = .error e ∨ ∃ a, x = .ok a ∧ f a = .error e := by
  cases x with
  | ok a =>
    refine ⟨fun h => .inr ⟨a, rfl, h⟩, ?_⟩
    rintro (h | ⟨a', ha, h⟩)
    · cases h
    · rwa [← Except.ok.inj ha] at h
  | error e' =>
    refine ⟨fun h => .inl (congrArg Except.error (Except.error.inj h)), ?_⟩
    rintro (h | ⟨_, h, _⟩)
    · exact congrArg Except.error (Except.error.inj h)
    · cases h

/-- A function that succeeds on the items of a list succeeds on the list. -/
theorem mapM_eq_ok {ε : Type} {f : α → Except ε β} {xs : List α} {ys : List β}
    (h : List.Forall₂ (fun x y => f x = .ok y) xs ys) : xs.mapM f = .ok ys := by
  induction h with
  | nil => rfl
  | cons hhead _ ih =>
    rw [List.mapM_cons, hhead, ih]
    rfl

/-- A function that succeeds on a list succeeds on its items. -/
theorem forall₂_of_mapM {ε : Type} {f : α → Except ε β} {xs : List α} {ys : List β}
    (h : xs.mapM f = .ok ys) : List.Forall₂ (fun x y => f x = .ok y) xs ys := by
  induction xs generalizing ys with
  | nil =>
    obtain rfl := Except.ok.inj h
    exact .nil
  | cons x xs ih =>
    rw [List.mapM_cons] at h
    obtain ⟨y, hy, h⟩ := bind_eq_ok.1 h
    obtain ⟨rest, hrest, h⟩ := bind_eq_ok.1 h
    obtain rfl := Except.ok.inj h
    exact .cons hy (ih hrest)

/-- A function fails on a list where it fails on the first item on which it does. -/
theorem mapM_eq_error {ε : Type} {f : α → Except ε β} {xs : List α} {e : ε} :
    xs.mapM f = .error e ↔ ∃ before x after, xs = before ++ x :: after ∧
      (∀ y ∈ before, ∃ b, f y = .ok b) ∧ f x = .error e := by
  induction xs with
  | nil => exact iff_of_false nofun fun ⟨before, _, _, h, _⟩ => by cases before <;> cases h
  | cons y ys ih =>
    rw [List.mapM_cons, bind_eq_error]
    constructor
    · rintro (h | ⟨b, hb, h⟩)
      · exact ⟨[], y, ys, rfl, nofun, h⟩
      · rcases bind_eq_error.1 h with h | ⟨bs, -, h⟩
        · obtain ⟨before, x, after, rfl, hbefore, hx⟩ := ih.1 h
          exact ⟨y :: before, x, after, rfl, List.forall_mem_cons.2 ⟨⟨b, hb⟩, hbefore⟩, hx⟩
        · cases h
    · rintro ⟨before, x, after, heq, hbefore, hx⟩
      cases before with
      | nil =>
        obtain ⟨rfl, rfl⟩ := List.cons.inj heq
        exact .inl hx
      | cons z before =>
        obtain ⟨rfl, rfl⟩ := List.cons.inj heq
        obtain ⟨⟨b, hb⟩, hbefore⟩ := List.forall_mem_cons.1 hbefore
        refine .inr ⟨b, hb, bind_eq_error.2 (.inl (ih.2 ⟨before, x, after, rfl, hbefore, hx⟩))⟩

/-- The content and the key of the task were read from these two values as the records of its
    kind. -/
def Task.ReadFrom (v w : Json) : Task → Prop
  | equivalence content key =>
    EquivalenceTarget.readContent v = .ok content ∧ EquivalenceTarget.readKey w = .ok key
  | multipleChoice content key => ChoiceContent.read v = .ok content ∧ ChoiceKey.read w = .ok key
  | symbolArrangement content key =>
    ArrangementContent.read v = .ok content ∧ AcceptedFormulas.read w = .ok key
  | formulation content key =>
    FormulationContent.read v = .ok content ∧ AcceptedFormulas.read w = .ok key
  | validation content key => ArgumentContent.read v = .ok content ∧ ValidityKey.read w = .ok key
  | truthTable content key => TableContent.read v = .ok content ∧ TableKey.read w = .ok key
  | proof content key => ProofContent.read v = .ok content ∧ ProofKey.read w = .ok key
  | normalForm content key =>
    NormalFormContent.read v = .ok content ∧ AcceptedFormulas.read w = .ok key
  | identifyFallacy content key => FallacyContent.read v = .ok content ∧ FallacyKey.read w = .ok key

namespace Exercise

theorem accept_eq_ok {kind : ExerciseKind} {x : Checked α} {a : α} :
    accept kind x = .ok a ↔ x = .ok a := by
  cases x with
  | ok b =>
    exact ⟨fun h => congrArg _ (Except.ok.inj h), fun h => congrArg _ (Checked.ok.inj h)⟩
  | bad i is => exact iff_of_false nofun nofun

/-- A task is read from its content and its key as the records of its kind. -/
theorem readFrom_of_readTask {kind : ExerciseKind} {v w : Json} {task : Task}
    (h : readTask kind v w = .ok task) : task.ReadFrom v w := by
  have hpair : ∀ {α β : Type} {make : α → β → Task} {a : Checked α} {b : Checked β},
      (do return make (← accept kind a) (← accept kind b)) = Except.ok (ε := GradingError) task →
        ∃ x y, a = .ok x ∧ b = .ok y ∧ make x y = task := by
    intro α β make a b h
    obtain ⟨x, hx, h⟩ := bind_eq_ok.1 h
    obtain ⟨y, hy, h⟩ := bind_eq_ok.1 h
    exact ⟨x, y, accept_eq_ok.1 hx, accept_eq_ok.1 hy, Except.ok.inj h⟩
  cases kind <;>
  · obtain ⟨content, key, hcontent, hkey, rfl⟩ := hpair h
    exact ⟨hcontent, hkey⟩

/-- A task is of the kind as which it was read. -/
theorem kind_of_readTask {kind : ExerciseKind} {v w : Json} {task : Task}
    (h : readTask kind v w = .ok task) : task.kind = kind := by
  cases kind <;>
  · obtain ⟨content, -, h⟩ := bind_eq_ok.1 h
    obtain ⟨key, -, h⟩ := bind_eq_ok.1 h
    obtain rfl := Except.ok.inj h
    rfl

/-- What the content of a task is read from, if the content of the record was loaded as `v`. -/
def contentFor (kind : ExerciseKind) (members : List (String × Json)) (v : Json) : Json :=
  if kind = .equivalence then withOwnFormula (members.lookup "formula") v else v

/-- The explanation in a record. -/
def explanationOf (members : List (String × Json)) : Option String :=
  (members.lookup "explanation").bind fun v => if v.truthy then some v.toText else none

/-- The tag of a record is read as the kind that it names. -/
theorem kind_of_tag {tag : Option Json} {kind : ExerciseKind} :
    (tag.getD .null).str?.bind ExerciseKind.ofName? = some kind ↔ tag = some (.str kind.name) := by
  constructor
  · intro h
    obtain ⟨name, hname, hkind⟩ := Option.bind_eq_some_iff.1 h
    have hfound : ExerciseKind.all.find? (·.name == name) = some kind := hkind
    have hsame := List.find?_some hfound
    obtain rfl : kind.name = name := eq_of_beq hsame
    cases tag with
    | none => cases hname
    | some v =>
      cases v with
      | str s => exact congrArg (some ∘ Json.str) (Option.some.inj hname)
      | _ => cases hname
  · rintro rfl
    exact kind.ofName?_name

/-- A record is decoded if it names a kind, its parts are loaded, and its task is read from them as
    one of this kind. -/
theorem decode_eq_ok {members : List (String × Json)} {e : Exercise} :
    decode (.object members) = .ok e ↔ ∃ v w,
      members.lookup "type" = some (.str e.kind.name) ∧
      loadPart .content (members.lookup "content") = .ok v ∧
      loadPart .solution (members.lookup "solution") = .ok w ∧
      readTask e.kind (contentFor e.kind members v) w = .ok e.task ∧
      e.explanation = explanationOf members := by
  have hdecode : decode (.object members) = .ok e ↔ ofMembers members = .ok e := by
    show (ofMembers members).mapError DecodeError.diagnosed = .ok e ↔ _
    cases ofMembers members with
    | ok e' => exact ⟨fun h => congrArg _ (Except.ok.inj h), fun h => congrArg _ (Except.ok.inj h)⟩
    | error error => exact iff_of_false nofun nofun
  rw [hdecode]
  unfold ofMembers
  dsimp only
  cases htag : ((members.lookup "type").getD .null).str?.bind ExerciseKind.ofName? with
  | none =>
    refine iff_of_false nofun ?_
    rintro ⟨v, w, htype, -⟩
    rw [kind_of_tag.2 htype] at htag
    cases htag
  | some kind =>
    have htype := kind_of_tag.1 htag
    constructor
    · intro h
      obtain ⟨_, hkind, h⟩ := bind_eq_ok.1 h
      obtain rfl := Except.ok.inj hkind
      obtain ⟨v, hv, h⟩ := bind_eq_ok.1 h
      obtain ⟨w, hw, h⟩ := bind_eq_ok.1 h
      obtain ⟨task, htask, h⟩ := bind_eq_ok.1 h
      obtain rfl := Except.ok.inj h
      obtain rfl : task.kind = kind := kind_of_readTask htask
      exact ⟨v, w, htype, hv, hw, htask, rfl⟩
    · rintro ⟨v, w, htype', hv, hw, htask, hexplanation⟩
      obtain rfl : e.kind = kind :=
        Option.some.inj ((kind_of_tag.2 htype').symm.trans htag)
      obtain ⟨task, explanation⟩ := e
      obtain rfl := hexplanation
      exact bind_eq_ok.2 ⟨_, rfl, bind_eq_ok.2 ⟨v, hv, bind_eq_ok.2 ⟨w, hw,
        bind_eq_ok.2 ⟨task, htask, rfl⟩⟩⟩⟩

/-- A stored exercise is an object whose content and key were read as its task. -/
theorem readTask_of_decode {record : Json} {e : Exercise} (h : decode record = .ok e) :
    ∃ kind v w, readTask kind v w = .ok e.task := by
  cases record with
  | object members =>
    obtain ⟨v, w, -, -, -, htask, -⟩ := decode_eq_ok.1 h
    exact ⟨_, _, _, htask⟩
  | _ => cases h

theorem exists_readFrom {record : Json} {e : Exercise} (h : decode record = .ok e) :
    ∃ v w, e.task.ReadFrom v w := by
  obtain ⟨kind, v, w, htask⟩ := readTask_of_decode h
  exact ⟨v, w, readFrom_of_readTask htask⟩

/-- A proof exercise that was decoded allows one step at least. -/
theorem one_le_of_maxSteps {record : Json} {content : ProofContent} {key : ProofKey}
    {explanation : Option String} {n : Int}
    (h : decode record = .ok ⟨.proof content key, explanation⟩)
    (hn : content.maxSteps = some n) : 1 ≤ n := by
  obtain ⟨v, w, hcontent, -⟩ := exists_readFrom h
  exact ProofContent.one_le_of_read hcontent hn

/-- A multiple choice that was decoded has a right option. -/
theorem correctIds_ne_nil {record : Json} {e : Exercise} {content : ChoiceContent}
    {key : ChoiceKey} (h : decode record = .ok e) (htask : e.task = .multipleChoice content key) :
    key.correctIds ≠ [] := by
  obtain ⟨v, w, hread⟩ := exists_readFrom h
  rw [htask] at hread
  exact ChoiceKey.correctIds_ne_nil_of_read hread.2

/-- The hidden cells of an exercise that was decoded have rows from zero on. -/
theorem row_nonneg_of_mem_hidden {record : Json} {e : Exercise} {content : TableContent}
    {key : TableKey} {cell : Cell} (h : decode record = .ok e)
    (htask : e.task = .truthTable content key) (hcell : cell ∈ content.hidden) :
    0 ≤ cell.row := by
  obtain ⟨v, w, hread⟩ := exists_readFrom h
  rw [htask] at hread
  exact TableContent.row_nonneg_of_read hread.1 hcell

end Exercise

end PropTutor
