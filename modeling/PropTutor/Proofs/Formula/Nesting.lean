/-
  The limit of nesting.

  A limit only ever replaces what the reader finds by the error for too deep a nesting, and a
  higher limit does so on fewer texts. One token opens one frame at most, so the limit never
  matters where it reaches the number of tokens. Hence every sequence of tokens has one least
  limit that it needs (`Formula.exists_ofTokens_eq_ite`).
-/
import Mathlib.Data.Nat.Find
import PropTutor.Proofs.Formula.Reading
import PropTutor.Proofs.Token.Layout

namespace PropTutor

/-- The second limit allows whatever the first one allows; without a limit everything is
    allowed. -/
def LimitLE : Option Nat → Option Nat → Prop
  | _, none => True
  | some n, some m => n ≤ m
  | none, some _ => False

namespace Reader

/-- What is open in a reader. -/
def frames : Reader → List Frame
  | operand stack => stack
  | operator stack _ => stack

/-! ## What the limit decides -/

theorem length_negate_le (stack : List Frame) (f : Formula) :
    (negate stack f).frames.length ≤ stack.length := by
  induction stack generalizing f with
  | nil => exact Nat.le_refl _
  | cons frame stack ih =>
    cases frame with
    | neg => exact Nat.le_succ_of_le (ih _)
    | paren => exact Nat.le_refl _
    | left d l => exact Nat.le_refl _

theorem length_reduce_le (c : Connective) (stack : List Frame) (f : Formula) :
    (reduce c stack f).1.length ≤ stack.length := by
  induction stack generalizing f with
  | nil => exact Nat.le_refl _
  | cons frame stack ih =>
    cases frame with
    | neg => exact Nat.le_refl _
    | paren => exact Nat.le_refl _
    | left d l =>
      rw [reduce]
      split
      · exact Nat.le_succ_of_le (ih _)
      · exact Nat.le_refl _

theorem length_unwind_le (stack : List Frame) (f : Formula) :
    (unwind stack f).1.length ≤ stack.length := by
  induction stack generalizing f with
  | nil => exact Nat.le_refl _
  | cons frame stack ih =>
    cases frame with
    | neg => exact Nat.le_succ_of_le (ih _)
    | paren => exact Nat.le_refl _
    | left d l => exact Nat.le_succ_of_le (ih _)

/-- A token that is refused is refused under every limit. -/
theorem free_of_error {r : Reader} {t : Token} (e : SyntaxError)
    (h : ∀ limit, step limit r t = .error e) :
    (∀ limit, step limit r t = step none r t) ∧
      ∀ r', step none r t = .ok r' → r'.frames.length ≤ r.frames.length := by
  refine ⟨fun limit => (h limit).trans (h none).symm, fun r' hr' => ?_⟩
  rw [h none] at hr'
  cases hr'

/-- A token either opens one more frame, and then the limit decides, or it leaves no more open
    than there was, and then the limit does not matter. -/
theorem step_cases (r : Reader) (t : Token) :
    (∃ frame stack, stack.length ≤ r.frames.length ∧
      ∀ limit, step limit r t = push limit frame stack) ∨
    ((∀ limit, step limit r t = step none r t) ∧
      ∀ r', step none r t = .ok r' → r'.frames.length ≤ r.frames.length) := by
  cases r with
  | operand stack =>
    cases ht : t.kind with
    | atom =>
      have hstep : ∀ limit, step limit (operand stack) t = .ok (negate stack (.atom t.value)) := by
        intro limit
        simp only [step, ht]
      refine .inr ⟨fun limit => (hstep limit).trans (hstep none).symm, fun r' hr' => ?_⟩
      rw [hstep] at hr'
      obtain rfl := Except.ok.inj hr'
      exact length_negate_le stack _
    | closing =>
      exact .inr (free_of_error (.unexpected (.token t)) fun _ => by simp only [step, ht])
    | opening => exact .inl ⟨.paren, stack, Nat.le_refl _, fun _ => by simp only [step, ht]⟩
    | sign s =>
      cases s with
      | neg => exact .inl ⟨.neg, stack, Nat.le_refl _, fun _ => by simp only [step, ht]⟩
      | binary c =>
        exact .inr (free_of_error (.unexpected (.token t)) fun _ => by simp only [step, ht])
  | operator stack f =>
    cases ht : t.kind with
    | atom =>
      exact .inr (free_of_error (misplaced stack (.token t)) fun _ => by simp only [step, ht])
    | opening =>
      exact .inr (free_of_error (misplaced stack (.token t)) fun _ => by simp only [step, ht])
    | closing =>
      have hfree : ∀ limit, step limit (operator stack f) t = step none (operator stack f) t := by
        intro limit
        simp only [step, ht]
      refine .inr ⟨hfree, fun r' hr' => ?_⟩
      have hle := length_unwind_le stack f
      simp only [step, ht] at hr'
      split at hr'
      · next rest g hunwind =>
        obtain rfl := Except.ok.inj hr'
        rw [hunwind, List.length_cons] at hle
        have hnegate := length_negate_le rest g
        show _ ≤ stack.length
        omega
      · cases hr'
    | sign s =>
      cases s with
      | neg =>
        exact .inr (free_of_error (misplaced stack (.token t)) fun _ => by simp only [step, ht])
      | binary c =>
        refine .inl ⟨.left c (reduce c stack f).2, (reduce c stack f).1, ?_, fun limit => ?_⟩
        · exact length_reduce_le c stack f
        · simp only [step, ht]

/-! ## Higher limits -/

theorem push_of_limitLE {limit limit' : Option Nat} (h : LimitLE limit limit') (frame : Frame)
    (stack : List Frame) : push limit frame stack = .error .tooDeep ∨
      push limit' frame stack = push limit frame stack := by
  cases limit with
  | none =>
    cases limit' with
    | none => exact .inr rfl
    | some m => cases h
  | some n =>
    by_cases hdeep : (frame.nests && decide (n < (frame :: stack).countP Frame.nests)) = true
    · exact .inl (if_pos hdeep)
    · have hok : push (some n) frame stack = .ok (operand (frame :: stack)) := if_neg hdeep
      rw [hok]
      cases limit' with
      | none => exact .inr rfl
      | some m =>
        have hnm : n ≤ m := h
        refine .inr (if_neg fun hdeep' => hdeep ?_)
        simp only [Bool.and_eq_true, decide_eq_true_eq] at hdeep' ⊢
        exact ⟨hdeep'.1, by omega⟩

theorem step_of_limitLE {limit limit' : Option Nat} (h : LimitLE limit limit') (r : Reader)
    (t : Token) : step limit r t = .error .tooDeep ∨ step limit' r t = step limit r t := by
  rcases step_cases r t with ⟨frame, stack, -, hpush⟩ | ⟨hfree, -⟩
  · rw [hpush, hpush]
    exact push_of_limitLE h frame stack
  · exact .inr (by rw [hfree limit', hfree limit])

theorem run_of_limitLE {limit limit' : Option Nat} (h : LimitLE limit limit') (r : Reader)
    (ts : List Token) : ts.foldlM (step limit) r = .error .tooDeep ∨
      ts.foldlM (step limit') r = ts.foldlM (step limit) r := by
  induction ts generalizing r with
  | nil => exact .inr rfl
  | cons t ts ih =>
    rw [List.foldlM_cons, List.foldlM_cons]
    rcases step_of_limitLE h r t with hdeep | hsame
    · rw [hdeep]
      exact .inl rfl
    · rw [hsame]
      cases step limit r t with
      | error e => exact .inr rfl
      | ok r' => exact ih r'

/-! ## Sufficient limits -/

/-- A frame may be opened where no more levels are open behind it than the limit allows. -/
theorem push_of_le {n : Nat} {frame : Frame} {stack : List Frame}
    (h : (frame :: stack).countP Frame.nests ≤ n) :
    push (some n) frame stack = .ok (operand (frame :: stack)) := by
  refine if_neg fun hdeep => ?_
  simp only [Bool.and_eq_true, decide_eq_true_eq] at hdeep
  omega

theorem push_of_lt {n : Nat} {stack : List Frame} (h : stack.length < n) (frame : Frame) :
    push (some n) frame stack = .ok (operand (frame :: stack)) := by
  refine push_of_le ?_
  have hcount := List.countP_le_length (p := Frame.nests) (l := frame :: stack)
  rw [List.length_cons] at hcount
  omega

theorem step_of_lt {n : Nat} {r : Reader} (h : r.frames.length < n) (t : Token) :
    step (some n) r t = step none r t := by
  rcases step_cases r t with ⟨frame, stack, hle, hpush⟩ | ⟨hfree, -⟩
  · rw [hpush, hpush, push_of_lt (by omega)]
    rfl
  · exact hfree (some n)

/-- A token opens one frame at most. -/
theorem length_frames_step {r r' : Reader} {t : Token} (h : step none r t = .ok r') :
    r'.frames.length ≤ r.frames.length + 1 := by
  rcases step_cases r t with ⟨frame, stack, hle, hpush⟩ | ⟨-, hfree⟩
  · rw [hpush] at h
    obtain rfl := eq_of_push h
    exact Nat.succ_le_succ hle
  · exact Nat.le_succ_of_le (hfree r' h)

/-- A limit that leaves a level for every token does not matter. -/
theorem run_of_le {n : Nat} {r : Reader} {ts : List Token} (h : r.frames.length + ts.length ≤ n) :
    ts.foldlM (step (some n)) r = ts.foldlM (step none) r := by
  induction ts generalizing r with
  | nil => rfl
  | cons t ts ih =>
    rw [List.length_cons] at h
    rw [List.foldlM_cons, List.foldlM_cons, step_of_lt (by omega)]
    cases hstep : step none r t with
    | error e => rfl
    | ok r' =>
      have hframes := length_frames_step hstep
      exact ih (by omega)

/-! ## Insufficient limits -/

/-- A frame that counts as a level is refused where the limit is reached. -/
theorem push_of_nests {n : Nat} {frame : Frame} {stack : List Frame} (hframe : frame.nests = true)
    (h : n < (frame :: stack).countP Frame.nests) :
    push (some n) frame stack = .error .tooDeep := by
  refine if_pos ?_
  rw [hframe, Bool.true_and]
  exact decide_eq_true h

/-- More negations in front of an operand than the limit leaves are too deep, whatever follows. -/
theorem run_negations {n k : Nat} {stack : List Frame} {ts us : List Token}
    (hts : ts.map Token.kind = List.replicate k (.sign .neg))
    (hfits : stack.countP Frame.nests ≤ n) (hdeep : n < stack.countP Frame.nests + k) :
    (ts ++ us).foldlM (step (some n)) (operand stack) = .error .tooDeep := by
  induction k generalizing stack ts with
  | zero => omega
  | succ k ih =>
    obtain ⟨t, ts, rfl, ht, hts⟩ := List.map_eq_cons_iff.1 hts
    have hcount : (Frame.neg :: stack).countP Frame.nests = stack.countP Frame.nests + 1 :=
      List.countP_cons_of_pos rfl
    rw [List.cons_append, List.foldlM_cons, step_neg ht]
    by_cases hopen : (Frame.neg :: stack).countP Frame.nests ≤ n
    · rw [push_of_le hopen]
      exact ih hts hopen (by omega)
    · rw [push_of_nests rfl (not_le.1 hopen)]
      rfl

end Reader

namespace Formula

/-! ## The least limit -/

theorem ofTokens_of_limitLE {limit limit' : Option Nat} (h : LimitLE limit limit') (ts : Tokens) :
    ofTokens limit ts = .error .tooDeep ∨ ofTokens limit' ts = ofTokens limit ts := by
  unfold ofTokens
  rcases Reader.run_of_limitLE h Reader.start ts.items with hdeep | hsame
  · rw [hdeep]
    exact .inl rfl
  · rw [hsame]
    exact .inr rfl

theorem ofTokens_of_le {n : Nat} {ts : Tokens} (h : ts.items.length ≤ n) :
    ofTokens (some n) ts = ofTokens none ts := by
  unfold ofTokens
  rw [Reader.run_of_le (r := Reader.start)]
  show 0 + ts.items.length ≤ n
  omega

theorem ofTokens_ne_tooDeep (ts : Tokens) : ofTokens none ts ≠ .error .tooDeep := by
  intro h
  obtain ⟨found, -, he | he⟩ := ofTokens_error h
  · cases he
  · cases he

/-- There is a least limit under which the tokens are read as without a limit, and under every
    lower one they nest too deeply. -/
theorem exists_ofTokens_eq_ite (ts : Tokens) : ∃ m ≤ ts.items.length, ∀ n,
    ofTokens (some n) ts = if m ≤ n then ofTokens none ts else .error .tooDeep := by
  have hexists : ∃ n, ofTokens (some n) ts = ofTokens none ts :=
    ⟨ts.items.length, ofTokens_of_le (Nat.le_refl _)⟩
  refine ⟨Nat.find hexists, Nat.find_min' hexists (ofTokens_of_le (Nat.le_refl _)), fun n => ?_⟩
  split
  · next hmn =>
    have hle : LimitLE (some (Nat.find hexists)) (some n) := hmn
    rcases ofTokens_of_limitLE hle ts with hdeep | hsame
    · exact absurd ((Nat.find_spec hexists).symm.trans hdeep) (ofTokens_ne_tooDeep ts)
    · exact hsame.trans (Nat.find_spec hexists)
  · next hmn =>
    have hle : LimitLE (some n) none := trivial
    rcases ofTokens_of_limitLE hle ts with hdeep | hsame
    · exact hdeep
    · exact absurd hsame.symm (Nat.find_min hexists (Nat.lt_of_not_le hmn))

/-- There is a least limit under which a text is read as without a limit, and under every lower
    one it nests too deeply. -/
theorem exists_parseWithin_eq_ite (s : String) : ∃ m ≤ s.length, ∀ n,
    parseWithin (some n) s = if m ≤ n then parseWithin none s else .error .tooDeep := by
  cases hts : Tokens.ofText s with
  | error e =>
    simp only [parseWithin_of_error hts]
    exact ⟨0, Nat.zero_le _, fun n => (if_pos (Nat.zero_le n)).symm⟩
  | ok ts =>
    simp only [parseWithin_of_ofText hts]
    obtain ⟨m, hm, hite⟩ := exists_ofTokens_eq_ite ts
    have hlength := (Tokens.ofText_eq_ok.1 hts).1.length_le
    exact ⟨m, Nat.le_trans hm hlength, hite⟩

/-- A higher limit does not matter for a text that a lower one does not make too deep. -/
theorem parseWithin_of_limitLE {limit limit' : Option Nat} (h : LimitLE limit limit')
    (s : String) :
    parseWithin limit s = .error .tooDeep ∨ parseWithin limit' s = parseWithin limit s := by
  cases hts : Tokens.ofText s with
  | error e =>
    rw [parseWithin_of_error hts, parseWithin_of_error hts]
    exact .inr rfl
  | ok ts =>
    rw [parseWithin_of_ofText hts, parseWithin_of_ofText hts]
    exact ofTokens_of_limitLE h ts

/-- A formula that is read under a limit is read without one. -/
theorem parseWithin_none_of_ok {limit : Option Nat} {s : String} {f : Formula}
    (h : parseWithin limit s = .ok f) : parseWithin none s = .ok f := by
  have hlimit : LimitLE limit none := trivial
  rcases parseWithin_of_limitLE hlimit s with hdeep | hsame
  · rw [hdeep] at h
    cases h
  · rw [hsame]
    exact h

end Formula

end PropTutor
