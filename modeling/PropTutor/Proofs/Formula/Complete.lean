/-
  The reader reads every phrase of the grammar.

  A connective that was read waits on the stack until what follows decides on its right
  operand, so after the tokens of a phrase the phrase need not be complete yet. What holds is
  that the reader goes on as if it were (`Reader.Holds`): a connective that may follow the
  phrase finds the same stack and the same operand, and so does the end of the text or a
  closing parenthesis.
-/
import PropTutor.Formula.Parser
import PropTutor.Proofs.Formula.Grammar

namespace PropTutor

/-- No open connective takes the operand of this one, and no negation is open. -/
def Connective.Admits (c : Connective) : List Frame → Prop
  | .neg :: _ => False
  | .left d _ :: _ => d.takesBefore c = false
  | _ => True

/-- What is admitted where one connective is admitted, is admitted where fewer open connectives
    take the operand. -/
theorem Connective.Admits.mono {c c' : Connective} {stack : List Frame}
    (hcc : ∀ d : Connective, d.takesBefore c = false → d.takesBefore c' = false)
    (h : c.Admits stack) : c'.Admits stack := by
  cases stack with
  | nil => trivial
  | cons frame rest =>
    cases frame with
    | neg => exact h
    | paren => trivial
    | left d l => exact hcc d h

/-- The phrase may stand on this stack. -/
def Phrase.Admits : Phrase → List Frame → Prop
  | iff => Connective.Admits .iff
  | imp => Connective.Admits .implies
  | or => Connective.Admits .or
  | and => Connective.Admits .and
  | un => fun _ => True
  | prim => fun _ => True

/-- A connective that follows the phrase finds it complete. -/
def Phrase.endsBefore : Phrase → Connective → Bool
  | iff => Connective.takesBefore .iff
  | imp => Connective.takesBefore .implies
  | or => Connective.takesBefore .or
  | and => Connective.takesBefore .and
  | un => fun _ => true
  | prim => fun _ => true

namespace Reader

/-- What a connective finds: the stack and its left operand. -/
def atSign (c : Connective) : Reader → Option (List Frame × Formula)
  | operand _ => none
  | operator stack f => some (reduce c stack f)

/-- What the end of the text or a closing parenthesis finds. -/
def atEnd : Reader → Option (List Frame × Formula)
  | operand _ => none
  | operator stack f => some (unwind stack f)

/-- Take tokens, without a limit of nesting. -/
def takeAll (r : Reader) (ts : List Token) : Except SyntaxError Reader := ts.foldlM (step none) r

/-- The reader goes on as if the phrase `f` had just been completed on the stack. -/
structure Holds (p : Phrase) (stack : List Frame) (f : Formula) (r : Reader) : Prop where
  atSign : ∀ c, p.endsBefore c = true → r.atSign c = (negate stack f).atSign c
  atEnd : r.atEnd = (negate stack f).atEnd

theorem Holds.refl (p : Phrase) (stack : List Frame) (f : Formula) :
    Holds p stack f (negate stack f) :=
  ⟨fun _ _ => rfl, rfl⟩

/-! ## Single tokens -/

theorem takeAll_append (r : Reader) (ts us : List Token) :
    r.takeAll (ts ++ us) = (r.takeAll ts).bind (takeAll · us) := by
  rw [takeAll, List.foldlM_append]
  rfl

theorem takeAll_cons (r : Reader) (t : Token) (ts : List Token) :
    r.takeAll (t :: ts) = (step none r t).bind (takeAll · ts) := by
  rw [takeAll, List.foldlM_cons]
  rfl

theorem takeAll_singleton (r : Reader) (t : Token) : r.takeAll [t] = step none r t := by
  rw [takeAll_cons]
  cases step none r t <;> rfl

theorem push_none (frame : Frame) (stack : List Frame) :
    push none frame stack = .ok (operand (frame :: stack)) := rfl

theorem step_joins {limit : Option Nat} {r : Reader} {t : Token} {c : Connective}
    {stack : List Frame} {f : Formula} (ht : t.Joins c) (hr : r.atSign c = some (stack, f)) :
    step limit r t = push limit (.left c f) stack := by
  cases r with
  | operand s => cases hr
  | operator s g =>
    have hreduce : reduce c s g = (stack, f) := Option.some.inj hr
    have hkind : t.kind = .sign (.binary c) := ht
    simp only [step, hkind, hreduce]

theorem step_closing {limit : Option Nat} {r : Reader} {t : Token} {stack : List Frame}
    {f : Formula} (ht : t.kind = .closing) (hr : r.atEnd = some (.paren :: stack, f)) :
    step limit r t = .ok (negate stack f) := by
  cases r with
  | operand s => cases hr
  | operator s g =>
    have hunwind : unwind s g = (.paren :: stack, f) := Option.some.inj hr
    simp only [step, ht, hunwind]

theorem finish_of_atEnd {r : Reader} {f : Formula} (stop : Nat) (hr : r.atEnd = some ([], f)) :
    r.finish stop = .ok f := by
  cases r with
  | operand s => cases hr
  | operator s g =>
    have hunwind : unwind s g = ([], f) := Option.some.inj hr
    simp only [finish, hunwind]

theorem step_atom {t : Token} (ht : t.kind = .atom) (limit : Option Nat) (stack : List Frame) :
    step limit (operand stack) t = .ok (negate stack (.atom t.value)) := by
  simp only [step, ht]

theorem step_neg {t : Token} (ht : t.kind = .sign .neg) (limit : Option Nat)
    (stack : List Frame) : step limit (operand stack) t = push limit .neg stack := by
  simp only [step, ht]

theorem step_opening {t : Token} (ht : t.kind = .opening) (limit : Option Nat)
    (stack : List Frame) : step limit (operand stack) t = push limit .paren stack := by
  simp only [step, ht]

/-! ## Levels and open connectives -/

/-- Where a connective is admitted, an operand is completed at once and the connective leaves
    the stack as it is. -/
theorem negate_of_admits {c : Connective} {stack : List Frame} (h : c.Admits stack)
    (f : Formula) : negate stack f = operator stack f := by
  cases stack with
  | nil => rfl
  | cons frame rest =>
    cases frame with
    | neg => cases h
    | paren => rfl
    | left d l => rfl

theorem reduce_of_admits {c : Connective} {stack : List Frame} (h : c.Admits stack)
    (f : Formula) : reduce c stack f = (stack, f) := by
  cases stack with
  | nil => rfl
  | cons frame rest =>
    cases frame with
    | neg => cases h
    | paren => rfl
    | left d l => exact if_neg (Bool.eq_false_iff.1 h)

theorem admits_phrase {c : Connective} {stack : List Frame} :
    c.phrase.Admits stack ↔ c.Admits stack := by
  cases c <;> exact Iff.rfl

theorem endsBefore_phrase (c d : Connective) : c.phrase.endsBefore d = c.takesBefore d := by
  cases c <;> rfl

/-- What admits a connective admits the phrase on its left. -/
theorem admits_leftPhrase {c : Connective} {stack : List Frame} (h : c.Admits stack) :
    c.leftPhrase.Admits stack := by
  cases c with
  | iff => exact h
  | implies => exact h.mono fun d => by cases d <;> decide
  | or => exact h
  | and => exact h

/-- The phrase on the right of a connective may stand on it. -/
theorem admits_rightPhrase (c : Connective) (f : Formula) (stack : List Frame) :
    c.rightPhrase.Admits (.left c f :: stack) := by
  cases c with
  | and => exact trivial
  | or => rfl
  | implies => rfl
  | iff => rfl

/-- The phrase on the left of a connective is complete when the connective comes. -/
theorem leftPhrase_endsBefore (c : Connective) : c.leftPhrase.endsBefore c = true := by
  cases c <;> rfl

/-- What ends a phrase ends its last operand. -/
theorem rightPhrase_endsBefore {c d : Connective} (h : c.takesBefore d = true) :
    c.rightPhrase.endsBefore d = true := by
  revert h
  cases c <;> cases d <;> decide

/-! ## Phrases -/

/-- The reader takes the tokens of the phrase wherever the phrase may stand, and holds its
    tree then. -/
def Reads (p : Phrase) (ts : List Token) (f : Formula) : Prop :=
  ∀ stack, p.Admits stack → ∃ r, (operand stack).takeAll ts = .ok r ∧ Holds p stack f r

/-- A phrase is read as one of a looser level, too. -/
theorem Reads.loosen {p q : Phrase} {ts : List Token} {f : Formula}
    (hadmits : ∀ stack, p.Admits stack → q.Admits stack)
    (hends : ∀ c, p.endsBefore c = true → q.endsBefore c = true) (h : Reads q ts f) :
    Reads p ts f := by
  intro stack hstack
  obtain ⟨r, hr, hholds⟩ := h stack (hadmits stack hstack)
  exact ⟨r, hr, fun c hc => hholds.atSign c (hends c hc), hholds.atEnd⟩

/-- After its left operand, a connective finds that operand, and the stack as it was before. -/
theorem Reads.exists_atSign {c : Connective} {ts : List Token} {f : Formula}
    (hf : Reads c.leftPhrase ts f) {stack : List Frame} (hc : c.Admits stack) :
    ∃ r, (operand stack).takeAll ts = .ok r ∧ r.atSign c = some (stack, f) := by
  obtain ⟨r, hr, hholds⟩ := hf stack (admits_leftPhrase hc)
  refine ⟨r, hr, ?_⟩
  rw [hholds.atSign c (leftPhrase_endsBefore c), negate_of_admits hc, atSign, reduce_of_admits hc]

/-- After its left operand a connective is put on the stack, and its right operand is read
    there. -/
theorem Reads.join {c : Connective} {ts us : List Token} {f g : Formula} {t : Token}
    (hf : Reads c.leftPhrase ts f) (ht : t.Joins c) (hg : Reads c.rightPhrase us g) :
    Reads c.phrase (ts ++ t :: us) (.bin c f g) := by
  intro stack hstack
  have hc : c.Admits stack := admits_phrase.1 hstack
  obtain ⟨r, hr, hsign⟩ := hf.exists_atSign hc
  obtain ⟨r', hr', hholds'⟩ := hg (.left c f :: stack) (admits_rightPhrase c f stack)
  refine ⟨r', ?_, fun d hd => ?_, ?_⟩
  · rw [takeAll_append, hr, Except.bind, takeAll_cons, step_joins ht hsign, push_none]
    exact hr'
  · rw [endsBefore_phrase] at hd
    rw [hholds'.atSign d (rightPhrase_endsBefore hd), negate_of_admits hc]
    exact congrArg some (if_pos hd)
  · rw [hholds'.atEnd, negate_of_admits hc]
    rfl

/-- Every phrase is read. -/
theorem reads_of_derives {p : Phrase} {ts : List Token} {f : Formula} (h : Derives p ts f) :
    Reads p ts f := by
  induction h with
  | iff_imp _ ih =>
    exact Reads.loosen (p := .iff) (q := .imp)
      (fun _ hs => Connective.Admits.mono (fun d => by cases d <;> decide) hs)
      (fun c => by cases c <;> decide) ih
  | iff_join _ ht _ ihf ihg => exact Reads.join (c := .iff) ihf ht ihg
  | imp_or _ ih =>
    exact Reads.loosen (p := .imp) (q := .or)
      (fun _ hs => Connective.Admits.mono (fun d => by cases d <;> decide) hs)
      (fun c => by cases c <;> decide) ih
  | imp_join _ ht _ ihf ihg => exact Reads.join (c := .implies) ihf ht ihg
  | or_and _ ih =>
    exact Reads.loosen (p := .or) (q := .and)
      (fun _ hs => Connective.Admits.mono (fun d => by cases d <;> decide) hs)
      (fun c => by cases c <;> decide) ih
  | or_join _ ht _ ihf ihg => exact Reads.join (c := .or) ihf ht ihg
  | and_un _ ih =>
    exact Reads.loosen (p := .and) (q := .un) (fun _ _ => trivial) (fun _ _ => rfl) ih
  | and_join _ ht _ ihf ihg => exact Reads.join (c := .and) ihf ht ihg
  | un_prim _ ih =>
    exact Reads.loosen (p := .un) (q := .prim) (fun _ _ => trivial) (fun _ _ => rfl) ih
  | @un_neg ts f t ht _ ih =>
    intro stack _
    obtain ⟨r, hr, hholds⟩ := ih (.neg :: stack) trivial
    refine ⟨r, ?_, hholds.atSign, hholds.atEnd⟩
    rw [takeAll_cons, step_neg ht, push_none]
    exact hr
  | @prim_atom t ht =>
    intro stack _
    refine ⟨negate stack (.atom t.value), ?_, .refl _ _ _⟩
    rw [takeAll_singleton, step_atom ht]
  | @prim_paren ts f t u ht _ hu ih =>
    intro stack _
    obtain ⟨r, hr, hholds⟩ := ih (.paren :: stack) trivial
    refine ⟨negate stack f, ?_, .refl _ _ _⟩
    have hend : r.atEnd = some (.paren :: stack, f) := hholds.atEnd
    rw [List.cons_append, takeAll_cons, step_opening ht, push_none, Except.bind, takeAll_append,
      hr, Except.bind, takeAll_singleton, step_closing hu hend]

end Reader

/-- The reader finds the tree of every formula of the grammar. -/
theorem Derives.ofTokens {ts : Tokens} {f : Formula} (h : Derives .iff ts.items f) :
    Formula.ofTokens none ts = .ok f := by
  obtain ⟨r, hr, hholds⟩ := Reader.reads_of_derives h [] trivial
  have hrun : ts.items.foldlM (Reader.step none) Reader.start = .ok r := hr
  rw [Formula.ofTokens, hrun]
  exact Reader.finish_of_atEnd ts.stop hholds.atEnd

end PropTutor
