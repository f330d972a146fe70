/-
  What the reader has read is spelled by the grammar.

  The tokens that were taken are divided among the frames of the stack (`Opens`): an open
  negation or parenthesis has its own token, and a connective that waits for its right operand
  has the phrase on its left and its own token. A completed operand has the rest, which is a
  phrase that nothing binds tighter than (`Reader.Spells`). One token keeps this division,
  whatever the limit of nesting (`Reader.step_spells`), and at the end of the text all that is
  open closes to one tree of the grammar.
-/
import PropTutor.Proofs.Formula.Complete

namespace PropTutor

/-- The tokens that stand for the open frames of a stack. -/
inductive Opens : List Frame → List Token → Prop where
  | nil : Opens [] []
  | neg {stack ts} {t : Token} : Opens stack ts → t.kind = .sign .neg →
      Opens (.neg :: stack) (ts ++ [t])
  | paren {stack ts} {t : Token} : Opens stack ts → t.kind = .opening →
      Opens (.paren :: stack) (ts ++ [t])
  | left {stack ts us f c} {t : Token} : Opens stack ts → c.Admits stack →
      Derives c.leftPhrase us f → t.Joins c → Opens (.left c f :: stack) (ts ++ (us ++ [t]))

namespace Reader

/-- The tokens that a reader has taken. -/
def Spells : Reader → List Token → Prop
  | operand stack, ts => Opens stack ts
  | operator stack f, ts => ∃ us vs, ts = us ++ vs ∧ Opens stack us ∧ stack.head? ≠ some .neg ∧
      Derives .un vs f

/-! ## Open connectives -/

theorem head_ne_neg_of_admits {c : Connective} {stack : List Frame} (h : c.Admits stack) :
    stack.head? ≠ some .neg := by
  intro hneg
  cases stack with
  | nil => cases hneg
  | cons frame rest =>
    obtain rfl : frame = .neg := Option.some.inj hneg
    exact h

/-- A connective that does not take the operand before another one leaves it the phrase that
    the other one makes. -/
theorem rightPhrase_level_le {d c : Connective} (h : d.takesBefore c = false) :
    d.rightPhrase.level ≤ c.phrase.level := by
  revert h
  cases d <;> cases c <;> decide

/-- A connective that takes the operand before another one makes a left operand of it. -/
theorem leftPhrase_level_le {d c : Connective} (h : d.takesBefore c = true) :
    c.leftPhrase.level ≤ d.phrase.level := by
  revert h
  cases d <;> cases c <;> decide

/-- A completed operand may stand on either side of every connective. -/
theorem leftPhrase_level_le_un (c : Connective) : c.leftPhrase.level ≤ Phrase.un.level := by
  cases c <;> decide

theorem rightPhrase_level_le_un (c : Connective) : c.rightPhrase.level ≤ Phrase.un.level := by
  cases c <;> decide

/-- Where the connectives that bind tighter are completed, the tokens are a left operand of the
    connective that completes them. -/
theorem reduce_spells {stack : List Frame} {us : List Token} (hopens : Opens stack us)
    {c : Connective} {p : Phrase} {vs : List Token} {f : Formula} (hneg : stack.head? ≠ some .neg)
    (hf : Derives p vs f) (hc : c.leftPhrase.level ≤ p.level)
    (htop : ∀ d l rest, stack = .left d l :: rest → d.rightPhrase.level ≤ p.level) :
    ∃ us' vs', us ++ vs = us' ++ vs' ∧ Opens (reduce c stack f).1 us' ∧
      c.Admits (reduce c stack f).1 ∧ Derives c.leftPhrase vs' (reduce c stack f).2 := by
  induction hopens generalizing p vs f with
  | nil => exact ⟨[], vs, rfl, .nil, trivial, hf.loosen hc⟩
  | neg _ _ => exact absurd rfl hneg
  | paren hopens ht => exact ⟨_, vs, rfl, .paren hopens ht, trivial, hf.loosen hc⟩
  | @left stack ts ls l d t hopens hadmits hl ht ih =>
    cases hd : d.takesBefore c with
    | true =>
      have hbin : Derives d.phrase (ls ++ t :: vs) (.bin d l f) :=
        hl.join ht (hf.loosen (htop d l stack rfl))
      have hnext : ∀ e k rest, stack = .left e k :: rest → e.rightPhrase.level ≤ d.phrase.level := by
        rintro e k rest rfl
        exact rightPhrase_level_le hadmits
      obtain ⟨us', vs', heq, h⟩ :=
        ih (head_ne_neg_of_admits hadmits) hbin (leftPhrase_level_le hd) hnext
      have hreduce : reduce c (.left d l :: stack) f = reduce c stack (.bin d l f) := if_pos hd
      rw [hreduce]
      refine ⟨us', vs', ?_, h⟩
      rw [← heq]
      simp only [List.append_assoc, List.cons_append, List.nil_append]
    | false =>
      have hreduce : reduce c (.left d l :: stack) f = (.left d l :: stack, f) :=
        if_neg (Bool.eq_false_iff.1 hd)
      rw [hreduce]
      exact ⟨_, vs, rfl, .left hopens hadmits hl ht, hd, hf.loosen hc⟩

/-- The loosest connective completes all that is open inside the innermost parenthesis. -/
theorem unwind_eq_reduce {stack : List Frame} {us : List Token} (hopens : Opens stack us)
    (hneg : stack.head? ≠ some .neg) (f : Formula) : unwind stack f = reduce .iff stack f := by
  induction hopens generalizing f with
  | nil => rfl
  | neg _ _ => exact absurd rfl hneg
  | paren _ _ => rfl
  | @left stack ts ls l d t _ hadmits _ _ ih =>
    have htakes : d.takesBefore .iff = true := by cases d <;> decide
    have hreduce : reduce .iff (.left d l :: stack) f = reduce .iff stack (.bin d l f) :=
      if_pos htakes
    rw [hreduce, ← ih (head_ne_neg_of_admits hadmits)]
    rfl

/-- What stands between the innermost open parenthesis and the end is a whole formula. -/
theorem unwind_spells {stack : List Frame} {us vs : List Token} {f : Formula}
    (hopens : Opens stack us) (hneg : stack.head? ≠ some .neg) (hf : Derives .un vs f) :
    ∃ us' vs', us ++ vs = us' ++ vs' ∧ Opens (unwind stack f).1 us' ∧
      Derives .iff vs' (unwind stack f).2 := by
  rw [unwind_eq_reduce hopens hneg]
  obtain ⟨us', vs', heq, hopens', -, hiff⟩ :=
    reduce_spells hopens (c := .iff) hneg hf (leftPhrase_level_le_un .iff)
      fun d _ _ _ => rightPhrase_level_le_un d
  exact ⟨us', vs', heq, hopens', hiff⟩

/-! ## One token -/

theorem negate_spells {stack : List Frame} {us vs : List Token} {f : Formula}
    (hopens : Opens stack us) (hf : Derives .un vs f) :
    Spells (negate stack f) (us ++ vs) := by
  induction hopens generalizing vs f with
  | nil => exact ⟨[], vs, rfl, .nil, nofun, hf⟩
  | @neg stack ts t _ ht ih =>
    rw [List.append_assoc]
    exact ih (.un_neg ht hf)
  | paren hopens ht => exact ⟨_, vs, rfl, .paren hopens ht, nofun, hf⟩
  | left hopens hadmits hl ht => exact ⟨_, vs, rfl, .left hopens hadmits hl ht, nofun, hf⟩

theorem eq_of_push {limit : Option Nat} {frame : Frame} {stack : List Frame} {r : Reader}
    (h : push limit frame stack = .ok r) : r = operand (frame :: stack) := by
  cases limit with
  | none => exact (Except.ok.inj h).symm
  | some n =>
    rw [push] at h
    split at h
    · cases h
    · exact (Except.ok.inj h).symm

/-- A token that is taken keeps the division of the tokens. -/
theorem step_spells {limit : Option Nat} {r r' : Reader} {t : Token} {ts : List Token}
    (hr : r.Spells ts) (h : step limit r t = .ok r') : r'.Spells (ts ++ [t]) := by
  cases r with
  | operand stack =>
    cases ht : t.kind with
    | atom =>
      simp only [step, ht] at h
      obtain rfl := Except.ok.inj h
      exact negate_spells hr (.un_prim (.prim_atom ht))
    | opening =>
      simp only [step, ht] at h
      obtain rfl := eq_of_push h
      exact .paren hr ht
    | closing =>
      simp only [step, ht] at h
      cases h
    | sign s =>
      cases s with
      | neg =>
        simp only [step, ht] at h
        obtain rfl := eq_of_push h
        exact .neg hr ht
      | binary c =>
        simp only [step, ht] at h
        cases h
  | operator stack f =>
    obtain ⟨us, vs, rfl, hopens, hneg, hf⟩ := hr
    cases ht : t.kind with
    | atom =>
      simp only [step, ht] at h
      cases h
    | opening =>
      simp only [step, ht] at h
      cases h
    | closing =>
      obtain ⟨us', vs', heq, hopens', hiff⟩ := unwind_spells hopens hneg hf
      simp only [step, ht] at h
      split at h
      · next rest g hunwind =>
        rw [hunwind] at hopens' hiff
        obtain rfl := Except.ok.inj h
        cases hopens' with
        | paren hrest hopening =>
          have hspells := negate_spells hrest (.un_prim (.prim_paren hopening hiff ht))
          rw [heq]
          simpa only [List.append_assoc, List.cons_append, List.nil_append] using hspells
      · cases h
    | sign s =>
      cases s with
      | neg =>
        simp only [step, ht] at h
        cases h
      | binary c =>
        simp only [step, ht] at h
        obtain rfl := eq_of_push h
        obtain ⟨us', vs', heq, hopens', hadmits, hleft⟩ :=
          reduce_spells hopens (c := c) hneg hf (leftPhrase_level_le_un c)
            fun d _ _ _ => rightPhrase_level_le_un d
        rw [heq, List.append_assoc]
        exact .left hopens' hadmits hleft ht

/-! ## Runs -/

theorem run_spells {limit : Option Nat} {r r' : Reader} {ts us : List Token}
    (hr : r.Spells us) (h : ts.foldlM (step limit) r = .ok r') : r'.Spells (us ++ ts) := by
  induction ts generalizing r us with
  | nil =>
    obtain rfl : r = r' := Except.ok.inj h
    rwa [List.append_nil]
  | cons t ts ih =>
    rw [List.foldlM_cons] at h
    cases hstep : step limit r t with
    | error e => rw [hstep] at h; cases h
    | ok m =>
      rw [hstep] at h
      have hspells := ih (step_spells hr hstep) h
      rwa [List.append_assoc] at hspells

theorem finish_spells {r : Reader} {ts : List Token} {stop : Nat} {f : Formula}
    (hr : r.Spells ts) (h : r.finish stop = .ok f) : Derives .iff ts f := by
  cases r with
  | operand stack => cases h
  | operator stack g =>
    obtain ⟨us, vs, rfl, hopens, hneg, hg⟩ := hr
    obtain ⟨us', vs', heq, hopens', hiff⟩ := unwind_spells hopens hneg hg
    rw [finish] at h
    split at h
    · next k hunwind =>
      rw [hunwind] at hopens' hiff
      obtain rfl := Except.ok.inj h
      cases hopens'
      rw [heq]
      exact hiff
    · cases h

end Reader

/-- The tree that the reader finds is a tree of the grammar, whatever the limit of nesting. -/
theorem derives_of_ofTokens {limit : Option Nat} {ts : Tokens} {f : Formula}
    (h : Formula.ofTokens limit ts = .ok f) : Derives .iff ts.items f := by
  rw [Formula.ofTokens] at h
  cases hrun : ts.items.foldlM (Reader.step limit) Reader.start with
  | error e => rw [hrun] at h; cases h
  | ok r =>
    rw [hrun] at h
    have hstart : Reader.start.Spells [] := Opens.nil
    exact Reader.finish_spells (Reader.run_spells hstart hrun) h

end PropTutor
