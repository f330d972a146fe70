/-
  How many levels of nesting a phrase needs.

  Negations, parentheses and implications that wait for their right operand are levels, and the
  limit counts those that are open at one time. While the tokens of a phrase are taken, so many
  levels are open at most on top of those that were open before. That number is what the phrase
  needs: a limit that leaves so many levels does not matter, and under one that leaves fewer the
  phrase nests too deeply (`Reader.Needs`). An operand behind a connective needs one level more
  if the connective groups to the right, and none more otherwise (`Reader.Needs.join`). Names and
  offsets have no part in it: the kinds of tokens decide whether they are a phrase, and how many
  levels that needs (`Derives.exists_ofKinds`).
-/
import PropTutor.Proofs.Formula.Nesting

namespace PropTutor

/-- Where a phrase may stand, a tighter one may stand. -/
theorem Phrase.Admits.mono {p q : Phrase} (hpq : p.level ≤ q.level) {stack : List Frame}
    (h : p.Admits stack) : q.Admits stack := by
  cases p <;> cases q <;> first
    | exact h
    | trivial
    | exact absurd hpq (by decide)
    | exact Connective.Admits.mono (fun d => by cases d <;> decide) h

namespace Reader

variable {n k k' : Nat} {frame : Frame} {stack : List Frame} {p q : Phrase} {ts us : List Token}
  {t u : Token} {f : Formula}

/-- Where no more levels are open than the limit allows, the limit decides on the next frame by
    the levels that are open with it. -/
theorem push_eq_ite (h : stack.countP Frame.nests ≤ n) :
    push (some n) frame stack = if (frame :: stack).countP Frame.nests ≤ n
      then .ok (operand (frame :: stack)) else .error .tooDeep := by
  split
  · next hopen => exact push_of_le hopen
  · next hopen =>
    cases hframe : frame.nests with
    | true => exact push_of_nests hframe (Nat.lt_of_not_le hopen)
    | false =>
      rw [List.countP_cons_of_neg (Bool.eq_false_iff.1 hframe)] at hopen
      exact absurd h hopen

/-- Wherever the phrase may stand, the limit does not matter for its tokens if it leaves so many
    levels, and they nest too deeply if it leaves fewer. -/
def Needs (p : Phrase) (ts : List Token) (k : Nat) : Prop :=
  ∀ stack n, p.Admits stack → stack.countP Frame.nests ≤ n →
    ts.foldlM (step (some n)) (operand stack) =
      if stack.countP Frame.nests + k ≤ n then (operand stack).takeAll ts else .error .tooDeep

theorem Needs.loosen (hpq : p.level ≤ q.level) (h : Needs q ts k) : Needs p ts k :=
  fun stack n hstack hopen => h stack n (hstack.mono hpq) hopen

/-- A frame in front of a phrase is a level more, if it counts as one. -/
theorem Needs.behind (h : Needs p ts k) (hadmits : p.Admits (frame :: stack))
    (hopen : stack.countP Frame.nests ≤ n) :
    (push (some n) frame stack).bind (ts.foldlM (step (some n)) ·) =
      if stack.countP Frame.nests + (k + frame.nests.toNat) ≤ n
      then (operand (frame :: stack)).takeAll ts else .error .tooDeep := by
  have hcount : (frame :: stack).countP Frame.nests =
      stack.countP Frame.nests + frame.nests.toNat := by
    rw [List.countP_cons]
    cases frame.nests <;> rfl
  rw [push_eq_ite hopen, hcount]
  by_cases hframe : stack.countP Frame.nests + frame.nests.toNat ≤ n
  · rw [if_pos hframe]
    refine (h (frame :: stack) n hadmits (hcount ▸ hframe)).trans (if_congr ?_ rfl rfl)
    rw [hcount]
    omega
  · rw [if_neg hframe, if_neg (by omega)]
    rfl

/-! ## Phrases -/

theorem needs_atom (ht : t.kind = .atom) : Needs .prim [t] 0 := by
  intro stack n _ hopen
  rw [if_pos (by omega), takeAll, List.foldlM_cons, List.foldlM_cons, step_atom ht, step_atom ht]
  rfl

theorem Needs.neg (h : Needs .un ts k) (ht : t.kind = .sign .neg) :
    Needs .un (t :: ts) (k + 1) := by
  intro stack n _ hopen
  rw [List.foldlM_cons, takeAll_cons, step_neg ht, step_neg ht]
  exact h.behind trivial hopen

theorem Needs.paren (h : Needs .iff ts k) (ht : t.kind = .opening) (hu : u.kind = .closing) :
    Needs .prim (t :: ts ++ [u]) (k + 1) := by
  intro stack n _ hopen
  have hopened : (t :: ts).foldlM (step (some n)) (operand stack) =
      if stack.countP Frame.nests + (k + 1) ≤ n then (operand stack).takeAll (t :: ts)
      else .error .tooDeep := by
    rw [List.foldlM_cons, takeAll_cons, step_opening ht, step_opening ht]
    exact h.behind trivial hopen
  have hclosing (r : Reader) : [u].foldlM (step (some n)) r = r.takeAll [u] := by
    have hfree : step (some n) r u = step none r u := by cases r <;> simp only [step, hu]
    rw [takeAll, List.foldlM_cons, List.foldlM_cons, hfree]
    rfl
  rw [List.foldlM_append, takeAll_append, hopened]
  split
  · exact congrArg _ (funext hclosing)
  · rfl

/-- The operands of a connective are taken one after the other, so their levels do not add up. -/
theorem Needs.join {c : Connective} (hk : Needs c.leftPhrase ts k)
    (hf : Reads c.leftPhrase ts f) (ht : t.Joins c) (hk' : Needs c.rightPhrase us k') :
    Needs c.phrase (ts ++ t :: us) (max k (k' + c.groupsRight.toNat)) := by
  intro stack n hstack hopen
  have hc : c.Admits stack := admits_phrase.1 hstack
  obtain ⟨r, hr, hsign⟩ := hf.exists_atSign hc
  rw [List.foldlM_append, takeAll_append, hk stack n (admits_leftPhrase hc) hopen, hr]
  by_cases hleft : stack.countP Frame.nests + k ≤ n
  · rw [if_pos hleft]
    show (t :: us).foldlM (step (some n)) r = if _ then r.takeAll (t :: us) else _
    rw [List.foldlM_cons, takeAll_cons, step_joins ht hsign, step_joins ht hsign]
    refine (hk'.behind (admits_rightPhrase c f stack) hopen).trans (if_congr ?_ rfl rfl)
    show _ + (k' + c.groupsRight.toNat) ≤ n ↔ _
    omega
  · rw [if_neg hleft, if_neg (by omega)]
    rfl

end Reader

/-! ## Spelling with levels -/

/-- The tokens are a phrase of this level, the formula is its tree, and so many levels of nesting
    are what it needs. -/
structure Phrase.Spells (p : Phrase) (ts : List Token) (f : Formula) (k : Nat) : Prop where
  derives : Derives p ts f
  needs : Reader.Needs p ts k

namespace Phrase

variable {p q : Phrase} {ts us : List Token} {f g : Formula} {k k' : Nat} {t u : Token}

theorem Spells.loosen (hpq : p.level ≤ q.level) (h : q.Spells ts f k) : p.Spells ts f k :=
  ⟨h.derives.loosen hpq, h.needs.loosen hpq⟩

theorem spells_atom (ht : t.kind = .atom) : prim.Spells [t] (.atom t.value) 0 :=
  ⟨.prim_atom ht, Reader.needs_atom ht⟩

theorem Spells.neg (h : un.Spells ts f k) (ht : t.kind = .sign .neg) :
    un.Spells (t :: ts) (.neg f) (k + 1) :=
  ⟨.un_neg ht h.derives, h.needs.neg ht⟩

theorem Spells.paren (h : iff.Spells ts f k) (ht : t.kind = .opening) (hu : u.kind = .closing) :
    prim.Spells (t :: ts ++ [u]) f (k + 1) :=
  ⟨.prim_paren ht h.derives hu, h.needs.paren ht hu⟩

theorem Spells.join {c : Connective} (hf : c.leftPhrase.Spells ts f k) (ht : t.Joins c)
    (hg : c.rightPhrase.Spells us g k') :
    c.phrase.Spells (ts ++ t :: us) (.bin c f g) (max k (k' + c.groupsRight.toNat)) :=
  ⟨hf.derives.join ht hg.derives,
    hf.needs.join (Reader.reads_of_derives hf.derives) ht hg.needs⟩

/-- A formula is read under the limits that leave the levels it needs, and under no other one. -/
theorem Spells.ofTokens {ts : Tokens} (h : iff.Spells ts.items f k) (n : Nat) :
    Formula.ofTokens (some n) ts = if k ≤ n then .ok f else .error .tooDeep := by
  have hrun := h.needs [] n trivial (Nat.zero_le n)
  rw [List.countP_nil, Nat.zero_add] at hrun
  rw [Formula.ofTokens, Reader.start, hrun]
  split
  · exact h.derives.ofTokens
  · rfl

end Phrase

/-! ## Kinds of tokens -/

/-- Tokens of these kinds are a phrase of this level, whatever their names and offsets, and so many
    levels of nesting are what it needs. -/
def Phrase.OfKinds (p : Phrase) (kinds : List TokenKind) (k : Nat) : Prop :=
  ∀ us, us.map Token.kind = kinds → ∃ g, p.Spells us g k

namespace Phrase.OfKinds

variable {p q : Phrase} {ts us : List Token} {k k' : Nat} {t u : Token}

theorem loosen (hpq : p.level ≤ q.level) (h : q.OfKinds (ts.map Token.kind) k) :
    p.OfKinds (ts.map Token.kind) k := by
  intro vs hvs
  obtain ⟨g, hg⟩ := h vs hvs
  exact ⟨g, hg.loosen hpq⟩

theorem atom (ht : t.kind = .atom) : prim.OfKinds ([t].map Token.kind) 0 := by
  intro vs hvs
  obtain ⟨v, vs, rfl, hv, hvs⟩ := List.map_eq_cons_iff.1 hvs
  obtain rfl := List.map_eq_nil_iff.1 hvs
  exact ⟨_, spells_atom (hv.trans ht)⟩

theorem neg (h : un.OfKinds (ts.map Token.kind) k) (ht : t.kind = .sign .neg) :
    un.OfKinds ((t :: ts).map Token.kind) (k + 1) := by
  intro vs hvs
  obtain ⟨v, vs, rfl, hv, hvs⟩ := List.map_eq_cons_iff.1 hvs
  obtain ⟨g, hg⟩ := h vs hvs
  exact ⟨_, hg.neg (hv.trans ht)⟩

theorem paren (h : iff.OfKinds (ts.map Token.kind) k) (ht : t.kind = .opening)
    (hu : u.kind = .closing) : prim.OfKinds ((t :: ts ++ [u]).map Token.kind) (k + 1) := by
  intro vs hvs
  rw [List.cons_append, List.map_cons, List.map_append] at hvs
  obtain ⟨v, vs, rfl, hv, hvs⟩ := List.map_eq_cons_iff.1 hvs
  obtain ⟨inside, last, rfl, hinside, hlast⟩ := List.map_eq_append_iff.1 hvs
  obtain ⟨w, ws, rfl, hw, hws⟩ := List.map_eq_cons_iff.1 hlast
  obtain rfl := List.map_eq_nil_iff.1 hws
  obtain ⟨g, hg⟩ := h inside hinside
  exact ⟨g, hg.paren (hv.trans ht) (hw.trans hu)⟩

theorem join {c : Connective} (h : c.leftPhrase.OfKinds (ts.map Token.kind) k) (ht : t.Joins c)
    (h' : c.rightPhrase.OfKinds (us.map Token.kind) k') :
    c.phrase.OfKinds ((ts ++ t :: us).map Token.kind) (max k (k' + c.groupsRight.toNat)) := by
  intro vs hvs
  rw [List.map_append, List.map_cons] at hvs
  obtain ⟨left, rest, rfl, hleft, hrest⟩ := List.map_eq_append_iff.1 hvs
  obtain ⟨v, right, rfl, hv, hright⟩ := List.map_eq_cons_iff.1 hrest
  obtain ⟨f, hf⟩ := h left hleft
  obtain ⟨g, hg⟩ := h' right hright
  have hjoins : v.Joins c := hv.trans ht
  exact ⟨.bin c f g, hf.join hjoins hg⟩

theorem exists_join {c : Connective} (h : ∃ k, c.leftPhrase.OfKinds (ts.map Token.kind) k)
    (ht : t.Joins c) (h' : ∃ k, c.rightPhrase.OfKinds (us.map Token.kind) k) :
    ∃ k, c.phrase.OfKinds ((ts ++ t :: us).map Token.kind) k := by
  obtain ⟨k, hk⟩ := h
  obtain ⟨k', hk'⟩ := h'
  exact ⟨_, hk.join ht hk'⟩

end Phrase.OfKinds

/-- Whether tokens are a phrase depends on their kinds only, and so do the levels that it needs. -/
theorem Derives.exists_ofKinds {p : Phrase} {ts : List Token} {f : Formula} (h : Derives p ts f) :
    ∃ k, p.OfKinds (ts.map Token.kind) k := by
  induction h with
  | iff_imp _ ih => exact ih.imp fun _ hk => hk.loosen (by decide)
  | iff_join _ ht _ ihf ihg => exact Phrase.OfKinds.exists_join (c := .iff) ihf ht ihg
  | imp_or _ ih => exact ih.imp fun _ hk => hk.loosen (by decide)
  | imp_join _ ht _ ihf ihg => exact Phrase.OfKinds.exists_join (c := .implies) ihf ht ihg
  | or_and _ ih => exact ih.imp fun _ hk => hk.loosen (by decide)
  | or_join _ ht _ ihf ihg => exact Phrase.OfKinds.exists_join (c := .or) ihf ht ihg
  | and_un _ ih => exact ih.imp fun _ hk => hk.loosen (by decide)
  | and_join _ ht _ ihf ihg => exact Phrase.OfKinds.exists_join (c := .and) ihf ht ihg
  | un_neg ht _ ih => exact ih.imp' _ fun _ hk => hk.neg ht
  | un_prim _ ih => exact ih.imp fun _ hk => hk.loosen (by decide)
  | prim_atom ht => exact ⟨0, .atom ht⟩
  | prim_paren ht _ hu ih => exact ih.imp' _ fun _ hk => hk.paren ht hu

end PropTutor
