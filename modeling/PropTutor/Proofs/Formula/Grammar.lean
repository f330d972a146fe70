/-
  The grammar of formulas, as a relation between tokens and trees.

    Iff  ::= Imp | Iff '↔' Imp
    Imp  ::= Or  | Or '→' Imp
    Or   ::= And | Or '∨' And
    And  ::= Un  | And '∧' Un
    Un   ::= '¬' Un | Prim
    Prim ::= atom | '(' Iff ')'

  The grammar knows nothing of stacks or of the strength of a connective: what binds tighter,
  and on which side a connective groups, is in the shape of its rules. A connective stands
  between a left and a right phrase and makes a phrase of its own level (`Derives.join`), and
  every phrase counts as one of a looser level (`Derives.loosen`).
-/
import PropTutor.Token.Basic

namespace PropTutor

/-- The phrases of the grammar, from the loosest to the tightest. -/
inductive Phrase where
  | iff
  | imp
  | or
  | and
  | un
  | prim
  deriving DecidableEq

/-- The token is a sign of this connective. -/
def Token.Joins (t : Token) (c : Connective) : Prop := t.kind = .sign (.binary c)

/-- The name that an atom carries; other tokens carry none. -/
def Token.atomName? (t : Token) : Option String :=
  match t.kind with
  | .atom => some t.value
  | _ => none

theorem Token.atomName?_eq_some {t : Token} {n : String} :
    t.atomName? = some n ↔ t.kind = .atom ∧ t.value = n := by
  unfold Token.atomName?
  split
  · next hkind => simp [hkind]
  · next hkind => exact iff_of_false nofun fun h => hkind h.1

/-- The tokens are a phrase of this level, and the formula is its tree. -/
inductive Derives : Phrase → List Token → Formula → Prop where
  | iff_imp {ts f} : Derives .imp ts f → Derives .iff ts f
  | iff_join {ts us f g} {t : Token} : Derives .iff ts f → t.Joins .iff → Derives .imp us g →
      Derives .iff (ts ++ t :: us) (.iff f g)
  | imp_or {ts f} : Derives .or ts f → Derives .imp ts f
  | imp_join {ts us f g} {t : Token} : Derives .or ts f → t.Joins .implies → Derives .imp us g →
      Derives .imp (ts ++ t :: us) (.imp f g)
  | or_and {ts f} : Derives .and ts f → Derives .or ts f
  | or_join {ts us f g} {t : Token} : Derives .or ts f → t.Joins .or → Derives .and us g →
      Derives .or (ts ++ t :: us) (.disj f g)
  | and_un {ts f} : Derives .un ts f → Derives .and ts f
  | and_join {ts us f g} {t : Token} : Derives .and ts f → t.Joins .and → Derives .un us g →
      Derives .and (ts ++ t :: us) (.conj f g)
  | un_neg {ts f} {t : Token} : t.kind = .sign .neg → Derives .un ts f →
      Derives .un (t :: ts) (.neg f)
  | un_prim {ts f} : Derives .prim ts f → Derives .un ts f
  | prim_atom {t : Token} : t.kind = .atom → Derives .prim [t] (.atom t.value)
  | prim_paren {ts f} {t u : Token} : t.kind = .opening → Derives .iff ts f → u.kind = .closing →
      Derives .prim (t :: ts ++ [u]) f

/-! ## Levels -/

namespace Phrase

/-- The place of a phrase in the order of the grammar. -/
def level : Phrase → Nat
  | iff => 1
  | imp => 2
  | or => 3
  | and => 4
  | un => 5
  | prim => 6

theorem level_le (p : Phrase) : p.level ≤ 6 := by
  cases p <;> decide

/-- No phrase is looser than a whole formula. -/
theorem iff_level_le (p : Phrase) : iff.level ≤ p.level := by
  cases p <;> decide

theorem level_inj {p q : Phrase} (h : p.level = q.level) : p = q := by
  cases p <;> cases q <;> simp_all [level]

/-- Every phrase but the tightest has a next one. -/
theorem exists_next {p : Phrase} (h : p.level < 6) : ∃ q : Phrase, q.level = p.level + 1 := by
  cases p with
  | iff => exact ⟨.imp, rfl⟩
  | imp => exact ⟨.or, rfl⟩
  | or => exact ⟨.and, rfl⟩
  | and => exact ⟨.un, rfl⟩
  | un => exact ⟨.prim, rfl⟩
  | prim => exact absurd h (by decide)

end Phrase

namespace Connective

/-- The phrase that a connective makes. -/
def phrase : Connective → Phrase
  | .iff => .iff
  | .implies => .imp
  | .or => .or
  | .and => .and

/-- The phrase that stands on the left of a connective. -/
def leftPhrase : Connective → Phrase
  | .iff => .iff
  | .implies => .or
  | .or => .or
  | .and => .and

/-- The phrase that stands on the right of a connective. -/
def rightPhrase : Connective → Phrase
  | .iff => .imp
  | .implies => .imp
  | .or => .and
  | .and => .un

end Connective

namespace Derives

theorem loosen_step {p q : Phrase} {ts : List Token} {f : Formula} (hq : q.level = p.level + 1)
    (h : Derives q ts f) : Derives p ts f := by
  cases p with
  | iff => exact iff_imp (Phrase.level_inj (q := .imp) hq ▸ h)
  | imp => exact imp_or (Phrase.level_inj (q := .or) hq ▸ h)
  | or => exact or_and (Phrase.level_inj (q := .and) hq ▸ h)
  | and => exact and_un (Phrase.level_inj (q := .un) hq ▸ h)
  | un => exact un_prim (Phrase.level_inj (q := .prim) hq ▸ h)
  | prim =>
    have := q.level_le
    rw [hq] at this
    exact absurd this (by decide)

/-- A phrase is a phrase of every looser level as well. -/
theorem loosen {p q : Phrase} {ts : List Token} {f : Formula} (hpq : p.level ≤ q.level)
    (h : Derives q ts f) : Derives p ts f := by
  by_cases hlt : p.level < q.level
  · have hq := q.level_le
    obtain ⟨m, hm⟩ := Phrase.exists_next (p := p) (by omega)
    exact loosen_step hm (loosen (by omega) h)
  · obtain rfl := Phrase.level_inj (p := p) (q := q) (by omega)
    exact h
termination_by q.level - p.level

/-- A connective between its two operands makes a phrase of its level. -/
theorem join {c : Connective} {ts us : List Token} {f g : Formula} {t : Token}
    (hf : Derives c.leftPhrase ts f) (ht : t.Joins c) (hg : Derives c.rightPhrase us g) :
    Derives c.phrase (ts ++ t :: us) (.bin c f g) := by
  cases c with
  | iff => exact iff_join hf ht hg
  | implies => exact imp_join hf ht hg
  | or => exact or_join hf ht hg
  | and => exact and_join hf ht hg

/-- The token of a connective has no name. -/
theorem atoms_join {c d : Connective} {ts us : List Token} {f g : Formula} {t : Token}
    (ht : t.Joins c) (hf : f.atoms = ts.filterMap Token.atomName?)
    (hg : g.atoms = us.filterMap Token.atomName?) :
    (Formula.bin d f g).atoms = (ts ++ t :: us).filterMap Token.atomName? := by
  have hkind : t.kind = .sign (.binary c) := ht
  rw [Formula.atoms, hf, hg, List.filterMap_append, List.filterMap_cons, Token.atomName?, hkind]

/-- A tree has the atoms of its tokens, in their order. -/
theorem atoms_eq {p : Phrase} {ts : List Token} {f : Formula} (h : Derives p ts f) :
    f.atoms = ts.filterMap Token.atomName? := by
  induction h with
  | iff_imp _ ih => exact ih
  | iff_join _ ht _ ihf ihg => exact atoms_join ht ihf ihg
  | imp_or _ ih => exact ih
  | imp_join _ ht _ ihf ihg => exact atoms_join ht ihf ihg
  | or_and _ ih => exact ih
  | or_join _ ht _ ihf ihg => exact atoms_join ht ihf ihg
  | and_un _ ih => exact ih
  | and_join _ ht _ ihf ihg => exact atoms_join ht ihf ihg
  | un_neg ht _ ih => rw [Formula.atoms, ih, List.filterMap_cons, Token.atomName?, ht]
  | un_prim _ ih => exact ih
  | prim_atom ht => rw [Formula.atoms, List.filterMap_cons, Token.atomName?, ht, List.filterMap_nil]
  | prim_paren ht _ hu ih =>
    rw [List.cons_append, List.filterMap_cons, List.filterMap_append, List.filterMap_cons,
      List.filterMap_nil, Token.atomName?, ht, Token.atomName?, hu, List.append_nil]
    exact ih

end Derives

end PropTutor
