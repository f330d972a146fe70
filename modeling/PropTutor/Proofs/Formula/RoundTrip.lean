/-
  Printing and reading again.

  The printed form of a formula is built from pieces. Wherever a piece stands in front of a text
  that no atom goes on into, it is laid out as tokens of some form (`LaysOut`): for an operand, as
  tokens that the grammar makes a phrase of (`Phrase.Prints`), with a certain number of levels
  (`Phrase.PrintsAt`). The parentheses that the printer puts are those that the levels of the
  phrases ask for, so a formula whose atoms have names that can be typed is read back from its
  printed form, under every limit that allows the levels of that (`Formula.levels`). Every formula
  that was read has such names.
-/
import PropTutor.Formula.Printer
import PropTutor.Proofs.Formula.Levels
import PropTutor.Proofs.Token.Signature

namespace PropTutor

/-- The text is a letter followed by letters, digits and underscores. -/
def isAtomName (n : String) : Bool :=
  match n.toList with
  | [] => false
  | c :: cs => isAtomStart c && cs.all isAtomChar

theorem isAtomName_iff {n : String} : isAtomName n = true ↔ Lexeme .atom n.toList := by
  unfold isAtomName
  cases n.toList with
  | nil => exact iff_of_false nofun nofun
  | cons c cs =>
    simp only [Bool.and_eq_true, List.all_eq_true]
    constructor
    · rintro ⟨hc, hcs⟩
      exact .atom hc hcs
    · rintro ⟨hc, hcs⟩
      exact ⟨hc, hcs⟩

/-- Every atom of the formula has a name that can be typed. -/
def Formula.WellNamed (f : Formula) : Prop := ∀ n ∈ f.atoms, isAtomName n = true

instance (f : Formula) : Decidable f.WellNamed :=
  inferInstanceAs (Decidable (∀ n ∈ f.atoms, isAtomName n = true))

/-- The phrase as which a formula is printed. -/
def Formula.phrase : Formula → Phrase
  | atom _ => .prim
  | neg _ => .un
  | bin c _ _ => c.phrase

/-! ## Pieces of texts -/

/-- In front of a text that no atom goes on into, the piece lays out tokens of this form. -/
def LaysOut (s : String) (form : List Token → Prop) : Prop :=
  ∀ pos rest ts, TokenKind.atom.EndsBefore rest → Lays (pos + s.toList.length) rest ts →
    ∃ us, Lays pos (s.toList ++ rest) (us ++ ts) ∧ form us

/-- A sign of negation, and tokens of the form behind it. -/
def Negated (form : List Token → Prop) (us : List Token) : Prop :=
  ∃ t vs, us = t :: vs ∧ t.kind = .sign .neg ∧ form vs

/-- Tokens of the form in parentheses. -/
def Parenthesized (form : List Token → Prop) (us : List Token) : Prop :=
  ∃ t vs u, us = t :: (vs ++ [u]) ∧ t.kind = .opening ∧ form vs ∧ u.kind = .closing

/-- A sign of the connective between tokens of the one form and of the other one. -/
def Joined (c : Connective) (form form' : List Token → Prop) (us : List Token) : Prop :=
  ∃ vs t ws, us = vs ++ t :: ws ∧ form vs ∧ t.Joins c ∧ form' ws

namespace LaysOut

variable {s s' : String} {form form' : List Token → Prop}

theorem imp (h : LaysOut s form) (hform : ∀ us, form us → form' us) : LaysOut s form' := by
  intro pos rest ts hrest hts
  obtain ⟨us, hlays, hus⟩ := h pos rest ts hrest hts
  exact ⟨us, hlays, hform us hus⟩

theorem neg (h : LaysOut s form) : LaysOut (negationSymbol ++ s) (Negated form) := by
  intro pos rest ts hrest hts
  simp only [String.toList_append, List.length_append, List.append_assoc, ← Nat.add_assoc] at hts ⊢
  obtain ⟨us, hlays, hus⟩ := h _ rest ts hrest hts
  have hsign : Lexeme (.sign .neg) negationSymbol.toList := .sign (by decide)
  exact ⟨⟨.sign .neg, negationSymbol, pos⟩ :: us, .word hsign trivial hlays, _, us, rfl, rfl, hus⟩

theorem paren (h : LaysOut s form) : LaysOut ("(" ++ s ++ ")") (Parenthesized form) := by
  intro pos rest ts hrest hts
  simp only [String.toList_append, List.length_append, List.append_assoc, ← Nat.add_assoc] at hts ⊢
  -- laid out from the back, since a piece needs what follows it
  have hclosing := Lays.word (w := ")") .closing trivial hts
  have hstop : TokenKind.atom.EndsBefore (")".toList ++ rest) := by
    rintro c ⟨⟩
    decide
  obtain ⟨us, hlays, hus⟩ := h _ _ _ hstop hclosing
  have hopening := Lays.word (w := "(") .opening trivial hlays
  have hparen : Parenthesized form (⟨.opening, "(", pos⟩ :: (us ++
      [⟨.closing, ")", pos + "(".toList.length + s.toList.length⟩])) :=
    ⟨_, us, _, rfl, rfl, hus, rfl⟩
  refine ⟨_, ?_, hparen⟩
  rw [List.cons_append, List.append_assoc]
  exact hopening

theorem spaceInFront (h : LaysOut s form) : LaysOut (" " ++ s) form := by
  intro pos rest ts hrest hts
  simp only [String.toList_append, List.length_append, List.append_assoc, ← Nat.add_assoc] at hts ⊢
  obtain ⟨us, hlays, hus⟩ := h _ rest ts hrest hts
  have hblank : Text.isBlank ' ' = true := by decide
  exact ⟨us, .blank hblank hlays, hus⟩

theorem spaceBehind (h : LaysOut s form) : LaysOut (s ++ " ") form := by
  intro pos rest ts hrest hts
  simp only [String.toList_append, List.length_append, List.append_assoc, ← Nat.add_assoc] at hts ⊢
  have hblank : Text.isBlank ' ' = true := by decide
  exact h pos _ ts (TokenKind.endsBefore_of_isBlank hblank rest) (.blank hblank hts)

/-- Any spelling of the sign may stand between the operands. -/
theorem spelled {c : Connective} {w : String} (hw : w ∈ (Sign.binary c).spellings)
    (h : LaysOut s form) (h' : LaysOut s' form') :
    LaysOut (s ++ w ++ s') (Joined c form form') := by
  intro pos rest ts hrest hts
  simp only [String.toList_append, List.length_append, List.append_assoc, ← Nat.add_assoc] at hts ⊢
  obtain ⟨ws, hws, hform'⟩ := h' _ rest ts hrest hts
  have hmem := Sign.mem_table hw
  have hsign := Lays.word (.sign hmem) trivial hws
  obtain ⟨vs, hvs, hform⟩ := h _ _ _ (TokenKind.endsBefore_sign hmem _) hsign
  have hjoin : Joined c form form' (vs ++ ⟨.sign (.binary c), w, pos + s.toList.length⟩ :: ws) :=
    ⟨vs, _, ws, rfl, hform, rfl, hform'⟩
  refine ⟨_, ?_, hjoin⟩
  rw [List.append_assoc]
  exact hvs

theorem join {c : Connective} (h : LaysOut s form) (h' : LaysOut s' form') :
    LaysOut (s ++ (" " ++ c.symbol ++ " ") ++ s') (Joined c form form') := by
  have hspelled := spelled (Sign.symbol_mem_spellings (.binary c)) h.spaceBehind h'.spaceInFront
  have htext : s ++ " " ++ c.symbol ++ (" " ++ s') = s ++ (" " ++ c.symbol ++ " ") ++ s' := by
    simp only [String.append_assoc]
  exact htext ▸ hspelled

end LaysOut

namespace Phrase

/-- In front of a text that no atom goes on into, the piece spells the formula as this phrase. -/
def Prints (p : Phrase) (s : String) (f : Formula) : Prop :=
  ∀ pos rest ts, TokenKind.atom.EndsBefore rest → Lays (pos + s.toList.length) rest ts →
    ∃ us, Lays pos (s.toList ++ rest) (us ++ ts) ∧ Derives p us f

/-- The piece spells the formula as this phrase, and so many levels are what that needs. -/
def PrintsAt (p : Phrase) (s : String) (f : Formula) (k : Nat) : Prop :=
  LaysOut s fun us => p.Spells us f k

variable {p q : Phrase} {s s' : String} {f g : Formula} {k k' : Nat}

theorem PrintsAt.prints (h : p.PrintsAt s f k) : p.Prints s f :=
  LaysOut.imp h fun _ hf => hf.derives

theorem PrintsAt.loosen (hpq : p.level ≤ q.level) (h : q.PrintsAt s f k) : p.PrintsAt s f k :=
  LaysOut.imp h fun _ hf => hf.loosen hpq

theorem printsAt_atom {n : String} (hn : isAtomName n = true) : prim.PrintsAt n (.atom n) 0 := by
  intro pos rest ts hrest hts
  exact ⟨[⟨.atom, n, pos⟩], .word (isAtomName_iff.1 hn) hrest hts, spells_atom rfl⟩

theorem PrintsAt.neg (h : un.PrintsAt s f k) :
    un.PrintsAt (negationSymbol ++ s) (.neg f) (k + 1) := by
  refine LaysOut.imp (LaysOut.neg h) ?_
  rintro us ⟨t, vs, rfl, ht, hf⟩
  exact hf.neg ht

theorem PrintsAt.paren (h : iff.PrintsAt s f k) :
    prim.PrintsAt ("(" ++ s ++ ")") f (k + 1) := by
  refine LaysOut.imp (LaysOut.paren h) ?_
  rintro us ⟨t, vs, u, rfl, ht, hf, hu⟩
  exact hf.paren ht hu

theorem spells_of_joined {c : Connective} {us : List Token}
    (h : Joined c (c.leftPhrase.Spells · f k) (c.rightPhrase.Spells · g k') us) :
    c.phrase.Spells us (.bin c f g) (max k (k' + c.groupsRight.toNat)) := by
  obtain ⟨vs, t, ws, rfl, hf, ht, hg⟩ := h
  exact hf.join ht hg

theorem PrintsAt.join {c : Connective} (hf : c.leftPhrase.PrintsAt s f k)
    (hg : c.rightPhrase.PrintsAt s' g k') :
    c.phrase.PrintsAt (s ++ (" " ++ c.symbol ++ " ") ++ s') (.bin c f g)
      (max k (k' + c.groupsRight.toNat)) :=
  (LaysOut.join hf hg).imp fun _ => spells_of_joined

/-- Operands with a spelling of the sign between them spell their join. -/
theorem PrintsAt.spelled {c : Connective} {w : String} (hw : w ∈ (Sign.binary c).spellings)
    (hf : c.leftPhrase.PrintsAt s f k) (hg : c.rightPhrase.PrintsAt s' g k') :
    c.phrase.PrintsAt (s ++ w ++ s') (.bin c f g) (max k (k' + c.groupsRight.toNat)) :=
  (LaysOut.spelled hw hf hg).imp fun _ => spells_of_joined

theorem PrintsAt.bracket {brackets : Bool} (h : q.PrintsAt s f k)
    (hlevel : brackets = false → p.level ≤ q.level) :
    p.PrintsAt (Formula.bracket brackets s) f (k + brackets.toNat) := by
  cases brackets with
  | false => exact h.loosen (hlevel rfl)
  | true =>
    have hiff : iff.PrintsAt s f k := h.loosen q.iff_level_le
    exact PrintsAt.loosen (q := .prim) p.level_le hiff.paren

end Phrase

namespace Formula

/-! ## Printed formulas -/

theorem wellNamed_bin {c : Connective} {f g : Formula} :
    (bin c f g).WellNamed ↔ f.WellNamed ∧ g.WellNamed :=
  List.forall_mem_append

/-- An operand of a negation without parentheses is a phrase that a negation takes. -/
theorem un_level_le {f : Formula} (h : f.isBinary = false) :
    Phrase.un.level ≤ f.phrase.level := by
  cases f with
  | atom n => exact Phrase.un.level_le
  | neg f => exact Nat.le_refl _
  | bin c f g => cases h

/-- A left operand without parentheses is a phrase that stands on the left of the connective. -/
theorem leftPhrase_level_le {c : Connective} {f : Formula} (h : leftNeedsBrackets c f = false) :
    c.leftPhrase.level ≤ f.phrase.level := by
  cases f with
  | atom n => exact c.leftPhrase.level_le
  | neg f => exact Reader.leftPhrase_level_le_un c
  | bin d f g =>
    rw [leftNeedsBrackets] at h
    show c.leftPhrase.level ≤ d.phrase.level
    revert h
    cases c <;> cases d <;> decide

/-- A right operand without parentheses is a phrase that stands on the right of the
    connective. -/
theorem rightPhrase_level_le {c : Connective} {f : Formula} (h : rightNeedsBrackets c f = false) :
    c.rightPhrase.level ≤ f.phrase.level := by
  cases f with
  | atom n => exact c.rightPhrase.level_le
  | neg f => exact Reader.rightPhrase_level_le_un c
  | bin d f g =>
    rw [rightNeedsBrackets] at h
    show c.rightPhrase.level ≤ d.phrase.level
    revert h
    cases c <;> cases d <;> decide

/-- The levels of nesting that the printed form of a formula has. -/
def levels : Formula → Nat
  | atom _ => 0
  | neg f => f.levels + f.isBinary.toNat + 1
  | bin c f g => max (f.levels + (leftNeedsBrackets c f).toNat)
      (g.levels + (rightNeedsBrackets c g).toNat + c.groupsRight.toNat)

/-- The printed form spells the formula as its phrase. -/
theorem printsAt_text {f : Formula} (h : f.WellNamed) : f.phrase.PrintsAt f.text f f.levels := by
  induction f with
  | atom n => exact Phrase.printsAt_atom (h n (List.mem_singleton_self n))
  | neg f ih => exact ((ih h).bracket un_level_le).neg
  | bin c f g ihf ihg =>
    obtain ⟨hf, hg⟩ := wellNamed_bin.1 h
    exact Phrase.PrintsAt.join ((ihf hf).bracket leftPhrase_level_le)
      ((ihg hg).bracket rightPhrase_level_le)

theorem iff_printsAt_text {f : Formula} (h : f.WellNamed) :
    Phrase.iff.PrintsAt f.text f f.levels :=
  (printsAt_text h).loosen f.phrase.iff_level_le

/-! ## Formulas that were read -/

theorem wellNamed_of_parseWithin {limit : Option Nat} {s : String} {f : Formula}
    (h : parseWithin limit s = .ok f) : f.WellNamed := by
  intro n hn
  obtain ⟨ts, hts, hf⟩ := parseWithin_eq_ok.1 (parseWithin_none_of_ok h)
  rw [hf.atoms_eq] at hn
  obtain ⟨t, ht, hname⟩ := List.mem_filterMap.1 hn
  obtain ⟨hkind, rfl⟩ := Token.atomName?_eq_some.1 hname
  have hlexeme := (Tokens.ofText_eq_ok.1 hts).1.lexeme ht
  rw [hkind] at hlexeme
  exact isAtomName_iff.2 hlexeme

/-- A text that is laid out as tokens of a form has such tokens. -/
theorem exists_ofText_of_laysOut {s : String} {form : List Token → Prop} (h : LaysOut s form) :
    ∃ us, form us ∧ Tokens.ofText s = .ok ⟨us, s.length⟩ := by
  obtain ⟨us, hlays, hform⟩ := h 0 [] [] nofun .nil
  rw [List.append_nil, List.append_nil] at hlays
  exact ⟨us, hform, Tokens.ofText_eq_ok.2 ⟨hlays, rfl⟩⟩

/-- It is read as what the grammar derives from them. -/
theorem parseWithin_of_laysOut {s : String} {form : List Token → Prop} (h : LaysOut s form) :
    ∃ us, form us ∧ ∀ f, parseWithin none s = .ok f ↔ Derives .iff us f := by
  obtain ⟨us, hform, hts⟩ := exists_ofText_of_laysOut h
  refine ⟨us, hform, fun f => ?_⟩
  rw [parseWithin_of_ofText hts]
  exact ofTokens_eq_ok

/-- A piece that spells a formula is read as that formula where the limit allows its levels. -/
theorem parseWithin_of_printsAt {s : String} {f : Formula} {k : Nat}
    (h : Phrase.iff.PrintsAt s f k) : parseWithin none s = .ok f ∧
      ∀ n, parseWithin (some n) s = if k ≤ n then .ok f else .error .tooDeep := by
  obtain ⟨us, hspells, hts⟩ := exists_ofText_of_laysOut h
  simp only [parseWithin_of_ofText hts]
  exact ⟨Derives.ofTokens hspells.derives, Phrase.Spells.ofTokens hspells⟩

/-- A formula with names that can be typed is read back from its printed form. -/
theorem parseWithin_text {f : Formula} (h : f.WellNamed) : parseWithin none f.text = .ok f :=
  (parseWithin_of_printsAt (iff_printsAt_text h)).1

theorem eq_of_parseWithin_text {limit : Option Nat} {f g : Formula} (h : f.WellNamed)
    (hg : parseWithin limit f.text = .ok g) : g = f :=
  Except.ok.inj ((parseWithin_none_of_ok hg).symm.trans (parseWithin_text h))

end Formula

/-- A formula whose atoms have names that can be typed is read back from its printed form as it
    was, under every limit of nesting from a least one on, and below that one the text nests too
    deeply. Whatever was read is such a formula, so reading its printed form gives the same tree
    and printing that gives the same text. Different formulas of this kind are printed
    differently. -/
theorem printed_formula_reads_back :
    (∀ f : Formula, f.WellNamed → Formula.parseWithin none f.text = .ok f ∧
      ∃ m ≤ f.text.length, ∀ n, Formula.parseWithin (some n) f.text =
        if m ≤ n then .ok f else .error .tooDeep) ∧
    (∀ (limit : Option Nat) (s : String) (f : Formula), Formula.parseWithin limit s = .ok f →
      f.WellNamed ∧ Formula.parseWithin none f.text = .ok f ∧
        ∀ (limit' : Option Nat) (g : Formula), Formula.parseWithin limit' f.text = .ok g →
          g = f ∧ g.text = f.text) ∧
    ∀ f g : Formula, f.WellNamed → g.WellNamed → f ≠ g → f.text ≠ g.text := by
  refine ⟨fun f hf => ⟨Formula.parseWithin_text hf, ?_⟩, fun limit s f hread => ?_,
    fun f g hf hg hne htext => hne ?_⟩
  · obtain ⟨m, hm, hite⟩ := Formula.exists_parseWithin_eq_ite f.text
    rw [Formula.parseWithin_text hf] at hite
    exact ⟨m, hm, hite⟩
  · have hf : f.WellNamed := Formula.wellNamed_of_parseWithin hread
    refine ⟨hf, Formula.parseWithin_text hf, fun limit' g hg => ?_⟩
    obtain rfl := Formula.eq_of_parseWithin_text hf hg
    exact ⟨rfl, rfl⟩
  · have hread := Formula.parseWithin_text hf
    rw [htext] at hread
    exact Formula.eq_of_parseWithin_text hg hread

/-- The two groupings of `P`, `Q` and `P` under implications are read back and told apart. -/
theorem printed_formula_reads_back_groupings :
    Formula.parseWithin none (Formula.imp (.imp (.atom "P") (.atom "Q")) (.atom "P")).text =
      .ok (.imp (.imp (.atom "P") (.atom "Q")) (.atom "P")) ∧
    Formula.parseWithin (some 2) "P -> Q => P" =
      .ok (.imp (.atom "P") (.imp (.atom "Q") (.atom "P"))) ∧
    Formula.WellNamed (.imp (.atom "P") (.imp (.atom "Q") (.atom "P"))) ∧
    (Formula.imp (.imp (.atom "P") (.atom "Q")) (.atom "P")).text ≠
      (Formula.imp (.atom "P") (.imp (.atom "Q") (.atom "P"))).text := by
  have hread : Formula.parseWithin (some 2) "P -> Q => P" =
      .ok (.imp (.atom "P") (.imp (.atom "Q") (.atom "P"))) := by decide
  exact ⟨(printed_formula_reads_back.1 _ (by decide)).1, hread,
    (printed_formula_reads_back.2.1 _ _ _ hread).1,
    printed_formula_reads_back.2.2 _ _ (by decide) (by decide) (by decide)⟩

end PropTutor
