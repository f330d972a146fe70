/-
  Places in formulas, and the parentheses that are printed there.

  A place is a formula with a hole, told from the hole outwards. The formula that fills it is
  printed with parentheses or without, as the place demands (`Place.text_fill`), and what is
  printed around it depends on the connective of the filler only through the parentheses that are
  put further out. Every matching pair of parentheses in the printed form of a formula was put
  around a subformula as a whole, at the place of that (`Place.exists_of_matchingPair`).
-/
import PropTutor.Proofs.Formula.RoundTrip
import PropTutor.Proofs.Text.Balance

namespace PropTutor

/-- A formula with a hole: the whole formula, or the hole under a negation or on one side of a
    connective, which stands at a place itself. -/
inductive Place where
  | root
  | under (outer : Place)
  | left (outer : Place) (c : Connective) (right : Formula)
  | right (outer : Place) (c : Connective) (left : Formula)

namespace Place

open Formula (bracket leftNeedsBrackets rightNeedsBrackets)

/-- The formula with the hole filled. -/
def fill : Place → Formula → Formula
  | root, g => g
  | under p, g => p.fill (.neg g)
  | left p c r, g => p.fill (.bin c g r)
  | right p c l, g => p.fill (.bin c l g)

/-- What fills the hole is printed in parentheses. -/
def brackets : Place → Formula → Bool
  | root, _ => false
  | under _, g => g.isBinary
  | left _ c _, g => leftNeedsBrackets c g
  | right _ c _, g => rightNeedsBrackets c g

/-- The printed form of the formula with the hole filled, where another text stands for what fills
    it and for its parentheses. -/
def around : Place → Formula → String → String
  | root, _, s => s
  | under p, g, s => p.around (.neg g) (bracket (p.brackets (.neg g)) (negationSymbol ++ s))
  | left p c r, g, s => p.around (.bin c g r) (bracket (p.brackets (.bin c g r))
      (s ++ (" " ++ c.symbol ++ " ") ++ bracket (rightNeedsBrackets c r) r.text))
  | right p c l, g, s => p.around (.bin c l g) (bracket (p.brackets (.bin c l g))
      (bracket (leftNeedsBrackets c l) l.text ++ (" " ++ c.symbol ++ " ") ++ s))

/-- The printed form of a formula is printed around each of its subformulas. -/
theorem text_fill (p : Place) (g : Formula) :
    (p.fill g).text = p.around g (bracket (p.brackets g) g.text) := by
  induction p generalizing g with
  | root => rfl
  | under p ih => exact ih (.neg g)
  | left p c r ih => exact ih (.bin c g r)
  | right p c l ih => exact ih (.bin c l g)

end Place

/-! ## Printed forms are balanced -/

namespace Text

/-- No character of a name is a parenthesis. -/
theorem side_of_isAtomChar {c : Char} (h : isAtomChar c = true) : side c = 0 := by
  unfold side
  split
  · cases h
  · cases h
  · rfl

theorem side_of_isAtomName {n : String} (h : isAtomName n = true) : ∀ c ∈ n.toList, side c = 0 := by
  have hlexeme := isAtomName_iff.1 h
  generalize n.toList = cs at hlexeme
  cases hlexeme with
  | atom hc hcs =>
    exact List.forall_mem_cons.2 ⟨side_of_isAtomChar (isAtomChar_of_isAtomStart hc),
      fun d hd => side_of_isAtomChar (hcs d hd)⟩

theorem side_opening : side '(' = 1 := rfl

theorem side_closing : side ')' = -1 := rfl

/-- The sign of a connective and the blanks around it are no parentheses. -/
theorem side_of_symbol (c : Connective) :
    ∀ d ∈ (" " ++ c.symbol ++ " ").toList, side d = 0 := by
  cases c <;> simp [Connective.symbol, side]

end Text

namespace Formula

theorem balanced_bracket {s : String} (h : Balanced Text.side s.toList) (brackets : Bool) :
    Balanced Text.side (bracket brackets s).toList := by
  cases brackets with
  | false => exact h
  | true =>
    have hwrapped := Balanced.wrap Text.side_opening Text.side_closing h
    rwa [bracket, if_pos rfl, String.toList_append, String.toList_append]

theorem toList_text_bin (c : Connective) (l r : Formula) :
    (bin c l r).text.toList = (bracket (leftNeedsBrackets c l) l.text).toList ++
      ((" " ++ c.symbol ++ " ").toList ++ (bracket (rightNeedsBrackets c r) r.text).toList) := by
  rw [text, String.toList_append, String.toList_append, List.append_assoc]

theorem balanced_text {f : Formula} (h : f.WellNamed) : Balanced Text.side f.text.toList := by
  induction f with
  | atom n => exact .of_flat (Text.side_of_isAtomName (h n (List.mem_singleton_self n)))
  | neg f ih =>
    have hsign : Balanced Text.side negationSymbol.toList :=
      .of_flat (List.forall_mem_singleton.2 rfl)
    rw [text, String.toList_append]
    exact hsign.append (balanced_bracket (ih h) _)
  | bin c f g ihf ihg =>
    obtain ⟨hf, hg⟩ := wellNamed_bin.1 h
    have hsign := Balanced.of_flat (Text.side_of_symbol c)
    rw [toList_text_bin]
    exact (balanced_bracket (ihf hf) _).append (hsign.append (balanced_bracket (ihg hg) _))

end Formula

/-! ## Whose parentheses a matching pair is -/

namespace Place

open Formula (bracket leftNeedsBrackets rightNeedsBrackets)

/-- With `x` in the hole, there is a formula that is printed as `inner` in parentheses, and with
    another text in their place what is printed for `x` is what the function says. -/
def Marks (q : Place) (x : Formula) (inner : String) (write : String → String) : Prop :=
  ∃ (p : Place) (g : Formula), q.fill x = p.fill g ∧ p.brackets g = true ∧ inner = g.text ∧
    ∀ s, p.around g s = q.around x (write s)

namespace Marks

variable {q : Place} {x : Formula} {inner : String} {write write' : String → String}

theorem congr (h : q.Marks x inner write) (hwrite : ∀ s, write s = write' s) :
    q.Marks x inner write' := by
  obtain ⟨p, g, hfill, hbrackets, hinner, haround⟩ := h
  exact ⟨p, g, hfill, hbrackets, hinner, fun s => (haround s).trans (by rw [hwrite])⟩

theorem of_under (h : q.under.Marks x inner write) :
    q.Marks (.neg x) inner fun s =>
      bracket (q.brackets (.neg x)) (negationSymbol ++ write s) := h

theorem of_left {c : Connective} {r : Formula} (h : (q.left c r).Marks x inner write) :
    q.Marks (.bin c x r) inner fun s => bracket (q.brackets (.bin c x r))
      (write s ++ (" " ++ c.symbol ++ " ") ++ bracket (rightNeedsBrackets c r) r.text) := h

theorem of_right {c : Connective} {l : Formula} (h : (q.right c l).Marks x inner write) :
    q.Marks (.bin c l x) inner fun s => bracket (q.brackets (.bin c l x))
      (bracket (leftNeedsBrackets c l) l.text ++ (" " ++ c.symbol ++ " ") ++ write s) := h

end Marks

variable {q : Place} {x : Formula} {u v w : List Char}

/-- A matching pair in what is printed for `x` is the one around `x`, or it is inside of `x`. -/
theorem marks_of_bracket (hx : x.WellNamed) (hv : Balanced Text.side v)
    (inside : ∀ {u w}, x.text.toList = u ++ '(' :: (v ++ ')' :: w) → q.Marks x (.ofList v)
      fun s => bracket (q.brackets x) (.ofList u ++ s ++ .ofList w))
    (h : (bracket (q.brackets x) x.text).toList = u ++ '(' :: (v ++ ')' :: w)) :
    q.Marks x (.ofList v) fun s => .ofList u ++ s ++ .ofList w := by
  cases hbrackets : q.brackets x with
  | false =>
    rw [hbrackets] at h inside
    exact inside h
  | true =>
    rw [hbrackets] at h inside
    rw [bracket, if_pos rfl, String.toList_append, String.toList_append, List.append_assoc] at h
    rcases Balanced.pair_in_brackets Text.side_opening Text.side_closing (Formula.balanced_text hx)
      hv h with ⟨rfl, rfl, rfl⟩ | ⟨u', w', rfl, rfl, hinside⟩
    · exact ⟨q, x, rfl, hbrackets, String.ofList_toList, fun s => by simp⟩
    · exact (inside hinside).congr fun s => String.toList_injective (by simp [bracket])

/-- A matching pair in the printed form of `x` belongs to a formula inside of `x`. -/
theorem marks_of_text (hx : x.WellNamed) (hv : Balanced Text.side v)
    (h : x.text.toList = u ++ '(' :: (v ++ ')' :: w)) :
    q.Marks x (.ofList v) fun s => bracket (q.brackets x) (.ofList u ++ s ++ .ofList w) := by
  induction x generalizing q u w with
  | atom n =>
    have hside := Text.side_of_isAtomName (hx n (List.mem_singleton_self n))
    rw [Formula.text] at h
    rw [h] at hside
    cases hside '(' (by simp)
  | neg f ih =>
    have hsign : negationSymbol.toList = ['¬'] := rfl
    rw [Formula.text, String.toList_append, hsign, List.singleton_append] at h
    cases u with
    | nil => cases h
    | cons d u =>
      obtain ⟨rfl, hpair⟩ := List.cons.inj h
      have hmarks := marks_of_bracket (q := q.under) (x := f) hx hv (ih hx) hpair
      refine hmarks.of_under.congr fun s => congrArg (bracket _) ?_
      exact String.toList_injective (by simp [hsign])
  | bin c l r ihl ihr =>
    obtain ⟨hl, hr⟩ := Formula.wellNamed_bin.1 hx
    have hleft := Formula.balanced_bracket (Formula.balanced_text hl) (leftNeedsBrackets c l)
    have hsign := Balanced.of_flat (Text.side_of_symbol c)
    rw [Formula.toList_text_bin] at h
    rcases Balanced.pair_cases Text.side_opening hleft hv h with
      ⟨w', hpair, rfl⟩ | ⟨u', rfl, hbehind⟩
    · have hmarks := marks_of_bracket (q := q.left c r) hl hv (ihl hl) hpair
      refine hmarks.of_left.congr fun s => congrArg (bracket _) ?_
      exact String.toList_injective (by simp)
    rcases Balanced.pair_cases Text.side_opening hsign hv hbehind with
      ⟨w', hpair, -⟩ | ⟨u'', rfl, hpair⟩
    · cases Text.side_of_symbol c '(' (by rw [hpair]; simp)
    · have hmarks := marks_of_bracket (q := q.right c l) hr hv (ihr hr) hpair
      refine hmarks.of_right.congr fun s => congrArg (bracket _) ?_
      exact String.toList_injective (by simp)

/-- The parentheses between `before` and `after`, with `inner` in them, are those that are printed
    around `g` at the place. -/
structure Encloses (p : Place) (g : Formula) (before inner after : String) : Prop where
  brackets : p.brackets g = true
  inner_eq : inner = g.text
  around_eq : ∀ s, p.around g s = before ++ s ++ after

/-- A matching pair of parentheses in the printed form of a formula was put around a subformula,
    and the rest of the text is what is printed around that. -/
theorem exists_of_matchingPair {f : Formula} (hf : f.WellNamed) {before inner after : String}
    (h : Text.MatchingPair f.text before inner after) :
    ∃ (p : Place) (g : Formula), f = p.fill g ∧ p.Encloses g before inner after := by
  have htext : f.text.toList =
      before.toList ++ '(' :: (inner.toList ++ ')' :: after.toList) := by
    rw [h.text_eq]
    simp
  obtain ⟨p, g, hfill, hbrackets, hinner, haround⟩ :=
    marks_of_text (q := root) hf h.balanced htext
  rw [String.ofList_toList] at hinner
  refine ⟨p, g, hfill, hbrackets, hinner, fun s => (haround s).trans ?_⟩
  rw [String.ofList_toList, String.ofList_toList]
  rfl

end Place

end PropTutor
