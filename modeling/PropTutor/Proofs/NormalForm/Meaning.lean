/-
  The passes to normal form keep the meaning of a formula.

  `SameMeaning f g` says that two formulas have the same value under all values of their
  names, and the same atoms. It is a congruence, so a pass that rebuilds a tree keeps the
  meaning as soon as the step at each node does: the two translations of arrows, the laws of
  De Morgan, and the distributive laws.
-/
import Mathlib.Tactic.Tauto
import PropTutor.NormalForm.Shape
import PropTutor.Semantics.Assignment

namespace PropTutor

namespace Formula

/-- Two formulas that neither their values nor their atoms tell apart. -/
structure SameMeaning (f g : Formula) : Prop where
  eval : ∀ v, f.eval v = g.eval v
  atoms : ∀ n, n ∈ f.atoms ↔ n ∈ g.atoms

namespace SameMeaning

theorem refl (f : Formula) : SameMeaning f f := ⟨fun _ => rfl, fun _ => Iff.rfl⟩

theorem symm {f g : Formula} (h : SameMeaning f g) : SameMeaning g f :=
  ⟨fun v => (h.eval v).symm, fun n => (h.atoms n).symm⟩

theorem trans {f g h : Formula} (hfg : SameMeaning f g) (hgh : SameMeaning g h) :
    SameMeaning f h :=
  ⟨fun v => (hfg.eval v).trans (hgh.eval v), fun n => (hfg.atoms n).trans (hgh.atoms n)⟩

theorem neg {f g : Formula} (h : SameMeaning f g) : SameMeaning (neg f) (neg g) :=
  ⟨fun v => congrArg Bool.not (h.eval v), h.atoms⟩

theorem bin {f f' g g' : Formula} (c : Connective) (hf : SameMeaning f f')
    (hg : SameMeaning g g') : SameMeaning (bin c f g) (bin c f' g') := by
  refine ⟨fun v => ?_, fun n => ?_⟩
  · rw [Formula.eval, Formula.eval, hf.eval, hg.eval]
  · rw [Formula.atoms, Formula.atoms, List.mem_append, List.mem_append, hf.atoms, hg.atoms]

end SameMeaning

/-! ## Laws at one node -/

theorem sameMeaning_disj_neg (f g : Formula) : SameMeaning (disj (neg f) g) (imp f g) :=
  ⟨fun _ => rfl, fun _ => Iff.rfl⟩

theorem sameMeaning_conj_disj_neg (f g : Formula) :
    SameMeaning (conj (disj (neg f) g) (disj (neg g) f)) (iff f g) := by
  refine ⟨fun v => ?_, fun n => ?_⟩
  · simp only [eval, Connective.holds]
    cases f.eval v <;> cases g.eval v <;> rfl
  · simp only [atoms, List.mem_append]
    tauto

theorem sameMeaning_neg_neg (f : Formula) : SameMeaning (neg (neg f)) f :=
  ⟨fun _ => Bool.not_not _, fun _ => Iff.rfl⟩

theorem sameMeaning_bin_dual {c : Connective} (hc : c.isBasic) (f g : Formula) :
    SameMeaning (bin c.dual (neg f) (neg g)) (neg (bin c f g)) := by
  refine ⟨fun v => ?_, fun n => Iff.rfl⟩
  cases c with
  | and => simp only [eval, Connective.dual, Connective.holds, Bool.not_and]
  | or => simp only [eval, Connective.dual, Connective.holds, Bool.not_or]
  | implies => cases hc
  | iff => cases hc

/-- A conjunction and a disjunction distribute over each other, on both sides. -/
theorem sameMeaning_distrib_right {inner : Connective} (hc : inner.isBasic) (f g h : Formula) :
    SameMeaning (bin inner (bin inner.dual f g) (bin inner.dual f h))
      (bin inner.dual f (bin inner g h)) := by
  refine ⟨fun v => ?_, fun n => ?_⟩
  · cases inner with
    | and => simp only [eval, Connective.dual, Connective.holds, Bool.or_and_distrib_left]
    | or => simp only [eval, Connective.dual, Connective.holds, Bool.and_or_distrib_left]
    | implies => cases hc
    | iff => cases hc
  · simp only [atoms, List.mem_append]
    tauto

theorem sameMeaning_distrib_left {inner : Connective} (hc : inner.isBasic) (f g h : Formula) :
    SameMeaning (bin inner (bin inner.dual f h) (bin inner.dual g h))
      (bin inner.dual (bin inner f g) h) := by
  refine ⟨fun v => ?_, fun n => ?_⟩
  · cases inner with
    | and => simp only [eval, Connective.dual, Connective.holds, Bool.or_and_distrib_right]
    | or => simp only [eval, Connective.dual, Connective.holds, Bool.and_or_distrib_right]
    | implies => cases hc
    | iff => cases hc
  · simp only [atoms, List.mem_append]
    tauto

/-! ## Removing arrows -/

theorem sameMeaning_eliminateArrows (f : Formula) : SameMeaning f.eliminateArrows f := by
  induction f with
  | atom n => exact .refl _
  | neg f ih => exact ih.neg
  | bin c l r ihl ihr =>
    cases c with
    | and => exact .bin .and ihl ihr
    | or => exact .bin .or ihl ihr
    | implies => exact (sameMeaning_disj_neg _ _).trans (.bin .implies ihl ihr)
    | iff => exact (sameMeaning_conj_disj_neg _ _).trans (.bin .iff ihl ihr)

/-! ## Moving negations to the atoms -/

/-- The formula, or its negation if the flag is not set. -/
def signed (positive : Bool) (f : Formula) : Formula := if positive then f else neg f

theorem sameMeaning_signed_not (positive : Bool) (f : Formula) :
    SameMeaning (signed (!positive) f) (signed positive (neg f)) := by
  cases positive with
  | true => exact .refl _
  | false => exact (sameMeaning_neg_neg f).symm

/-- Under a negation a basic connective and its dual change places. -/
theorem sameMeaning_bin_signed {c : Connective} (hc : c.isBasic) (positive : Bool)
    (f g : Formula) :
    SameMeaning (bin (if positive then c else c.dual) (signed positive f) (signed positive g))
      (signed positive (bin c f g)) := by
  cases positive with
  | true => exact .refl _
  | false => exact sameMeaning_bin_dual hc f g

/-- Negations move into both operands of a basic connective, and past no other one. -/
theorem pushedTo_bin_eq_ok {c : Connective} {l r g : Formula} {positive : Bool} :
    (bin c l r).pushedTo positive = .ok g ↔
      c.isBasic ∧ ∃ a b, l.pushedTo positive = .ok a ∧ r.pushedTo positive = .ok b ∧
        g = bin (if positive then c else c.dual) a b := by
  cases hc : c.isBasic with
  | false => simp [pushedTo, hc]
  | true =>
    cases ha : l.pushedTo positive with
    | error e => simp [pushedTo, hc, ha, bind, Except.bind]
    | ok a =>
      cases hb : r.pushedTo positive with
      | error e => simp [pushedTo, hc, ha, hb, bind, Except.bind]
      | ok b => simp [pushedTo, hc, ha, hb, bind, Except.bind, pure, Except.pure, eq_comm]

/-- Where negations can be moved, the result says what the formula or its complement says. -/
theorem sameMeaning_pushedTo {f g : Formula} {positive : Bool}
    (h : f.pushedTo positive = .ok g) : SameMeaning g (signed positive f) := by
  induction f generalizing positive g with
  | atom n =>
    obtain rfl : literal positive n = g := Except.ok.inj h
    exact .refl _
  | neg f ih => exact (ih h).trans (sameMeaning_signed_not positive f)
  | bin c l r ihl ihr =>
    obtain ⟨hc, a, b, ha, hb, rfl⟩ := pushedTo_bin_eq_ok.1 h
    exact (SameMeaning.bin _ (ihl ha) (ihr hb)).trans (sameMeaning_bin_signed hc positive l r)

theorem pushedTo_bin {c : Connective} (hc : c.isBasic) {l r a b : Formula} {positive : Bool}
    (ha : l.pushedTo positive = .ok a) (hb : r.pushedTo positive = .ok b) :
    (bin c l r).pushedTo positive = .ok (bin (if positive then c else c.dual) a b) :=
  pushedTo_bin_eq_ok.2 ⟨hc, a, b, ha, hb, rfl⟩

theorem pushedTo_neg (f : Formula) (positive : Bool) :
    (neg f).pushedTo positive = f.pushedTo (!positive) := rfl

/-- Without arrows negations can be moved, and the two passes together give the negation
    normal form. -/
theorem pushedTo_eliminateArrows (f : Formula) (positive : Bool) :
    f.eliminateArrows.pushedTo positive = .ok (f.nnf positive) := by
  induction f generalizing positive with
  | atom n => rfl
  | neg f ih => exact ih _
  | bin c l r ihl ihr =>
    have negl := (pushedTo_neg l.eliminateArrows positive).trans (ihl _)
    have negr := (pushedTo_neg r.eliminateArrows positive).trans (ihr _)
    cases c with
    | and => exact pushedTo_bin rfl (ihl _) (ihr _)
    | or => exact pushedTo_bin rfl (ihl _) (ihr _)
    | implies =>
      refine (pushedTo_bin rfl negl (ihr _)).trans ?_
      cases positive <;> rfl
    | iff =>
      have forth := @pushedTo_bin .or rfl _ _ _ _ _ negl (ihr positive)
      have back := @pushedTo_bin .or rfl _ _ _ _ _ negr (ihl positive)
      refine (pushedTo_bin rfl forth back).trans ?_
      cases positive <;> rfl

/-- The negation normal form is what the two passes give; they never fail together. -/
theorem pushNegations_eliminateArrows (f : Formula) :
    f.eliminateArrows.pushNegations = .ok f.toNNF :=
  pushedTo_eliminateArrows f true

/-! ## Distribution -/

theorem sameMeaning_spreadLeft {inner : Connective} (hc : inner.isBasic) (l r : Formula) :
    SameMeaning (spreadLeft inner.dual inner r l) (bin inner.dual l r) := by
  induction l with
  | atom n => exact .refl _
  | neg f _ => exact .refl _
  | bin c a b iha ihb =>
    rw [spreadLeft]
    split
    · next h =>
      subst h
      exact (SameMeaning.bin _ iha ihb).trans (sameMeaning_distrib_left hc a b r)
    · exact .refl _

theorem sameMeaning_spread {inner : Connective} (hc : inner.isBasic) (l r : Formula) :
    SameMeaning (spread inner.dual inner l r) (bin inner.dual l r) := by
  induction r with
  | atom n => exact sameMeaning_spreadLeft hc l _
  | neg f _ => exact sameMeaning_spreadLeft hc l _
  | bin c a b iha ihb =>
    rw [spread]
    split
    · next h =>
      subst h
      exact (SameMeaning.bin _ iha ihb).trans (sameMeaning_distrib_right hc l a b)
    · exact sameMeaning_spreadLeft hc l _

/-- Distribution keeps the meaning of every formula, whatever stands in it. -/
theorem sameMeaning_distribute {inner : Connective} (hc : inner.isBasic) (f : Formula) :
    SameMeaning (f.distribute inner.dual inner) f := by
  induction f with
  | atom n => exact .refl _
  | neg f _ => exact .refl _
  | bin c l r ihl ihr =>
    rw [distribute]
    split
    · next h =>
      subst h
      exact (sameMeaning_spread hc _ _).trans (.bin _ ihl ihr)
    · exact .bin c ihl ihr

theorem sameMeaning_distributeOr (f : Formula) : SameMeaning f.distributeOr f :=
  @sameMeaning_distribute .and rfl f

theorem sameMeaning_distributeAnd (f : Formula) : SameMeaning f.distributeAnd f :=
  @sameMeaning_distribute .or rfl f

end Formula

end PropTutor
