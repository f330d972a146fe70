/-
  The normal forms as fixed points of the conversions.

  A formula is settled for a distribution if no `inner` stands directly under an `outer`. One
  sweep of the distribution settles every formula, and it changes only formulas that are not
  settled (`distribute_eq_self_iff`). The conjunctive and the disjunctive form are the negation
  normal forms that are settled for their distribution (`isCNF_iff`, `isDNF_iff`), so every
  conversion reaches its form and changes nothing that has it already
  (`conversion_fixes_its_form`).
-/
import PropTutor.NormalForm.Shape

namespace PropTutor

namespace Connective

/-- There are two basic connectives, and each is the dual of the other. -/
theorem eq_or_eq_dual {c d : Connective} (hc : c.isBasic = true) (hd : d.isBasic = true) :
    c = d ∨ c = d.dual := by
  cases c <;> cases d <;> simp_all [isBasic, dual]

theorem ne_dual {c : Connective} (hc : c.isBasic = true) : c ≠ c.dual := by
  cases c <;> simp_all [isBasic, dual]

theorem isBasic_dual {c : Connective} (hc : c.isBasic = true) : c.dual.isBasic = true := by
  cases c <;> simp_all [isBasic, dual]

/-- A basic connective or its dual, as the flag says, is basic. -/
theorem isBasic_signed {c : Connective} (hc : c.isBasic = true) (positive : Bool) :
    (if positive then c else c.dual).isBasic = true := by
  cases positive with
  | true => exact hc
  | false => exact isBasic_dual hc

end Connective

namespace Formula

/-- The connective joins the operands at the root. -/
def rootIs (c : Connective) : Formula → Bool
  | bin d _ _ => d == c
  | _ => false

/-- No `inner` stands directly under an `outer`. What stands under a negation does not count. -/
def Settled (outer inner : Connective) : Formula → Prop
  | bin c l r =>
      (c = outer → l.rootIs inner = false ∧ r.rootIs inner = false) ∧
        l.Settled outer inner ∧ r.Settled outer inner
  | _ => True

theorem rootIs_bin {c d : Connective} {l r : Formula} :
    (bin d l r).rootIs c = true ↔ d = c := beq_iff_eq

theorem rootIs_bin_of_ne {c d : Connective} (h : d ≠ c) (l r : Formula) :
    (bin d l r).rootIs c = false := beq_eq_false_iff_ne.2 h

/-- A join of another connective than `outer` is settled where its operands are. -/
theorem settled_bin_of_ne {outer inner c : Connective} (hc : c ≠ outer) {l r : Formula}
    (hl : l.Settled outer inner) (hr : r.Settled outer inner) :
    (bin c l r).Settled outer inner :=
  ⟨fun h => absurd h hc, hl, hr⟩

variable {outer inner : Connective}

/-! ## Where nothing is distributed -/

theorem spreadLeft_of_rootIs {l : Formula} (h : l.rootIs inner = false) (r : Formula) :
    spreadLeft outer inner r l = bin outer l r := by
  cases l with
  | atom n => rfl
  | neg f => rfl
  | bin c a b =>
    have hc : ¬ c = inner := fun hc => by rw [rootIs_bin.2 hc] at h; cases h
    rw [spreadLeft, if_neg hc]

theorem spread_of_rootIs (l : Formula) {r : Formula} (h : r.rootIs inner = false) :
    spread outer inner l r = spreadLeft outer inner r l := by
  cases r with
  | atom n => rfl
  | neg f => rfl
  | bin c a b =>
    have hc : ¬ c = inner := fun hc => by rw [rootIs_bin.2 hc] at h; cases h
    rw [spread, if_neg hc]

/-- A settled formula is left as it is. -/
theorem distribute_of_settled {f : Formula} (h : f.Settled outer inner) :
    f.distribute outer inner = f := by
  induction f with
  | atom n => rfl
  | neg f _ => rfl
  | bin c l r ihl ihr =>
    obtain ⟨hroots, hl, hr⟩ := h
    rw [distribute, ihl hl, ihr hr]
    split
    · next hc =>
      obtain ⟨hleft, hright⟩ := hroots hc
      rw [spread_of_rootIs l hright, spreadLeft_of_rootIs hleft, hc]
    · rfl

/-! ## One sweep settles -/

/-- The halves that a split makes are settled, for every `inner` at the top of the left operand
    was split. -/
theorem settled_spreadLeft (hne : inner ≠ outer) {l r : Formula} (hroot : r.rootIs inner = false)
    (hl : l.Settled outer inner) (hr : r.Settled outer inner) :
    (spreadLeft outer inner r l).Settled outer inner := by
  induction l with
  | atom n => exact ⟨fun _ => ⟨rfl, hroot⟩, trivial, hr⟩
  | neg f _ => exact ⟨fun _ => ⟨rfl, hroot⟩, trivial, hr⟩
  | bin c a b iha ihb =>
    rw [spreadLeft]
    split
    · exact settled_bin_of_ne hne (iha hl.2.1) (ihb hl.2.2)
    · next hc => exact ⟨fun _ => ⟨rootIs_bin_of_ne hc a b, hroot⟩, hl, hr⟩

theorem settled_spread (hne : inner ≠ outer) {l r : Formula} (hl : l.Settled outer inner)
    (hr : r.Settled outer inner) : (spread outer inner l r).Settled outer inner := by
  induction r with
  | atom n => exact settled_spreadLeft hne rfl hl hr
  | neg f _ => exact settled_spreadLeft hne rfl hl hr
  | bin c a b iha ihb =>
    rw [spread]
    split
    · exact settled_bin_of_ne hne (iha hr.2.1) (ihb hr.2.2)
    · next hc => exact settled_spreadLeft hne (rootIs_bin_of_ne hc a b) hl hr

/-- Distribution settles every formula, whatever stands in it. -/
theorem settled_distribute (hne : inner ≠ outer) (f : Formula) :
    (f.distribute outer inner).Settled outer inner := by
  induction f with
  | atom n => trivial
  | neg f _ => trivial
  | bin c l r ihl ihr =>
    rw [distribute]
    split
    · exact settled_spread hne ihl ihr
    · next hc => exact settled_bin_of_ne hc ihl ihr

/-- Distribution changes exactly the formulas that are not settled. -/
theorem distribute_eq_self_iff (hne : inner ≠ outer) {f : Formula} :
    f.distribute outer inner = f ↔ f.Settled outer inner :=
  ⟨fun h => h ▸ settled_distribute hne f, distribute_of_settled⟩

/-! ## Negation normal form -/

theorem isNNF_bin {c : Connective} {l r : Formula} :
    (bin c l r).isNNF = true ↔ c.isBasic = true ∧ l.isNNF = true ∧ r.isNNF = true := by
  rw [isNNF, Bool.and_eq_true, Bool.and_eq_true, and_assoc]

@[simp]
theorem isNNF_literal (positive : Bool) (n : String) : (literal positive n).isNNF = true := by
  cases positive <;> rfl

/-- A literal is an atom or its negation. -/
theorem exists_eq_literal {f : Formula} (h : f.isLiteral = true) :
    ∃ positive n, f = literal positive n := by
  cases f with
  | atom n => exact ⟨true, n, rfl⟩
  | neg f =>
    cases f with
    | atom n => exact ⟨false, n, rfl⟩
    | neg f => cases h
    | bin c l r => cases h
  | bin c l r => cases h

theorem isLiteral_eq_isNNF_neg (f : Formula) : (neg f).isLiteral = (neg f).isNNF := by
  cases f <;> rfl

/-- A negation normal form is built from literals by conjunction and disjunction. -/
theorem nnf_induction {motive : (f : Formula) → f.isNNF = true → Prop}
    (literal : ∀ positive n, motive (literal positive n) (isNNF_literal positive n))
    (bin : ∀ c l r (hc : c.isBasic = true) (hl : l.isNNF = true) (hr : r.isNNF = true),
      motive l hl → motive r hr → motive (bin c l r) (isNNF_bin.2 ⟨hc, hl, hr⟩))
    {f : Formula} (h : f.isNNF = true) : motive f h := by
  induction f with
  | atom n => exact literal true n
  | neg f _ =>
    obtain ⟨positive, n, hn⟩ := exists_eq_literal ((isLiteral_eq_isNNF_neg f).trans h)
    simp only [hn]
    exact literal positive n
  | bin c l r ihl ihr =>
    obtain ⟨hc, hl, hr⟩ := isNNF_bin.1 h
    exact bin c l r hc hl hr (ihl hl) (ihr hr)

/-- The conversion reaches negation normal form, for a formula and for its complement. -/
theorem isNNF_nnf (f : Formula) (positive : Bool) : (f.nnf positive).isNNF = true := by
  induction f generalizing positive with
  | atom n => exact isNNF_literal positive n
  | neg f ih => exact ih _
  | bin c l r ihl ihr =>
    have pair {d : Connective} (hd : d.isBasic = true) (p q : Bool) :
        (bin d (l.nnf p) (r.nnf q)).isNNF = true := isNNF_bin.2 ⟨hd, ihl p, ihr q⟩
    have pairBack {d : Connective} (hd : d.isBasic = true) (p q : Bool) :
        (bin d (r.nnf p) (l.nnf q)).isNNF = true := isNNF_bin.2 ⟨hd, ihr p, ihl q⟩
    cases c with
    | and => exact pair (Connective.isBasic_signed rfl positive) positive positive
    | or => exact pair (Connective.isBasic_signed rfl positive) positive positive
    | implies =>
      cases positive with
      | true => exact pair rfl false true
      | false => exact pair rfl true false
    | iff =>
      cases positive with
      | true => exact isNNF_bin.2 ⟨rfl, pair rfl false true, pairBack rfl false true⟩
      | false => exact isNNF_bin.2 ⟨rfl, pair rfl true false, pairBack rfl true false⟩

theorem nnf_of_isNNF {f : Formula} (h : f.isNNF = true) : f.nnf true = f := by
  induction h using nnf_induction with
  | literal positive n => cases positive <;> rfl
  | bin c l r hc _ _ ihl ihr =>
    cases c with
    | and => rw [nnf, if_pos rfl, ihl, ihr] <;> nofun
    | or => rw [nnf, if_pos rfl, ihl, ihr] <;> nofun
    | implies => cases hc
    | iff => cases hc

/-! ## Distribution keeps negation normal form -/

theorem isNNF_spreadLeft (ho : outer.isBasic = true) (hi : inner.isBasic = true) {l r : Formula}
    (hl : l.isNNF = true) (hr : r.isNNF = true) : (spreadLeft outer inner r l).isNNF = true := by
  induction l with
  | atom n => exact isNNF_bin.2 ⟨ho, hl, hr⟩
  | neg f _ => exact isNNF_bin.2 ⟨ho, hl, hr⟩
  | bin c a b iha ihb =>
    obtain ⟨-, ha, hb⟩ := isNNF_bin.1 hl
    rw [spreadLeft]
    split
    · exact isNNF_bin.2 ⟨hi, iha ha, ihb hb⟩
    · exact isNNF_bin.2 ⟨ho, hl, hr⟩

theorem isNNF_spread (ho : outer.isBasic = true) (hi : inner.isBasic = true) {l r : Formula}
    (hl : l.isNNF = true) (hr : r.isNNF = true) : (spread outer inner l r).isNNF = true := by
  induction r with
  | atom n => exact isNNF_spreadLeft ho hi hl hr
  | neg f _ => exact isNNF_spreadLeft ho hi hl hr
  | bin c a b iha ihb =>
    obtain ⟨-, ha, hb⟩ := isNNF_bin.1 hr
    rw [spread]
    split
    · exact isNNF_bin.2 ⟨hi, iha ha, ihb hb⟩
    · exact isNNF_spreadLeft ho hi hl hr

theorem isNNF_distribute (ho : outer.isBasic = true) (hi : inner.isBasic = true) {f : Formula}
    (h : f.isNNF = true) : (f.distribute outer inner).isNNF = true := by
  induction f with
  | atom n => exact h
  | neg f _ => exact h
  | bin c l r ihl ihr =>
    obtain ⟨hc, hl, hr⟩ := isNNF_bin.1 h
    rw [distribute]
    split
    · exact isNNF_spread ho hi (ihl hl) (ihr hr)
    · exact isNNF_bin.2 ⟨hc, ihl hl, ihr hr⟩

/-! ## Conjunctive and disjunctive form -/

@[simp]
theorem isFlat_literal (c : Connective) (positive : Bool) (n : String) :
    (literal positive n).isFlat c = true := by
  cases positive <;> rfl

theorem isFlat_bin {c d : Connective} {l r : Formula} :
    (bin d l r).isFlat c = true ↔ d = c ∧ l.isFlat c = true ∧ r.isFlat c = true := by
  rw [isFlat, Bool.and_eq_true, Bool.and_eq_true, beq_iff_eq, and_assoc]

/-- A chain of literals is a literal, or two such chains joined. -/
theorem flat_induction {c : Connective} {motive : (f : Formula) → f.isFlat c = true → Prop}
    (literal : ∀ positive n, motive (literal positive n) (isFlat_literal c positive n))
    (bin : ∀ l r (hl : l.isFlat c = true) (hr : r.isFlat c = true), motive l hl → motive r hr →
      motive (bin c l r) (isFlat_bin.2 ⟨rfl, hl, hr⟩))
    {f : Formula} (h : f.isFlat c = true) : motive f h := by
  induction f with
  | atom n => exact literal true n
  | neg f _ =>
    obtain ⟨positive, n, hn⟩ := exists_eq_literal (f := neg f) h
    simp only [hn]
    exact literal positive n
  | bin d l r ihl ihr =>
    obtain ⟨rfl, hl, hr⟩ := isFlat_bin.1 h
    exact bin l r hl hr (ihl hl) (ihr hr)

/-- Literals joined by one connective alone are the settled negation normal forms in which the
    other one is not at the root. -/
theorem isFlat_iff (hi : inner.isBasic = true) {f : Formula} :
    f.isFlat inner.dual = true ↔
      f.rootIs inner = false ∧ f.isNNF = true ∧ f.Settled inner.dual inner := by
  induction f with
  | atom n => exact iff_of_true rfl ⟨rfl, rfl, trivial⟩
  | neg f _ =>
    rw [isFlat, isLiteral_eq_isNNF_neg]
    · exact ⟨fun h => ⟨rfl, h, trivial⟩, fun h => h.2.1⟩
    · nofun
  | bin c l r ihl ihr =>
    rw [isFlat_bin, ihl, ihr, isNNF_bin, Settled]
    constructor
    · rintro ⟨rfl, ⟨hlroot, hl, hlsettled⟩, hrroot, hr, hrsettled⟩
      exact ⟨rootIs_bin_of_ne (Connective.ne_dual hi).symm l r,
        ⟨Connective.isBasic_dual hi, hl, hr⟩, fun _ => ⟨hlroot, hrroot⟩, hlsettled, hrsettled⟩
    · rintro ⟨hroot, ⟨hc, hl, hr⟩, hroots, hlsettled, hrsettled⟩
      have hne : c ≠ inner := beq_eq_false_iff_ne.1 hroot
      have hdual := (Connective.eq_or_eq_dual hc hi).resolve_left hne
      obtain ⟨hlroot, hrroot⟩ := hroots hdual
      exact ⟨hdual, ⟨hlroot, hl, hlsettled⟩, hrroot, hr, hrsettled⟩

/-- Flat formulas joined by the dual connective are the settled negation normal forms, however
    the chains are grouped. -/
theorem all_isFlat_operands_iff (hi : inner.isBasic = true) {f : Formula} :
    (f.operands inner).all (isFlat inner.dual) = true ↔
      f.isNNF = true ∧ f.Settled inner.dual inner := by
  have single {g : Formula} (hroot : g.rootIs inner = false) :
      ([g] : List Formula).all (isFlat inner.dual) = true ↔
        g.isNNF = true ∧ g.Settled inner.dual inner := by
    rw [List.all_cons, List.all_nil, Bool.and_true, isFlat_iff hi]
    exact and_iff_right hroot
  induction f with
  | atom n => exact single rfl
  | neg f _ => exact single rfl
  | bin c l r ihl ihr =>
    rw [operands]
    split
    · next hc =>
      rw [List.all_append, Bool.and_eq_true, isNNF_bin, hc]
      refine (and_congr ihl ihr).trans ⟨?_, ?_⟩
      · rintro ⟨⟨hl, hlsettled⟩, hr, hrsettled⟩
        exact ⟨⟨hi, hl, hr⟩, settled_bin_of_ne (Connective.ne_dual hi) hlsettled hrsettled⟩
      · rintro ⟨⟨-, hl, hr⟩, -, hlsettled, hrsettled⟩
        exact ⟨⟨hl, hlsettled⟩, hr, hrsettled⟩
    · next hc => exact single (rootIs_bin_of_ne hc l r)

theorem isCNF_iff {f : Formula} : f.isCNF = true ↔ f.isNNF = true ∧ f.Settled .or .and :=
  @all_isFlat_operands_iff .and rfl f

theorem isDNF_iff {f : Formula} : f.isDNF = true ↔ f.isNNF = true ∧ f.Settled .and .or :=
  @all_isFlat_operands_iff .or rfl f

/-! ## The three forms -/

theorem isNNF_of_isInForm {form : NormalForm} {f : Formula} (h : f.isInForm form = true) :
    f.isNNF = true := by
  cases form with
  | nnf => exact h
  | cnf => exact (isCNF_iff.1 h).1
  | dnf => exact (isDNF_iff.1 h).1

theorem isInForm_convert (form : NormalForm) (f : Formula) :
    (f.convert form).isInForm form = true := by
  have hnnf := isNNF_nnf f true
  cases form with
  | nnf => exact hnnf
  | cnf =>
    have hsettled := @settled_distribute .or .and nofun f.toNNF
    exact isCNF_iff.2 ⟨isNNF_distribute rfl rfl hnnf, hsettled⟩
  | dnf =>
    have hsettled := @settled_distribute .and .or nofun f.toNNF
    exact isDNF_iff.2 ⟨isNNF_distribute rfl rfl hnnf, hsettled⟩

theorem convert_of_isInForm {form : NormalForm} {f : Formula} (h : f.isInForm form = true) :
    f.convert form = f := by
  have hnnf : f.toNNF = f := nnf_of_isNNF (isNNF_of_isInForm h)
  cases form with
  | nnf => exact hnnf
  | cnf =>
    rw [convert, toCNF, hnnf]
    exact distribute_of_settled (isCNF_iff.1 h).2
  | dnf =>
    rw [convert, toDNF, hnnf]
    exact distribute_of_settled (isDNF_iff.1 h).2

end Formula

/-- The conversion to a normal form always reaches the form, and it changes exactly the formulas
    that do not have it, so converting twice is converting once. Whatever has a normal form has
    negation normal form. -/
theorem conversion_fixes_its_form (form : NormalForm) (f : Formula) :
    (f.convert form).isInForm form = true ∧
    (f.convert form = f ↔ f.isInForm form = true) ∧
    (f.convert form).convert form = f.convert form ∧
    (f.isInForm form = true → f.isNNF = true) := by
  have hreached := Formula.isInForm_convert form f
  refine ⟨hreached, ⟨fun h => h ▸ hreached, Formula.convert_of_isInForm⟩, ?_, ?_⟩
  · exact Formula.convert_of_isInForm hreached
  · exact Formula.isNNF_of_isInForm

/-- A conjunction grouped to the right with a disjunction grouped to the right in it. -/
theorem conversion_fixes_its_form_grouped :
    (Formula.conj (.atom "P") (.conj (.disj (.atom "Q") (.disj (.neg (.atom "P")) (.atom "R")))
        (.neg (.atom "R")))).isInForm .cnf = true ∧
    (Formula.conj (.atom "P") (.conj (.disj (.atom "Q") (.disj (.neg (.atom "P")) (.atom "R")))
        (.neg (.atom "R")))).convert .cnf =
      .conj (.atom "P") (.conj (.disj (.atom "Q") (.disj (.neg (.atom "P")) (.atom "R")))
        (.neg (.atom "R"))) ∧
    (Formula.conj (.atom "P") (.conj (.disj (.atom "Q") (.disj (.neg (.atom "P")) (.atom "R")))
        (.neg (.atom "R")))).isNNF = true := by
  have hform : (Formula.conj (.atom "P") (.conj (.disj (.atom "Q")
      (.disj (.neg (.atom "P")) (.atom "R"))) (.neg (.atom "R")))).isInForm .cnf = true := by
    decide
  obtain ⟨-, hfixed, -, hnnf⟩ := conversion_fixes_its_form .cnf (.conj (.atom "P")
    (.conj (.disj (.atom "Q") (.disj (.neg (.atom "P")) (.atom "R"))) (.neg (.atom "R"))))
  exact ⟨hform, hfixed.2 hform, hnnf hform⟩

end PropTutor
