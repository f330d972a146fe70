/-
  Two formulas side by side.

  The verdicts of a comparison are read off three tables, that of the biconditional and those of the
  two implications. They agree: the falsifying rows of the biconditional are the assignments over
  the names of both formulas on which the two differ (`Formula.separates_differences`), and there
  are none of them exactly if each formula entails the other one. Exchanging the formulas changes
  neither the rows nor their order (`Formula.differences_comm`), so the comparison of the exchanged
  formulas is the same one with its entailments exchanged, also where it is refused
  (`Comparison.of_swap`).
-/
import PropTutor.Proofs.Semantics.Tabulation
import PropTutor.Proofs.Semantics.Variables

namespace PropTutor

/-- The assignments over these names on which the formulas differ, in the order of truth tables. -/
structure Formula.Separates (f g : Formula) (names : List String) (found : List Assignment) :
    Prop where
  mem : ∀ a, a ∈ found ↔ a.map Prod.fst = names ∧ f.eval a.value ≠ g.eval a.value
  ordered : found.Pairwise fun a b => b.Below a

namespace Comparison

/-- The same comparison with the formulas exchanged. -/
def swap (c : Comparison) : Comparison :=
  { c with leftImpliesRight := c.rightImpliesLeft, rightImpliesLeft := c.leftImpliesRight }

/-- The comparison says how the formulas are related, and shows at most so many assignments on which
    they differ. -/
structure Describes (c : Comparison) (shown : Nat) (f g : Formula) : Prop where
  leftImpliesRight : c.leftImpliesRight = true ↔
    ∀ a : Assignment, f.eval a.value = true → g.eval a.value = true
  rightImpliesLeft : c.rightImpliesLeft = true ↔
    ∀ a : Assignment, g.eval a.value = true → f.eval a.value = true
  equivalent_iff_entails : c.equivalent = true ↔
    c.leftImpliesRight = true ∧ c.rightImpliesLeft = true
  equivalent_iff_same : c.equivalent = true ↔
    ∀ a : Assignment, a.map Prod.fst = c.names → f.eval a.value = g.eval a.value
  increasing : c.names.Pairwise (· < ·)
  mem_names : ∀ n, n ∈ c.names ↔ n ∈ f.vars ∨ n ∈ g.vars
  counterexamples : ∃ found, f.Separates g c.names found ∧ c.counterexamples = found.take shown ∧
    c.counterexamples.length = min shown found.length
  domain : ∀ a ∈ c.counterexamples, a.map Prod.fst = c.names

end Comparison

namespace Formula

variable {limit : Int} {f g : Formula}

/-! ## Differences -/

/-- The rows over the names of both formulas in which they differ. -/
def differences (f g : Formula) : List Assignment :=
  (Assignment.rows (iff f g).vars).filter fun a => f.eval a.value != g.eval a.value

theorem separates_differences (f g : Formula) :
    f.Separates g (iff f g).vars (f.differences g) := by
  refine ⟨fun a => ?_, ?_⟩
  · rw [differences, List.mem_filter, Assignment.mem_rows (nodup_vars _), bne_iff_ne]
  · exact (Assignment.pairwise_rows (nodup_vars _)).sublist List.filter_sublist

/-- The formulas differ in no row exactly if they have the same value everywhere. -/
theorem differences_eq_nil_iff :
    f.differences g = [] ↔ ∀ a : Assignment, f.eval a.value = g.eval a.value := by
  rw [List.eq_nil_iff_forall_not_mem]
  simp only [(separates_differences f g).mem, not_and, not_not]
  constructor
  · intro h a
    -- the row that agrees with the assignment on the names of both formulas decides
    have hrow := h ((iff f g).vars.map fun n => (n, a.value n)) (by
      rw [List.map_map]
      exact List.map_id _)
    rwa [← eval_iff_eq_true, eval_restrict, eval_iff_eq_true] at hrow
  · exact fun h a _ => h a

theorem vars_bin_comm (c d : Connective) (f g : Formula) : (bin c f g).vars = (bin d g f).vars :=
  vars_congr fun n => by rw [atoms, atoms, List.mem_append, List.mem_append, Or.comm]

theorem differences_comm (f g : Formula) : f.differences g = g.differences f := by
  rw [differences, differences, vars_bin_comm .iff .iff f g]
  refine List.filter_congr fun a _ => ?_
  cases f.eval a.value <;> cases g.eval a.value <;> rfl

theorem counterModels_iff (h : (iff f g).vars.length ≤ limit) :
    (iff f g).counterModels limit = .ok (f.differences g) := by
  have hfalse (a : Assignment) :
      ((iff f g).eval a.value == false) = (f.eval a.value != g.eval a.value) := by
    rw [eval, Connective.holds]
    cases f.eval a.value <;> cases g.eval a.value <;> rfl
  rw [counterModels, assignmentsGiving_of_le h, differences]
  simp only [hfalse]

end Formula

namespace Comparison

variable {limit shown : Int} {f g : Formula}

theorem takeSigned_of_nonneg {α : Type} {n : Int} (h : 0 ≤ n) (xs : List α) :
    takeSigned n xs = xs.take n.toNat :=
  if_neg (not_lt.2 h)

/-! ## What a comparison gives -/

/-- Within the limit of the biconditional both implications are answered as well, and the rest is
    read off the rows in which the formulas differ. -/
theorem of_of_le (shown : Int) (h : (Formula.iff f g).vars.length ≤ limit) :
    ∃ l r, f.entails limit g = .ok l ∧ g.entails limit f = .ok r ∧
      Comparison.of limit shown f g = .ok ⟨(f.differences g).isEmpty, l, r,
        (Formula.iff f g).vars, takeSigned shown (f.differences g)⟩ := by
  have hleft : (Formula.imp f g).vars.length ≤ limit := h
  have hright : (Formula.imp g f).vars.length ≤ limit :=
    Formula.vars_bin_comm .iff .implies f g ▸ h
  obtain ⟨l, hl, -⟩ := Formula.entails_of_le hleft
  obtain ⟨r, hr, -⟩ := Formula.entails_of_le hright
  refine ⟨l, r, hl, hr, ?_⟩
  rw [Comparison.of, Formula.counterModels_iff h, hl, hr]
  rfl

/-- Beyond the limit the table of the biconditional is refused, before the implications are
    looked at. -/
theorem of_of_lt (h : limit < (Formula.iff f g).vars.length) :
    Comparison.of limit shown f g = .error (.tooLarge (Formula.iff f g).vars.length limit) := by
  rw [Comparison.of, Formula.counterModels, Formula.assignmentsGiving_of_lt h]
  rfl

/-- Exchanging the formulas exchanges the entailments and nothing else, also where the table is
    refused. -/
theorem of_swap (limit shown : Int) (f g : Formula) :
    Comparison.of limit shown g f = (Comparison.of limit shown f g).map swap := by
  have hvars : (Formula.iff g f).vars = (Formula.iff f g).vars :=
    Formula.vars_bin_comm .iff .iff g f
  by_cases h : (Formula.iff f g).vars.length ≤ limit
  · obtain ⟨l, r, hl, hr, hvalue⟩ := of_of_le shown h
    obtain ⟨l', r', hl', hr', hvalue'⟩ := of_of_le shown (hvars ▸ h)
    obtain rfl := Except.ok.inj (hl'.symm.trans hr)
    obtain rfl := Except.ok.inj (hr'.symm.trans hl)
    rw [hvalue, hvalue', hvars, Formula.differences_comm g f]
    rfl
  · have hlt := not_le.1 h
    rw [of_of_lt hlt, of_of_lt (hvars ▸ hlt), hvars]
    rfl

/-- A comparison that shows a number of differences which is not negative describes the
    formulas. -/
theorem describes_of_eq_ok {c : Comparison} (hshown : 0 ≤ shown)
    (h : Comparison.of limit shown f g = .ok c) : c.Describes shown.toNat f g := by
  have hlimit : (Formula.iff f g).vars.length ≤ limit := by
    by_contra hlt
    rw [of_of_lt (not_le.1 hlt)] at h
    cases h
  obtain ⟨l, r, hl, hr, hvalue⟩ := of_of_le shown hlimit
  obtain rfl := Except.ok.inj (hvalue.symm.trans h)
  have hleft := (Formula.entails_eq_ok.1 hl).2
  have hright := (Formula.entails_eq_ok.1 hr).2
  have hseparates := Formula.separates_differences f g
  have hnone : (f.differences g).isEmpty = true ↔
      ∀ a : Assignment, f.eval a.value = g.eval a.value := by
    rw [List.isEmpty_iff, Formula.differences_eq_nil_iff]
  have htaken := takeSigned_of_nonneg hshown (f.differences g)
  exact {
    leftImpliesRight := hleft
    rightImpliesLeft := hright
    equivalent_iff_entails := by
      rw [hnone, hleft, hright, ← forall_and]
      exact forall_congr' fun a => by rw [← iff_iff_implies_and_implies, Bool.coe_iff_coe]
    equivalent_iff_same := by
      rw [List.isEmpty_iff, List.eq_nil_iff_forall_not_mem]
      simp only [hseparates.mem, not_and, not_not]
    increasing := pairwise_sortNames _
    mem_names := fun n => by
      rw [Formula.mem_vars, Formula.mem_vars, Formula.mem_vars, Formula.atoms, List.mem_append]
    counterexamples := ⟨_, hseparates, htaken, by rw [htaken, List.length_take]⟩
    domain := fun a ha => by
      rw [htaken] at ha
      exact ((hseparates.mem a).1 (List.mem_of_mem_take ha)).1 }

/-- The comparison under these settings is the one with their limit, and with their number of
    counterexamples if none is asked for. -/
theorem result_action (shown : Option Int) (settings : Settings) (f g : Formula) :
    ((Comparison.action shown f g).run (.ok settings)).result =
      (Comparison.of settings.maxVariables (shown.getD settings.counterexampleLimit) f g).mapError
        .table := by
  have htabulated (n : Int) :
      ((Action.tabulating fun limit => Comparison.of limit n f g).run (.ok settings)).result =
        (Comparison.of settings.maxVariables n f g).mapError .table :=
    Action.result_tabulating _ settings
  cases shown with
  | none => exact (Action.result_bind _ _ _).trans (htabulated settings.counterexampleLimit)
  | some n => exact (Action.result_bind _ _ _).trans (htabulated n)

end Comparison

/-- The verdicts of a comparison agree with each other and with the formulas. Where the names of both
    formulas fit the limit of the settings, and the number of counterexamples that is asked for or
    set is not negative, the comparison is given and describes the formulas: they are equivalent
    exactly if each entails the other, and exactly if no assignment over the names of both
    separates them; the names increase strictly; and the counterexamples are the first ones, up to
    that number, of the separating assignments in the order of tables. The comparison of the
    exchanged formulas is the same with the entailments exchanged. Where the names do not fit, both
    comparisons fail with how many there are. -/
theorem comparison_agrees_with_itself (shown : Option Int) (settings : Settings) (f g : Formula) :
    (((f.vars.toFinset ∪ g.vars.toFinset).card : Int) ≤ settings.maxVariables →
      0 ≤ shown.getD settings.counterexampleLimit →
      ∃ c, (Comparison.action shown f g).Gives (.ok settings) c ∧
        (Comparison.action shown g f).Gives (.ok settings) c.swap ∧
        c.Describes (shown.getD settings.counterexampleLimit).toNat f g) ∧
    (settings.maxVariables < (f.vars.toFinset ∪ g.vars.toFinset).card →
      ((Comparison.action shown f g).run (.ok settings)).result =
        .error (.table (.tooLarge (f.vars.toFinset ∪ g.vars.toFinset).card
          settings.maxVariables)) ∧
      ((Comparison.action shown g f).run (.ok settings)).result =
        .error (.table (.tooLarge (f.vars.toFinset ∪ g.vars.toFinset).card
          settings.maxVariables))) := by
  simp only [Action.Gives, Comparison.result_action, Action.mapError_eq_ok]
  rw [Comparison.of_swap _ _ f g, ← Formula.length_vars_bin .iff]
  refine ⟨fun hlimit hshown => ?_, fun hlimit => ?_⟩
  · obtain ⟨l, r, -, -, hvalue⟩ := Comparison.of_of_le
      (shown.getD settings.counterexampleLimit) hlimit
    refine ⟨_, hvalue, ?_, Comparison.describes_of_eq_ok hshown hvalue⟩
    rw [hvalue]
    rfl
  · rw [Comparison.of_of_lt hlimit]
    exact ⟨rfl, rfl⟩

/-- A conjunction entails the disjunction with another second operand, and they differ in four of the
    eight rows over their three names; the first one is shown. Two names are the most that the
    second settings allow. -/
theorem comparison_agrees_with_itself_overlap :
    (((Formula.vars (.conj (.atom "P") (.atom "Q"))).toFinset ∪
        (Formula.vars (.disj (.atom "P") (.atom "R"))).toFinset).card : Int) ≤
      Settings.standard.maxVariables ∧
    0 ≤ (some 1).getD Settings.standard.counterexampleLimit ∧
    (∃ c, (Comparison.action (some 1) (.conj (.atom "P") (.atom "Q"))
        (.disj (.atom "P") (.atom "R"))).Gives (.ok .standard) c ∧
      (Comparison.action (some 1) (.disj (.atom "P") (.atom "R"))
        (.conj (.atom "P") (.atom "Q"))).Gives (.ok .standard) c.swap ∧
      c = ⟨false, true, false, ["P", "Q", "R"], [[("P", true), ("Q", false), ("R", true)]]⟩ ∧
      c.Describes 1 (.conj (.atom "P") (.atom "Q")) (.disj (.atom "P") (.atom "R"))) ∧
    ({ Settings.standard with maxVariables := 2 } : Settings).maxVariables <
      ((Formula.vars (.conj (.atom "P") (.atom "Q"))).toFinset ∪
        (Formula.vars (.disj (.atom "P") (.atom "R"))).toFinset).card ∧
    ((Comparison.action none (.disj (.atom "P") (.atom "R")) (.conj (.atom "P") (.atom "Q"))).run
        (.ok { Settings.standard with maxVariables := 2 })).result =
      .error (.table (.tooLarge 3 2)) := by
  have hgiven := comparison_agrees_with_itself (some 1) .standard
    (.conj (.atom "P") (.atom "Q")) (.disj (.atom "P") (.atom "R"))
  have hrefused := comparison_agrees_with_itself none { Settings.standard with maxVariables := 2 }
    (.conj (.atom "P") (.atom "Q")) (.disj (.atom "P") (.atom "R"))
  obtain ⟨c, hc, hswap, hdescribes⟩ := hgiven.1 (by decide) (by decide)
  have hvalue : (Comparison.action (some 1) (.conj (.atom "P") (.atom "Q"))
      (.disj (.atom "P") (.atom "R"))).Gives (.ok .standard)
        ⟨false, true, false, ["P", "Q", "R"], [[("P", true), ("Q", false), ("R", true)]]⟩ := rfl
  obtain rfl := Except.ok.inj (hc.symm.trans hvalue)
  exact ⟨by decide, by decide, ⟨_, hc, hswap, rfl, hdescribes⟩, by decide,
    (hrefused.2 (by decide)).2⟩

end PropTutor
