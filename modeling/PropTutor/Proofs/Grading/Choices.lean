/-
  Choices as sets.

  Options are counted once each, so the counts of a choice are the sizes of sets
  (`choiceCounts_eq`), whatever the order and the repetitions of the options. A choice is
  complete exactly if it selects the right options and no others (`complete_choiceCounts`).
  Where there is a right option, the score of a choice that is not complete is below one
  (`choiceScore_lt_one`).
-/
import Mathlib.Algebra.Order.Field.Basic
import Mathlib.Data.Rat.Cast.Order
import Mathlib.Data.Finset.Card
import PropTutor.Grading.Choices

namespace PropTutor.Grading

theorem nodup_eraseDups (xs : List String) : xs.eraseDups.Nodup := by
  match xs with
  | [] => exact List.nodup_nil
  | x :: xs =>
    rw [List.eraseDups_cons, List.nodup_cons, List.mem_eraseDups]
    exact ⟨by simp, nodup_eraseDups _⟩
termination_by xs.length
decreasing_by exact Nat.lt_succ_of_le (List.length_filter_le _ _)

theorem length_filter_eraseDups (p : String → Bool) (xs : List String) :
    (xs.eraseDups.filter p).length = (xs.toFinset.filter (p · = true)).card := by
  rw [← List.toFinset_card_of_nodup ((nodup_eraseDups xs).filter p)]
  congr 1
  ext x
  simp only [List.mem_toFinset, List.mem_filter, List.mem_eraseDups, Finset.mem_filter]

/-- The counts are the sizes of sets of options. -/
theorem choiceCounts_eq (selected correct : List String) : choiceCounts selected correct =
    ⟨(selected.toFinset ∩ correct.toFinset).card, (selected.toFinset \ correct.toFinset).card,
      correct.toFinset.card⟩ := by
  have htotal : correct.eraseDups.length = correct.toFinset.card := by
    have hall := length_filter_eraseDups (fun _ => true) correct
    rwa [List.filter_true, Finset.filter_true_of_mem fun _ _ => rfl] at hall
  have hmem (x : String) : correct.eraseDups.contains x = true ↔ x ∈ correct.toFinset := by
    rw [List.contains_iff_mem, List.mem_eraseDups, List.mem_toFinset]
  rw [choiceCounts, length_filter_eraseDups, length_filter_eraseDups, htotal]
  congr 2
  · ext x
    rw [Finset.mem_filter, Finset.mem_inter, hmem]
  · ext x
    rw [Finset.mem_filter, Finset.mem_sdiff, Bool.not_eq_true', ← Bool.not_eq_true, hmem]

/-- A choice is complete exactly if it selects the right options and no others. -/
theorem complete_choiceCounts {selected correct : List String} :
    ChoiceCounts.complete (choiceCounts selected correct) = true ↔
      selected.toFinset = correct.toFinset := by
  rw [choiceCounts_eq, ChoiceCounts.complete, Bool.and_eq_true, beq_iff_eq, beq_iff_eq,
    Finset.card_eq_zero, Finset.sdiff_eq_empty_iff_subset]
  constructor
  · rintro ⟨hcard, hsubset⟩
    have hinter : selected.toFinset ∩ correct.toFinset = correct.toFinset :=
      Finset.eq_of_subset_of_card_le Finset.inter_subset_right (Nat.le_of_eq hcard.symm)
    exact hsubset.antisymm (Finset.inter_eq_right.1 hinter)
  · intro h
    rw [h, Finset.inter_self]
    exact ⟨rfl, Finset.Subset.refl _⟩

theorem right_le_total (selected correct : List String) :
    (choiceCounts selected correct).right ≤ (choiceCounts selected correct).total := by
  have hsubset : selected.toFinset ∩ correct.toFinset ⊆ correct.toFinset :=
    Finset.inter_subset_right
  rw [choiceCounts_eq]
  exact Finset.card_le_card hsubset

theorem total_pos {selected correct : List String} (h : correct ≠ []) :
    0 < (choiceCounts selected correct).total := by
  rw [choiceCounts_eq]
  exact Finset.card_pos.2 ((List.toFinset_nonempty_iff correct).2 h)

theorem choiceScore_nonneg (c : ChoiceCounts) : 0 ≤ choiceScore c := by
  rw [choiceScore, Rat.mkRat_eq_div]
  exact div_nonneg (Nat.cast_nonneg _) (Nat.cast_nonneg _)

/-- What is right but not complete does not have the whole score. -/
theorem choiceScore_lt_one {c : ChoiceCounts} (hright : c.right ≤ c.total) (htotal : 0 < c.total)
    (h : ChoiceCounts.complete c = false) : choiceScore c < 1 := by
  have hless : c.right - c.wrong < c.total := by
    rw [ChoiceCounts.complete, Bool.and_eq_false_iff, beq_eq_false_iff_ne, beq_eq_false_iff_ne] at h
    omega
  rw [choiceScore, Rat.mkRat_eq_div, div_lt_one (by exact_mod_cast htotal)]
  exact_mod_cast hless

end PropTutor.Grading
