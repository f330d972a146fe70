/-
  Trimming.

  Trimming takes away characters at the ends only, and leaves none to take away there
  (`strip_strip`). A list without such characters stays as it is, and where all of them are
  dropped anyway it makes no difference (`filter_trimWith`).
-/
import Mathlib.Data.List.DropRight
import PropTutor.Text.Blank

namespace PropTutor.Text

variable {p : Char → Bool} {cs : List Char}

theorem trimWith_eq (p : Char → Bool) (cs : List Char) :
    trimWith p cs = (cs.dropWhile p).rdropWhile p := rfl

theorem trimWith_eq_self (h : ∀ c ∈ cs, p c = false) : trimWith p cs = cs := by
  have hfront : cs.dropWhile p = cs :=
    List.dropWhile_eq_self_iff.2 fun hl => Bool.eq_false_iff.1 (h _ (List.getElem_mem hl))
  rw [trimWith_eq, hfront, List.rdropWhile_eq_self_iff]
  exact fun hne => Bool.eq_false_iff.1 (h _ (List.getLast_mem hne))

/-- Trimming the end brings nothing to the front that would have to be dropped. -/
theorem dropWhile_trimWith (p : Char → Bool) (cs : List Char) :
    (trimWith p cs).dropWhile p = trimWith p cs := by
  rw [List.dropWhile_eq_self_iff, trimWith_eq]
  intro hl
  have hinitial := List.rdropWhile_prefix p (cs.dropWhile p)
  rw [hinitial.getElem hl]
  exact List.dropWhile_eq_self_iff.1 (List.dropWhile_idempotent p cs) _

theorem trimWith_trimWith (p : Char → Bool) (cs : List Char) :
    trimWith p (trimWith p cs) = trimWith p cs := by
  rw [trimWith_eq p (trimWith p cs), dropWhile_trimWith, trimWith_eq, List.rdropWhile_idempotent]

theorem strip_strip (t : String) : strip (strip t) = strip t := by
  rw [strip, strip, String.toList_ofList, trimWith_trimWith]

theorem filter_dropWhile (p : Char → Bool) (cs : List Char) :
    (cs.dropWhile p).filter (!p ·) = cs.filter (!p ·) := by
  induction cs with
  | nil => rfl
  | cons c cs ih =>
    rw [List.dropWhile_cons]
    split
    · next h => rw [ih, List.filter_cons_of_neg (by simp [h])]
    · rfl

/-- What is trimmed at the ends would be filtered out anyway. -/
theorem filter_trimWith (p : Char → Bool) (cs : List Char) :
    (trimWith p cs).filter (!p ·) = cs.filter (!p ·) := by
  rw [trimWith, List.filter_reverse, filter_dropWhile, List.filter_reverse, List.reverse_reverse,
    filter_dropWhile]

end PropTutor.Text
