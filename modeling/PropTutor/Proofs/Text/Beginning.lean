/-
  Texts are told apart by their beginnings.

  Of two beginnings of one text the shorter begins the longer. So a text never begins with what is
  apart from one of its beginnings (`Apart.append`), and this needs a look at the two only: at
  their characters (`apart_ofList`), or at a number in front (`apart_number`).
-/
import PropTutor.Proofs.Text.Integer

namespace PropTutor.Text

/-- The text begins with `start`. -/
def startsWith (text start : String) : Bool := start.toList.isPrefixOf text.toList

/-- Neither text begins with the other one. -/
structure Apart (text other : String) : Prop where
  left : startsWith text other = false
  right : startsWith other text = false

theorem startsWith_iff {text start : String} :
    startsWith text start = true ↔ start.toList <+: text.toList :=
  List.isPrefixOf_iff_prefix

theorem startsWith_append (start rest : String) : startsWith (start ++ rest) start = true := by
  rw [startsWith_iff, String.toList_append]
  exact List.prefix_append _ _

/-- Whether texts are apart can be told from their characters. -/
theorem apart_ofList {cs cs' : List Char} (h : cs'.isPrefixOf cs = false)
    (h' : cs.isPrefixOf cs' = false) : Apart (String.ofList cs) (String.ofList cs') := by
  constructor
  · rw [startsWith, String.toList_ofList, String.toList_ofList, h]
  · rw [startsWith, String.toList_ofList, String.toList_ofList, h']

/-- What is added at the end brings no texts together. -/
theorem Apart.append {text other : String} (h : Apart text other) (rest : String) :
    Apart (text ++ rest) other := by
  have hleft := Bool.eq_false_iff.1 h.left
  have hright := Bool.eq_false_iff.1 h.right
  rw [Ne, startsWith_iff] at hleft hright
  have hrest : text.toList <+: (text ++ rest).toList :=
    startsWith_iff.1 (startsWith_append text rest)
  constructor
  · rw [Bool.eq_false_iff, Ne, startsWith_iff]
    intro hother
    exact (List.prefix_or_prefix_of_prefix hrest hother).elim hright hleft
  · rw [Bool.eq_false_iff, Ne, startsWith_iff]
    exact fun hother => hright (hrest.trans hother)

/-- A written number and a text without a digit in front are apart. -/
theorem apart_number {other : String} {c : Char} {cs : List Char} (n : Nat)
    (hother : other.toList = c :: cs) (hc : c.isDigit = false) : Apart (toString n) other := by
  obtain ⟨d, ds, hdigits⟩ : ∃ d ds, (toString n).toList = d :: ds := by
    rw [Nat.toString_eq_repr, Nat.toList_repr]
    exact List.exists_cons_of_ne_nil Nat.toDigits_ne_nil
  have hd : d.isDigit = true := isDigit_of_mem_toString (hdigits ▸ List.mem_cons_self ..)
  have hne : d ≠ c := by
    rintro rfl
    rw [hd] at hc
    cases hc
  constructor
  · rw [Bool.eq_false_iff, Ne, startsWith_iff, hdigits, hother, List.cons_prefix_cons]
    exact fun h => hne h.1.symm
  · rw [Bool.eq_false_iff, Ne, startsWith_iff, hdigits, hother, List.cons_prefix_cons]
    exact fun h => hne h.1

end PropTutor.Text
