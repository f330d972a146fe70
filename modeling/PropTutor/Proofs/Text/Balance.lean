/-
  Matching parentheses.

  A row of items in which some open and some close something is balanced if it closes all that it
  opens, and nothing else (`Balanced`). Two parentheses match if what stands between them is
  balanced. So a matching pair in a row of balanced pieces is in one of them (`pair_cases`), and
  one in a balanced piece in parentheses is in the piece, if it is not those parentheses
  (`pair_in_brackets`).
-/
namespace PropTutor

section

variable {α : Type} {side : α → Int}

/-- How much more a row opens than it closes. -/
def net (side : α → Int) : List α → Int
  | [] => 0
  | x :: xs => side x + net side xs

theorem net_append (xs ys : List α) : net side (xs ++ ys) = net side xs + net side ys := by
  induction xs with
  | nil => exact (Int.zero_add _).symm
  | cons x xs ih => rw [List.cons_append, net, net, ih, Int.add_assoc]

/-- What stands in front of a place in the row closes no more than it opens, and the whole row
    closes as much. -/
structure Balanced (side : α → Int) (xs : List α) : Prop where
  net_eq : net side xs = 0
  nonneg : ∀ before after, xs = before ++ after → 0 ≤ net side before

namespace Balanced

variable {xs ys : List α}

theorem of_flat (h : ∀ x ∈ xs, side x = 0) : Balanced side xs := by
  have hnet (ys : List α) (hys : ∀ x ∈ ys, side x = 0) : net side ys = 0 := by
    induction ys with
    | nil => rfl
    | cons y ys ih =>
      obtain ⟨hy, hys⟩ := List.forall_mem_cons.1 hys
      rw [net, hy, ih hys, Int.zero_add]
  refine ⟨hnet xs h, fun before after heq => ?_⟩
  have hbefore := hnet before fun x hx => h x (heq ▸ List.mem_append_left after hx)
  exact Int.le_of_eq hbefore.symm

theorem append (hx : Balanced side xs) (hy : Balanced side ys) : Balanced side (xs ++ ys) := by
  refine ⟨?_, fun before after heq => ?_⟩
  · rw [net_append, hx.net_eq, hy.net_eq, Int.zero_add]
  · rcases List.append_eq_append_iff.1 heq with ⟨mid, rfl, hmid⟩ | ⟨mid, hmid, -⟩
    · rw [net_append, hx.net_eq, Int.zero_add]
      exact hy.nonneg mid after hmid
    · exact hx.nonneg before mid hmid

variable {o c : α} (ho : side o = 1) (hc : side c = -1)

include ho hc

theorem wrap (hx : Balanced side xs) : Balanced side (o :: (xs ++ [c])) := by
  refine ⟨?_, fun before after heq => ?_⟩
  · rw [net, net_append, hx.net_eq, net, net, ho, hc]
    rfl
  · cases before with
    | nil => exact Int.le_refl 0
    | cons x before =>
      obtain ⟨rfl, htail⟩ := List.cons.inj heq
      rw [net, ho]
      rcases List.append_eq_append_iff.1 htail with ⟨mid, rfl, hmid⟩ | ⟨mid, hmid, -⟩
      · -- at most the closing item is taken behind the piece
        rw [net_append, hx.net_eq]
        cases mid with
        | nil =>
          rw [net]
          decide
        | cons y mid =>
          obtain ⟨rfl, hnil⟩ := List.cons.inj hmid
          obtain ⟨rfl, -⟩ := List.append_eq_nil_iff.1 hnil.symm
          rw [net, net, hc]
          decide
      · have hbefore := hx.nonneg before mid hmid
        omega

/-! ## Matching pairs -/

variable {rest u v w : List α}

omit hc in
/-- A matching pair in a balanced piece and what stands behind it is in the piece or behind it. -/
theorem pair_cases (hx : Balanced side xs) (hv : Balanced side v)
    (h : xs ++ rest = u ++ o :: (v ++ c :: w)) :
    (∃ w', xs = u ++ o :: (v ++ c :: w') ∧ w = w' ++ rest) ∨
      ∃ u', u = xs ++ u' ∧ rest = u' ++ o :: (v ++ c :: w) := by
  rcases List.append_eq_append_iff.1 h with ⟨u', hu, hrest⟩ | ⟨tail, rfl, hpair⟩
  · exact .inr ⟨u', hu, hrest⟩
  cases tail with
  | nil =>
    rw [List.append_nil]
    exact .inr ⟨[], (List.append_nil u).symm, hpair.symm⟩
  | cons x tail =>
    obtain ⟨rfl, htail⟩ := List.cons.inj hpair
    have hu := hx.nonneg u _ rfl
    have hnet := hx.net_eq
    rw [net_append, net, ho] at hnet
    -- the pair cannot end behind the piece, which would open more than it closes then
    rcases List.append_eq_append_iff.1 htail with ⟨w', rfl, hw⟩ | ⟨more, hmore, -⟩
    · cases w' with
      | nil =>
        rw [List.append_nil, hv.net_eq] at hnet
        omega
      | cons y w' =>
        obtain ⟨rfl, rfl⟩ := List.cons.inj hw
        exact .inl ⟨w', rfl, rfl⟩
    · have htail := hv.nonneg tail more hmore
      omega

/-- A matching pair in a balanced piece in parentheses is this pair of parentheses, or it is in the
    piece. -/
theorem pair_in_brackets (hx : Balanced side xs) (hv : Balanced side v)
    (h : o :: (xs ++ [c]) = u ++ o :: (v ++ c :: w)) :
    u = [] ∧ v = xs ∧ w = [] ∨
      ∃ u' w', u = o :: u' ∧ w = w' ++ [c] ∧ xs = u' ++ o :: (v ++ c :: w') := by
  cases u with
  | nil =>
    have htail : xs ++ [c] = v ++ c :: w := (List.cons.inj h).2
    rcases List.append_eq_append_iff.1 htail with ⟨more, rfl, hmore⟩ | ⟨more, rfl, hmore⟩
    · cases more with
      | nil =>
        obtain ⟨-, rfl⟩ := List.cons.inj hmore
        exact .inl ⟨rfl, List.append_nil _, rfl⟩
      | cons y more =>
        obtain ⟨-, hnil⟩ := List.cons.inj hmore
        cases List.append_ne_nil_of_right_ne_nil more (List.cons_ne_nil _ _) hnil.symm
    · cases more with
      | nil =>
        obtain ⟨-, rfl⟩ := List.cons.inj hmore
        exact .inl ⟨rfl, (List.append_nil _).symm, rfl⟩
      | cons y more =>
        -- the piece would close more than it opens
        obtain ⟨rfl, -⟩ := List.cons.inj hmore
        have hclosed := hx.nonneg (v ++ [c]) more (by rw [List.append_assoc]; rfl)
        rw [net_append, hv.net_eq, net, net, hc] at hclosed
        omega
  | cons y u =>
    obtain ⟨rfl, htail⟩ := List.cons.inj h
    rcases pair_cases ho hx hv htail with ⟨w', hpiece, rfl⟩ | ⟨u', rfl, hrest⟩
    · exact .inr ⟨u, w', rfl, rfl, hpiece⟩
    · cases u' with
      | nil =>
        obtain ⟨rfl, -⟩ := List.cons.inj hrest
        rw [ho] at hc
        cases hc
      | cons z u' =>
        obtain ⟨-, hnil⟩ := List.cons.inj hrest
        cases List.append_ne_nil_of_right_ne_nil u' (List.cons_ne_nil _ _) hnil.symm

end Balanced

end

namespace Text

/-- What a character does: a parenthesis opens or closes. -/
def side : Char → Int
  | '(' => 1
  | ')' => -1
  | _ => 0

/-- The parentheses between `before` and `after` are a matching pair of the text. -/
structure MatchingPair (text before inner after : String) : Prop where
  text_eq : text = before ++ "(" ++ inner ++ ")" ++ after
  balanced : Balanced side inner.toList

end Text

end PropTutor
