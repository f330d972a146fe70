/-
  Written integers are read back.

  A natural number is written in ASCII digits, which are neither signs nor blanks, so reading
  takes the whole text for digits; and each digit that is added at the end of a text takes the
  value on as it does when the number is written (`readDigits?_concat`). So reading gives the
  number again (`integer?_toString`).
-/
import PropTutor.Proofs.Text.Blank
import PropTutor.Text.Integer

namespace PropTutor.Text

/-! ## Digits -/

variable {value? : Char → Option Nat} {c : Char} {cs : List Char} {d n : Nat}

theorem moreDigits_concat (hc : c ≠ '_') (hd : value? c = some d) {acc : Nat} {gap : Bool}
    (h : moreDigits value? acc gap cs = some n) :
    moreDigits value? acc gap (cs ++ [c]) = some (10 * n + d) := by
  induction cs generalizing acc gap with
  | nil =>
    cases gap with
    | true => cases h
    | false =>
      obtain rfl : acc = n := Option.some.inj h
      simp only [List.nil_append, moreDigits, beq_eq_false_iff_ne.2 hc, hd, Bool.false_eq_true,
        if_false]
  | cons c' cs ih =>
    rw [List.cons_append, moreDigits]
    rw [moreDigits] at h
    split
    · next hline =>
      rw [if_pos hline] at h
      cases gap with
      | true => cases h
      | false => exact ih h
    · next hline =>
      rw [if_neg hline] at h
      cases hvalue : value? c' with
      | none => rw [hvalue] at h; cases h
      | some d' => rw [hvalue] at h; exact ih h

/-- A digit at the end takes the value of a text on. -/
theorem readDigits?_concat (hc : c ≠ '_') (hd : value? c = some d)
    (h : readDigits? value? cs = some n) : readDigits? value? (cs ++ [c]) = some (10 * n + d) := by
  cases cs with
  | nil => cases h
  | cons c' cs =>
    obtain ⟨first, hfirst, h⟩ := Option.bind_eq_some_iff.1 h
    exact Option.bind_eq_some_iff.2 ⟨first, hfirst, moreDigits_concat hc hd h⟩

/-- The ASCII digits have their values. -/
theorem digitValue?_digitChar (h : n < 10) : digitValue? (Nat.digitChar n) = some n := by
  revert n
  decide

theorem digitChar_ne_underscore (h : n < 10) : Nat.digitChar n ≠ '_' := by
  revert n
  decide

theorem readDigits?_toDigits (n : Nat) : readDigits? digitValue? (Nat.toDigits 10 n) = some n := by
  induction n using Nat.strongRecOn with
  | ind n ih =>
    by_cases hsmall : n < 10
    · rw [Nat.toDigits_of_lt_base hsmall]
      exact Option.bind_eq_some_iff.2 ⟨n, digitValue?_digitChar hsmall, rfl⟩
    · have hlast : n % 10 < 10 := Nat.mod_lt n (by decide)
      have hfront : readDigits? digitValue? (Nat.toDigits 10 (n / 10)) = some (n / 10) :=
        ih (n / 10) (by omega)
      rw [Nat.toDigits_of_base_le (by decide) (Nat.not_lt.1 hsmall),
        readDigits?_concat (digitChar_ne_underscore hlast) (digitValue?_digitChar hlast) hfront,
        Nat.div_add_mod]

/-! ## Numbers -/

theorem isDigit_of_mem_toString (h : c ∈ (toString n).toList) : c.isDigit = true := by
  rw [Nat.toString_eq_repr, Nat.toList_repr] at h
  exact Nat.isDigit_of_mem_toDigits (by decide) (by decide) h

/-- A digit is no blank and no sign. -/
theorem of_isDigit (h : c.isDigit = true) : isIntegerPadding c = false ∧ c ≠ '-' ∧ c ≠ '+' := by
  have hrange : 48 ≤ c.toNat ∧ c.toNat ≤ 57 := Char.isDigit_iff_toNat.1 h
  refine ⟨?_, ?_, ?_⟩
  · rw [← Bool.not_eq_true]
    simp only [isIntegerPadding, isBlank, Bool.and_eq_true, Bool.or_eq_true, decide_eq_true_eq,
      beq_iff_eq]
    omega
  · rintro rfl
    exact absurd hrange (by decide)
  · rintro rfl
    exact absurd hrange (by decide)

theorem readSigned?_of_unsigned {read? : List Char → Option Nat}
    (h : ∀ c ∈ cs, c ≠ '-' ∧ c ≠ '+') :
    readSigned? read? cs = (read? cs).map fun n => (n : Int) := by
  unfold readSigned?
  split
  · exact absurd rfl (h '-' (List.mem_cons_self ..)).1
  · exact absurd rfl (h '+' (List.mem_cons_self ..)).2
  · rfl

/-- A natural number is read as it was written. -/
theorem integer?_toString (n : Nat) : integer? (toString n) = some (n : Int) := by
  have hdigits : ∀ c ∈ (toString n).toList, isIntegerPadding c = false ∧ c ≠ '-' ∧ c ≠ '+' :=
    fun c hc => of_isDigit (isDigit_of_mem_toString hc)
  rw [integer?, trimWith_eq_self fun c hc => (hdigits c hc).1,
    readSigned?_of_unsigned fun c hc => (hdigits c hc).2,
    Nat.toString_eq_repr, Nat.toList_repr, readDigits?_toDigits]
  rfl

end PropTutor.Text
