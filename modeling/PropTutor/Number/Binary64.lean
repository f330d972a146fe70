/-
  Binary floating-point numbers of 64 bits, as exact values.

  A finite number is `± m · 2 ^ e` with `m < 2 ^ 53` and `e ≥ -1074`; `m` is at least
  `2 ^ 52` unless `e` is the least exponent, so each number has one form apart from the
  sign of zero. Quotients and decimals are rounded to the nearest number, a tie to the
  even significand, in exact integer arithmetic (`roundDiv_near`).
-/
namespace PropTutor

/-- A binary floating-point number of 64 bits. -/
inductive Binary64 where
  | finite (negative : Bool) (significand : Nat) (exponent : Int)
  | infinite (negative : Bool)
  | nan
  deriving DecidableEq, Inhabited

/-- The quotient rounded to the nearest natural number, a tie to the even one. -/
def roundDiv (num den : Nat) : Nat :=
  let q := num / den
  let twice := 2 * (num % den)
  if twice < den then q else if den < twice then q + 1 else q + q % 2

/-- The rounded quotient is at most half away from the exact one. -/
theorem roundDiv_near (num : Nat) {den : Nat} (h : 0 < den) :
    2 * num ≤ 2 * (roundDiv num den * den) + den ∧
      2 * (roundDiv num den * den) ≤ 2 * num + den := by
  have hdiv := Nat.div_add_mod' num den
  have hmod := Nat.mod_lt num h
  simp only [roundDiv]
  split
  · omega
  · have hsucc : (num / den + 1) * den = num / den * den + den := Nat.succ_mul _ _
    split
    · omega
    · rcases Nat.mod_two_eq_zero_or_one (num / den) with hq | hq
      · rw [hq, Nat.add_zero]; omega
      · rw [hq]; omega

/-- `n · base ^ k`, where a negative exponent counts as zero: of `k` and `-k`, one raises a
    numerator and the other leaves its denominator alone. -/
def raised (base : Nat) (k : Int) (n : Nat) : Nat := n * Nat.pow base k.toNat

namespace Binary64

/-- The exponent of the least numbers. -/
def leastExponent : Int := -1074

/-- The exponent of the greatest numbers. -/
def greatestExponent : Int := 971

/-- Every significand is below this bound, which is `2 ^ 53`. -/
def significandBound : Nat := 0x20000000000000

/-- Zero with a sign. -/
def zero (negative : Bool) : Binary64 := finite negative 0 leastExponent

/-- `num / den` is at least `2 ^ k`. -/
def reaches (num den : Nat) (k : Int) : Bool := raised 2 k den ≤ raised 2 (-k) num

/-- The number nearest to `num / den`, where both are positive. -/
def ofRatio (negative : Bool) (num den : Nat) : Binary64 :=
  if num == 0 then zero negative
  else
    let guess : Int := (num.log2 : Int) - den.log2
    let k := if reaches num den guess then guess else guess - 1
    let e := max (k - 52) leastExponent
    let m := roundDiv (raised 2 (-e) num) (raised 2 e den)
    let (m, e) := if m == significandBound then (m / 2, e + 1) else (m, e)
    if greatestExponent < e then infinite negative else finite negative m e

/-- The number nearest to `digits · 10 ^ scale`. Beyond 400 places the answer is infinite
    or zero without further computation. -/
def ofDecimal (negative : Bool) (digits : Nat) (scale : Int) : Binary64 :=
  if digits == 0 then zero negative
  else if 400 < scale then infinite negative
  else if scale + (digits.log2 / 3 : Nat) < -400 then zero negative
  else ofRatio negative (raised 10 scale digits) (raised 10 (-scale) 1)

/-- The number nearest to a rational number. -/
def ofRat (q : Rat) : Binary64 := ofRatio (q.num < 0) q.num.natAbs q.den

/-- The size of a finite number as a quotient. -/
def ratio (significand : Nat) (exponent : Int) : Nat × Nat :=
  (raised 2 exponent significand, raised 2 (-exponent) 1)

/-- The size of a finite number. -/
def rational? : Binary64 → Option Rat
  | finite negative m e =>
    let (num, den) := ratio m e
    some (mkRat (if negative then -(num : Int) else num) den)
  | _ => none

/-- The number with the opposite sign. -/
def negate : Binary64 → Binary64
  | finite negative m e => finite (!negative) m e
  | infinite negative => infinite (!negative)
  | nan => nan

/-- The rounded sum. Opposite infinities have none, and a sum of zero is positive. -/
def add (x y : Binary64) : Binary64 :=
  match x.rational?, y.rational? with
  | some p, some q => ofRat (p + q)
  | some _, none => y
  | none, some _ => x
  | none, none => if x == y then x else nan

/-- The rounded product with a positive number. -/
def scale (x : Binary64) (q : Rat) : Binary64 :=
  match x.rational? with
  | some p => ofRat (p * q)
  | none => x

/-- A finite number without its fraction. -/
def whole (negative : Bool) (significand : Nat) (exponent : Int) : Int :=
  let (num, den) := ratio significand exponent
  if negative then -((num / den : Nat) : Int) else ((num / den : Nat) : Int)

/-- The number is an integer. -/
def isIntegral : Binary64 → Bool
  | finite _ m e => let (num, den) := ratio m e; num % den == 0
  | _ => false

/-- The number is zero, of either sign. -/
def isZero : Binary64 → Bool
  | finite _ m _ => m == 0
  | _ => false

end Binary64

end PropTutor
