/-
  The shortest decimal text of a binary floating-point number.

  Of the decimals that read back as the number, one with the fewest digits is written,
  and among those the nearest, a tie going to the even digit. On the grid of decimals with a
  given number of digits only the two neighbours of the number can be nearest, so only these
  are tried, for one digit, two digits and so on; seventeen digits always suffice.
-/
import PropTutor.Number.Binary64

namespace PropTutor

namespace Binary64

/-- `num / den` lies below `10 ^ p`. -/
def belowPower (num den : Nat) (p : Int) : Bool := raised 10 (-p) num < raised 10 p den

/-- The least `p` with `m · 2 ^ e < 10 ^ p`, for a positive number. The logarithm of two is
    close to 0.30103, which leaves four candidates. -/
def decimalPlace (m : Nat) (e : Int) : Int :=
  let (num, den) := ratio m e
  let guess := Int.fdiv (((m.log2 : Int) + e) * 30103) 100000
  ([guess - 1, guess, guess + 1].find? (belowPower num den ·)).getD (guess + 2)

/-- The neighbours of `num / den` on the grid of multiples of `10 ^ scale`, the nearer one
    first; of two that are equally near, the even one. -/
def neighbours (num den : Nat) (scale : Int) : List Nat :=
  let n := raised 10 (-scale) num
  let d := raised 10 scale den
  let low := n / d
  if roundDiv n d == low then [low, low + 1] else [low + 1, low]

/-- The digits and the scale of the shortest decimal that reads back as the positive number
    `m · 2 ^ e`. -/
def shortest (m : Nat) (e : Int) : Nat × Int :=
  let (num, den) := ratio m e
  let place := decimalPlace m e
  let attempt (count : Nat) : Option (Nat × Int) :=
    let scale := place - (count : Int)
    ((neighbours num den scale).find? fun d => ofDecimal false d scale == finite false m e).map
      (·, scale)
  ((List.range 17).findSome? fun i => attempt (i + 1)).getD
    ((neighbours num den (place - 17)).headD 0, place - 17)

end Binary64

/-- How decimals are laid out: exponents from `firstPositional` up to `lastPositional` are
    written positionally, others with a mark and at least `exponentWidth` digits. -/
structure DecimalLayout where
  firstPositional : Int
  lastPositional : Int
  exponentWidth : Nat

namespace DecimalLayout

/-- Drop the zeros at the end of a list of digits. -/
def dropTrailingZeros (ds : List Char) : List Char := (ds.reverse.dropWhile (· == '0')).reverse

/-- The exponent with its sign and at least `width` digits. -/
def exponentText (width : Nat) (n : Int) : String :=
  let ds := toString n.natAbs
  (if n < 0 then "-" else "+") ++ String.ofList (List.replicate (width - ds.length) '0') ++ ds

/-- The digits `ds` with the decimal point after the first `point` of them, filled up with
    zeros; at least one digit stands on each side. -/
def positional (ds : List Char) (point : Int) : String :=
  if point ≤ 0 then
    "0." ++ String.ofList (List.replicate (-point).toNat '0' ++ ds)
  else
    let n := point.toNat
    let whole := ds.take n ++ List.replicate (n - ds.length) '0'
    let rest := ds.drop n
    String.ofList (whole ++ '.' :: if rest.isEmpty then ['0'] else rest)

/-- The text of `digits · 10 ^ scale`. -/
def render (layout : DecimalLayout) (digits : Nat) (scale : Int) : String :=
  let all := (toString digits).toList
  let point := scale + all.length
  let ds := dropTrailingZeros all
  let exponent := point - 1
  if layout.firstPositional ≤ exponent && exponent ≤ layout.lastPositional then
    positional ds point
  else
    match ds with
    | [] => "0.0"
    | d :: rest =>
      String.ofList (d :: if rest.isEmpty then [] else '.' :: rest)
        ++ "e" ++ exponentText layout.exponentWidth exponent

/-- Numbers are written positionally from 0.0001 up to 16 digits before the point. -/
def plain : DecimalLayout := ⟨-4, 15, 2⟩

end DecimalLayout

/-- The text of a number: the shortest decimal that reads back. -/
def Binary64.text : Binary64 → String
  | finite negative m e =>
    let sign := if negative then "-" else ""
    if m == 0 then sign ++ "0.0"
    else
      let (digits, scale) := shortest m e
      sign ++ DecimalLayout.plain.render digits scale
  | infinite negative => if negative then "-inf" else "inf"
  | nan => "nan"

end PropTutor
