/-
  Decimal numbers in texts.

  A decimal is an optional sign and digits of any script, with a point before, between or
  behind them, and possibly an exponent; or it is a word for infinity or for no number, in
  either case of letters. Blanks may surround the whole, as around an integer.
-/
import PropTutor.Number.Binary64
import PropTutor.Text.Integer

namespace PropTutor.Text

/-- The text without its sign, and whether the sign is a minus. -/
def splitSign : List Char → Bool × List Char
  | '-' :: cs => (true, cs)
  | '+' :: cs => (false, cs)
  | cs => (false, cs)

/-- The values of the digits at the head of a text, and what follows them. -/
def splitDigits : List Char → List Nat × List Char
  | [] => ([], [])
  | c :: cs =>
    match digitValue? c with
    | some d => (d :: (splitDigits cs).1, (splitDigits cs).2)
    | none => ([], c :: cs)

/-- The number that decimal digits with these values spell. -/
def numberOf (ds : List Nat) : Nat := ds.foldl (fun n d => 10 * n + d) 0

/-- The exponent at the end of a decimal: nothing, or a mark, an optional sign and digits. -/
def exponent? : List Char → Option Int
  | [] => some 0
  | mark :: cs =>
    let (negative, cs) := splitSign cs
    match splitDigits cs with
    | (d :: ds, []) =>
      if mark == 'e' || mark == 'E' then
        let n : Int := numberOf (d :: ds)
        some (if negative then -n else n)
      else none
    | _ => none

/-- The number that a text spells. -/
def decimal? (s : String) : Option Binary64 :=
  let (negative, cs) := splitSign (trimWith isIntegerPadding s.toList)
  let word := String.ofList (cs.map Char.toLower)
  if word == "inf" || word == "infinity" then some (.infinite negative)
  else if word == "nan" then some .nan
  else
    let (whole, rest) := splitDigits cs
    let (fraction, rest) := match rest with
      | '.' :: rest => splitDigits rest
      | _ => ([], rest)
    if whole.isEmpty && fraction.isEmpty then none
    else (exponent? rest).map fun e =>
      Binary64.ofDecimal negative (numberOf (whole ++ fraction)) (e - (fraction.length : Int))

end PropTutor.Text
