/-
  Integers written in digits.

  An integer text is an optional sign and one or more decimal digits of any script. A
  single underscore may stand between two digits, and blanks may surround the whole. The
  information separators U+001C to U+001F do not count as blanks here. The number of digits
  is not limited, other than in the numerals of stored records (`numeralLimit`).
-/
import PropTutor.Text.Blank
import PropTutor.Text.Digit

namespace PropTutor.Text

/-- A blank that may surround an integer. -/
def isIntegerPadding (c : Char) : Bool := isBlank c && !(28 ≤ c.toNat && c.toNat ≤ 31)

/-- Read digits after at least one digit: `acc` is the value so far, and `gap` says that an
    underscore was read last. -/
def moreDigits (value? : Char → Option Nat) (acc : Nat) (gap : Bool) : List Char → Option Nat
  | [] => if gap then none else some acc
  | c :: cs =>
    if c == '_' then if gap then none else moreDigits value? acc true cs
    else match value? c with
      | some d => moreDigits value? (10 * acc + d) false cs
      | none => none

/-- Read one or more digits with single underscores between them. -/
def readDigits? (value? : Char → Option Nat) : List Char → Option Nat
  | [] => none
  | c :: cs => (value? c).bind fun d => moreDigits value? d false cs

/-- Read an optional sign and the number after it. -/
def readSigned? (read? : List Char → Option Nat) : List Char → Option Int
  | '-' :: cs => (read? cs).map fun n => -(n : Int)
  | '+' :: cs => (read? cs).map fun n => (n : Int)
  | cs => (read? cs).map fun n => (n : Int)

/-- The integer that a text spells. -/
def integer? (s : String) : Option Int :=
  readSigned? (readDigits? digitValue?) (trimWith isIntegerPadding s.toList)

end PropTutor.Text
