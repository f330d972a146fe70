/-
  Integers as stored records spell them.

  A strict numeral is an optional minus and ASCII digits without leading zeros. A record may
  spell an integer more loosely: with blanks around it, a plus or zeros in front of it, a
  point and zeros after it, and single underscores in it. The loose parts are taken off from
  the outside to the inside, and a strict numeral has to remain. Leading zeros may stand in
  front of a minus or after it, and underscores are skipped along with them.
-/
import PropTutor.Text.Integer

namespace PropTutor.Text

/-- Why a text is no numeral. -/
inductive NumeralFault where
  | malformed
  | tooLong
  deriving DecidableEq

/-- The greatest number of characters in a strict numeral, a minus included. -/
def numeralLimit : Nat := 4300

/-- Read digits without leading zeros, of which there may be `room`. Too many digits count
    before anything that follows them. -/
def strictNatural (room : Nat) (cs : List Char) : Except NumeralFault Nat :=
  let ds := cs.takeWhile Char.isDigit
  if ds.head? == some '0' then if cs == ['0'] then .ok 0 else .error .malformed
  else if room < ds.length then .error .tooLong
  else if ds.isEmpty || ds.length < cs.length then .error .malformed
  else .ok (digitsValue ds)

/-- Read a strict numeral. -/
def strictInteger : List Char → Except NumeralFault Int
  | '-' :: cs => (strictNatural (numeralLimit - 1) cs).map fun n => -(n : Int)
  | cs => (strictNatural numeralLimit cs).map fun n => (n : Int)

/-- Take off a plus; it must not stand before a minus. -/
def withoutPlus? : List Char → Option (List Char)
  | '+' :: '-' :: _ => none
  | '+' :: cs => some cs
  | cs => some cs

/-- Skip zeros and underscores, where `last` is the character before them. Another digit or a
    minus has to follow, or else a point or the end, before which the last one skipped is
    kept. -/
def skipZeros? (last : Char) : List Char → Option (List Char)
  | [] => some [last]
  | c :: cs =>
    if c == '0' || c == '_' then skipZeros? c cs
    else if c == '.' then some (last :: c :: cs)
    else if c == '-' || c.isDigit then some (c :: cs)
    else none

/-- Take off leading zeros, in front of a minus or after it. A text that starts with neither a
    digit nor a minus spells no integer. -/
def withoutZeros? : List Char → Option (List Char)
  | '0' :: cs => skipZeros? '0' cs
  | '-' :: '0' :: cs => (skipZeros? '0' cs).map ('-' :: ·)
  | c :: cs => if c == '-' || c.isDigit then some (c :: cs) else none
  | [] => none

/-- Take off a point that one or more zeros and nothing else follow. -/
def withoutFraction (cs : List Char) : List Char :=
  let whole := cs.takeWhile (· != '.')
  match cs.drop whole.length with
  | _ :: zeros => if !zeros.isEmpty && zeros.all (· == '0') then whole else cs
  | [] => cs

/-- Two underscores stand side by side. -/
def hasWideGap : List Char → Bool
  | '_' :: '_' :: _ => true
  | _ :: cs => hasWideGap cs
  | [] => false

/-- Take out the underscores, if each stands alone and none at an end. -/
def withoutGaps (cs : List Char) : List Char :=
  if cs.head? == some '_' || cs.getLast? == some '_' || hasWideGap cs then cs
  else cs.filter (· != '_')

/-- The integer that a loose numeral spells. -/
def looseInteger (s : String) : Except NumeralFault Int :=
  match (withoutPlus? (trimWith isIntegerPadding s.toList)).bind withoutZeros? with
  | some cs => strictInteger (withoutGaps (withoutFraction cs))
  | none => .error .malformed

/-- Without a gap there is nothing to take out. -/
theorem withoutGaps_of_not_mem {cs : List Char} (h : '_' ∉ cs) : withoutGaps cs = cs := by
  unfold withoutGaps
  split
  · rfl
  · exact List.filter_eq_self.2 fun c hc => bne_iff_ne.2 fun e => h (e ▸ hc)

end PropTutor.Text
