/-
  Quoted texts, as messages show them.

  A quoted text stands between apostrophes, or between double quotes if it holds an
  apostrophe and no double quote. The backslash, the quote itself, the line ends and the
  tab are written with a backslash, and every other unprintable character with its code
  point in two, four or eight hexadecimal digits. Quoted bytes have a letter in front, and
  only ASCII stands for itself in them.
-/
import PropTutor.Text.Hex
import PropTutor.Text.Printable

namespace PropTutor.Text

/-- The quote for a text. -/
def quoteFor (cs : List Char) : Char :=
  if cs.contains '\'' && !cs.contains '"' then '"' else '\''

/-- The form of one character between two quotes `q`, where `plain` tells which characters
    stand for themselves. -/
def quotedChar (plain : Char → Bool) (q c : Char) : List Char :=
  if c == q || c == '\\' then ['\\', c]
  else if c == '\n' then ['\\', 'n']
  else if c == '\r' then ['\\', 'r']
  else if c == '\t' then ['\\', 't']
  else if plain c then [c]
  else if c.toNat < 0x100 then '\\' :: 'x' :: hexText 2 c.toNat
  else if c.toNat < 0x10000 then '\\' :: 'u' :: hexText 4 c.toNat
  else '\\' :: 'U' :: hexText 8 c.toNat

/-- Characters in quotes. -/
def quotedChars (plain : Char → Bool) (cs : List Char) : List Char :=
  let q := quoteFor cs
  q :: cs.flatMap (quotedChar plain q) ++ [q]

/-- The quoted form of a text. -/
def quoted (s : String) : String := String.ofList (quotedChars isPrintable s.toList)

/-- The quoted form of bytes. -/
def quotedBytes (bs : List UInt8) : String :=
  let cs := bs.map fun b => Char.ofNat b.toNat
  String.ofList ('b' :: quotedChars (fun c => 32 ≤ c.toNat && c.toNat < 127) cs)

/-- The first characters of a text, at most so many. -/
def shortened (limit : Nat) (s : String) : String := String.ofList (s.toList.take limit)

end PropTutor.Text
