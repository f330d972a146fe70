/-
  Bytes in base64.

  Each character of the alphabet stands for six bits, and four characters make three bytes.
  Other characters are skipped. The text ends with its characters, where four of them have to
  be complete, or at the equals sign that completes four; signs in front of that do not count
  if another character follows them.
-/
namespace PropTutor.Text

/-- The six bits of a character of the alphabet. -/
def sixBits? (c : Char) : Option Nat :=
  let n := c.toNat
  if 65 ≤ n && n ≤ 90 then some (n - 65)
  else if 97 ≤ n && n ≤ 122 then some (n - 71)
  else if 48 ≤ n && n ≤ 57 then some (n + 4)
  else if c == '+' then some 62
  else if c == '/' then some 63
  else none

/-- The state behind some characters: how many of the last four are there, the bits that
    make no byte yet, the equals signs since the last character, and the bytes, last first. -/
structure Base64State where
  count : Nat
  bits : Nat
  signs : Nat
  bytes : List UInt8

namespace Base64State

/-- Take the six bits `n`: but for the first of four, they complete a byte. -/
def take (n : Nat) (s : Base64State) : Base64State :=
  match s.count with
  | 0 => ⟨1, n, 0, s.bytes⟩
  | 1 => ⟨2, n % 16, 0, UInt8.ofNat (s.bits * 4 + n / 16) :: s.bytes⟩
  | 2 => ⟨3, n % 4, 0, UInt8.ofNat (s.bits * 16 + n / 4) :: s.bytes⟩
  | _ => ⟨0, 0, 0, UInt8.ofNat (s.bits * 64 + n) :: s.bytes⟩

/-- The bytes, where the rest of a text follows. -/
def run : List Char → Base64State → Option (List UInt8)
  | [], s => if s.count == 0 then some s.bytes.reverse else none
  | c :: cs, s =>
    if c == '=' then
      if s.count < 2 then run cs s
      else if 4 ≤ s.count + s.signs + 1 then some s.bytes.reverse
      else run cs { s with signs := s.signs + 1 }
    else match sixBits? c with
      | some n => run cs (s.take n)
      | none => run cs s

end Base64State

/-- The bytes that a text spells. -/
def base64? (cs : List Char) : Option (List UInt8) := Base64State.run cs ⟨0, 0, 0, []⟩

end PropTutor.Text
