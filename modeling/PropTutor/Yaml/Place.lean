/-
  Places in a YAML text.

  A place knows the characters from there on, how many characters and line breaks lie before
  it, and its column. Line breaks are the line feed, the next-line character and the two
  Unicode separators.
-/
namespace PropTutor.Yaml

/-- The character ends a line. -/
def isBreak (c : Char) : Bool :=
  c == '\n' || c.toNat == 0x85 || c.toNat == 0x2028 || c.toNat == 0x2029

/-- The character may stand in a YAML text. -/
def isAllowed (c : Char) : Bool :=
  let n := c.toNat
  n == 9 || n == 10 || n == 13 || (0x20 ≤ n && n ≤ 0x7E) || n == 0x85
    || (0xA0 ≤ n && n ≤ 0xD7FF) || (0xE000 ≤ n && n ≤ 0xFFFD) || 0x10000 ≤ n

/-- A line ends here, or the text does. -/
def endsLine : Option Char → Bool
  | none => true
  | some c => isBreak c

/-- A word ends here at a space, a line end or the end of the text. -/
def endsWord (o : Option Char) : Bool := endsLine o || o == some ' '

/-- A word ends here, a tab counting as a space. -/
def endsPlain (o : Option Char) : Bool := endsWord o || o == some '\t'

/-- Line ends in one form: a carriage return becomes a line feed, alone or before one. -/
def unifyBreaks : List Char → List Char
  | '\r' :: '\n' :: cs => '\n' :: unifyBreaks cs
  | '\r' :: cs => '\n' :: unifyBreaks cs
  | c :: cs => c :: unifyBreaks cs
  | [] => []

/-- A place in a text. -/
structure Place where
  rest : List Char
  index : Nat
  line : Nat
  column : Nat

namespace Place

/-- The start of a text. -/
def start (cs : List Char) : Place := ⟨cs, 0, 0, 0⟩

/-- The character here or `k` characters further on. -/
def peek (k : Nat) (p : Place) : Option Char := p.rest[k]?

/-- The next place. A byte order mark takes no column. -/
def next (p : Place) : Place :=
  match p.rest with
  | [] => p
  | c :: cs =>
    if isBreak c then ⟨cs, p.index + 1, p.line + 1, 0⟩
    else ⟨cs, p.index + 1, p.line, if c.toNat == 0xFEFF then p.column else p.column + 1⟩

/-- The place `n` characters further on. -/
def skip : Nat → Place → Place
  | 0, p => p
  | n + 1, p => skip n p.next

/-- The place behind the characters here that satisfy `q`. -/
def skipWhile (q : Char → Bool) (p : Place) : Place := p.skip (p.rest.takeWhile q).length

/-- The rest of the line and the place behind it. -/
def takeLine (p : Place) : List Char × Place :=
  let line := p.rest.takeWhile (!isBreak ·)
  (line, p.skip line.length)

/-- The line break here and the place behind it; a next-line character reads as a line
    feed. -/
def takeBreak? (p : Place) : Option (Char × Place) :=
  match p.rest with
  | c :: _ =>
    if isBreak c then some (if c.toNat == 0x85 then '\n' else c, p.next) else none
  | [] => none

/-- A line of three hyphens or three dots begins here. -/
def atMarker (p : Place) : Bool :=
  (['-', '-', '-'].isPrefixOf p.rest || ['.', '.', '.'].isPrefixOf p.rest) && endsPlain (p.peek 3)

/-- The place behind spaces and a comment. -/
def skipComment (p : Place) : Place :=
  let p := p.skipWhile (· == ' ')
  if p.peek 0 == some '#' then p.takeLine.2 else p

end Place

end PropTutor.Yaml
