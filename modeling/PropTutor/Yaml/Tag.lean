/-
  The tags of the language, and which of them a plain scalar has by its form.

  A plain scalar that is given no tag is a truth value, a number, null, a timestamp or one of
  the two signs for merging and for a default value if it has the form of one, and a text
  otherwise.
-/
import PropTutor.Text.Hex
import PropTutor.Yaml.Timestamp

namespace PropTutor.Yaml

/-- The tags of the language. -/
inductive Tag where
  | null
  | bool
  | int
  | float
  | timestamp
  | str
  | binary
  | seq
  | pairs
  | omap
  | set
  | map
  | merge
  | value
  deriving DecidableEq

namespace Tag

/-- What the names of all tags of the language begin with. -/
def stem : String := "tag:yaml.org,2002:"

/-- The tags by the rest of their names. -/
def names : List (String × Tag) := [
  ("null", null), ("bool", bool), ("int", int), ("float", float), ("timestamp", timestamp),
  ("str", str), ("binary", binary), ("seq", seq), ("pairs", pairs), ("omap", omap), ("set", set),
  ("map", map), ("merge", merge), ("value", value)]

/-- The tag with this name. -/
def ofName? (name : String) : Option Tag :=
  (names.find? fun entry => stem ++ entry.1 == name).map (·.2)

end Tag

/-! ## Forms of plain scalars -/

/-- The words for truth values, in small letters. -/
def truthWords : List (String × Bool) := [
  ("yes", true), ("no", false), ("true", true), ("false", false), ("on", true), ("off", false)]

/-- The letters of a word that is written small, with a capital, or in capitals; nothing for
    another mixture. -/
def smallWord? (cs : List Char) : Option String :=
  let small := cs.map Char.toLower
  let capital := match small with
    | c :: rest => c.toUpper :: rest
    | [] => []
  if cs == small || cs == capital || cs == small.map Char.toUpper then some (String.ofList small)
  else none

/-- The text without a sign in front of it. -/
def unsigned : List Char → List Char
  | '-' :: cs => cs
  | '+' :: cs => cs
  | cs => cs

/-- A digit of decimal numbers, or the underscore that may stand between digits. -/
def isDigitOrGap (c : Char) : Bool := c.isDigit || c == '_'

/-- Digits and underscores that begin with a digit. -/
def isWhole (cs : List Char) : Bool := (cs.head?.any Char.isDigit) && cs.all isDigitOrGap

/-- The parts of a text between colons. -/
def colonParts : List Char → List (List Char)
  | [] => [[]]
  | ':' :: cs => [] :: colonParts cs
  | c :: cs =>
    match colonParts cs with
    | part :: rest => (c :: part) :: rest
    | [] => [[c]]

/-- A part of a number in base sixty: one digit, or two of which the first is below six. -/
def isSixtieth : List Char → Bool
  | [d] => d.isDigit
  | [d, e] => d.isDigit && d.toNat < 54 && e.isDigit
  | _ => false

/-- An integer: binary after `0b`, hexadecimal after `0x`, octal after `0`, decimal, or parts
    in base sixty between colons. -/
def isIntegerForm (cs : List Char) : Bool :=
  match unsigned cs with
  | '0' :: 'b' :: bits =>
    !bits.isEmpty && bits.all fun c => c == '0' || c == '1' || c == '_'
  | '0' :: 'x' :: hex =>
    !hex.isEmpty && hex.all fun c => (Text.hexValue? c).isSome || c == '_'
  | '0' :: octal => octal.all fun c => (c.isDigit && c.toNat < 56) || c == '_'
  | ds =>
    match colonParts ds with
    | whole :: parts => isWhole whole && parts.all isSixtieth
    | [] => false

/-- An exponent: nothing, or a mark, a sign and digits. -/
def isExponentForm : List Char → Bool
  | [] => true
  | mark :: sign :: ds =>
    (mark == 'e' || mark == 'E') && (sign == '+' || sign == '-') && !ds.isEmpty
      && ds.all Char.isDigit
  | _ => false

/-- A floating-point number: digits with a point, possibly an exponent or parts in base sixty
    before the point, or a word for infinity or for no number. Only digits in front of the
    point may have a sign. -/
def isFloatForm (cs : List Char) : Bool :=
  let ds := unsigned cs
  let whole := ds.takeWhile (· != '.')
  match ds.drop whole.length with
  | '.' :: rest =>
    let fraction := rest.takeWhile isDigitOrGap
    let tail := rest.drop fraction.length
    if whole.isEmpty then
      smallWord? rest == some "inf" || (ds == cs
        && (["nan", "NaN", "NAN"].contains (String.ofList rest)
          || (isWhole fraction && isExponentForm tail)))
    else
      match colonParts whole with
      | [_] => isWhole whole && isExponentForm tail
      | first :: parts => isWhole first && parts.all isSixtieth && tail.isEmpty
      | [] => false
  | _ => false

/-- Null: nothing, a tilde, or the word for it. -/
def isNullForm (cs : List Char) : Bool := cs == [] || cs == ['~'] || smallWord? cs == some "null"

/-- A timestamp; without a time, its month and its day have two digits. -/
def isTimestampForm (cs : List Char) : Bool :=
  match readTimestamp? cs with
  | some (_, none) => cs.length == 10
  | some (_, some _) => true
  | none => false

/-- The tag of a plain scalar. A line feed at its end does not count. -/
def Tag.ofPlain (text : String) : Tag :=
  let cs := dropFinalBreak text.toList
  if (smallWord? cs).any fun word => (truthWords.lookup word).isSome then bool
  else if isFloatForm cs then float
  else if isIntegerForm cs then int
  else if cs == ['<', '<'] then merge
  else if isNullForm cs then null
  else if isTimestampForm cs then timestamp
  else if cs == ['='] then value
  else str

end PropTutor.Yaml
