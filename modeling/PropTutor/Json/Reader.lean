/-
  Reading JSON.

  The reader follows the text from left to right and stops at the first fault, which it
  reports with its offset. Beyond the standard it takes `NaN`, `Infinity` and `-Infinity`
  as numbers. A number with a fraction or an exponent is a floating-point number; an integer
  may have any number of digits.

  Values nest, so the functions for values, items and members call each other; each call
  uses up one unit of fuel, and a text has fewer values than characters.
-/
import PropTutor.Json.Basic
import PropTutor.Keyed
import PropTutor.Text.Digit
import PropTutor.Text.Hex

namespace PropTutor

/-- What is wrong with a JSON text. -/
inductive JsonFault where
  | missingValue
  | missingName
  | missingColon
  | missingComma
  | extraData
  | unterminated
  | controlCharacter
  | badEscape
  | badUnicodeEscape
  | byteOrderMark
  deriving DecidableEq

/-- The wording of a fault. -/
def JsonFault.message : JsonFault → String
  | missingValue => "Expecting value"
  | missingName => "Expecting property name enclosed in double quotes"
  | missingColon => "Expecting ':' delimiter"
  | missingComma => "Expecting ',' delimiter"
  | extraData => "Extra data"
  | unterminated => "Unterminated string starting at"
  | controlCharacter => "Invalid control character at"
  | badEscape => "Invalid \\escape"
  | badUnicodeEscape => "Invalid \\uXXXX escape"
  | byteOrderMark => "Unexpected UTF-8 BOM (decode using utf-8-sig)"

/-- A fault with its offset, and the line and column of that offset, counted from one. -/
structure JsonError where
  fault : JsonFault
  pos : Nat
  line : Nat
  column : Nat
  deriving DecidableEq

namespace JsonError

/-- The fault at an offset of the text. -/
def inText (text : List Char) (fault : JsonFault) (pos : Nat) : JsonError :=
  let before := text.take pos
  ⟨fault, pos, before.count '\n' + 1, (before.reverse.takeWhile (· != '\n')).length + 1⟩

/-- The wording of the error. -/
def message (e : JsonError) : String :=
  e.fault.message ++ ": line " ++ toString e.line ++ " column " ++ toString e.column
    ++ " (char " ++ toString e.pos ++ ")"

end JsonError

namespace Json

/-- The place of a reader: an offset and the characters from there on. -/
structure Cursor where
  pos : Nat
  rest : List Char

/-- What a reader answers: a value and the place behind it, or a fault and its offset. -/
abbrev Reading (α : Type) := Except (JsonFault × Nat) (α × Cursor)

/-- A character that may stand between the parts of a text. -/
def isSpace (c : Char) : Bool := c == ' ' || c == '\t' || c == '\n' || c == '\r'

namespace Cursor

/-- The place `n` characters further on. -/
def advance (n : Nat) (c : Cursor) : Cursor := ⟨c.pos + n, c.rest.drop n⟩

/-- The place behind the spaces that stand here. -/
def skipSpace (c : Cursor) : Cursor :=
  ⟨c.pos + (c.rest.takeWhile isSpace).length, c.rest.dropWhile isSpace⟩

end Cursor

/-- Characters from code units: a high surrogate and the low one after it make one
    character, and a surrogate that stands alone becomes the replacement character. -/
def joinSurrogates : List Nat → List Char
  | [] => []
  | [u] => [if 0xD800 ≤ u && u < 0xE000 then Char.ofNat 0xFFFD else Char.ofNat u]
  | u :: v :: rest =>
    if 0xD800 ≤ u && u < 0xDC00 && 0xDC00 ≤ v && v < 0xE000 then
      Char.ofNat (0x10000 + (u - 0xD800) * 0x400 + (v - 0xDC00)) :: joinSurrogates rest
    else if 0xD800 ≤ u && u < 0xE000 then Char.ofNat 0xFFFD :: joinSurrogates (v :: rest)
    else Char.ofNat u :: joinSurrogates (v :: rest)

/-- The code unit that four hexadecimal digits spell. -/
def codeUnit? (a b c d : Char) : Option Nat := do
  let a ← Text.hexValue? a
  let b ← Text.hexValue? b
  let c ← Text.hexValue? c
  let d ← Text.hexValue? d
  return ((a * 16 + b) * 16 + c) * 16 + d

/-- The character that a backslash and this letter stand for. -/
def escaped? : Char → Option Char
  | '"' => some '"'
  | '\\' => some '\\'
  | '/' => some '/'
  | 'b' => some (Char.ofNat 8)
  | 'f' => some (Char.ofNat 12)
  | 'n' => some '\n'
  | 'r' => some '\r'
  | 't' => some '\t'
  | _ => none

/-- Read a text up to its closing quote; `start` is the offset of the opening quote and
    `units` holds what was read, last first. -/
def readString (start : Nat) (units : List Nat) (pos : Nat) : List Char → Reading String
  | [] => .error (.unterminated, start)
  | '"' :: rest => .ok (String.ofList (joinSurrogates units.reverse), ⟨pos + 1, rest⟩)
  | '\\' :: 'u' :: a :: b :: c :: d :: rest =>
    match codeUnit? a b c d with
    | some u =>
      if rest.isEmpty then .error (.badUnicodeEscape, pos + 1)
      else readString start (u :: units) (pos + 6) rest
    | none => .error (.badUnicodeEscape, pos + 1)
  | '\\' :: c :: rest =>
    if c == 'u' then .error (.badUnicodeEscape, pos + 1)
    else match escaped? c with
      | some e => readString start (e.toNat :: units) (pos + 2) rest
      | none => .error (.badEscape, pos)
  | '\\' :: [] => .error (.unterminated, start)
  | c :: rest =>
    if c.toNat < 0x20 then .error (.controlCharacter, pos)
    else readString start (c.toNat :: units) (pos + 1) rest

/-- The digits of the whole part at the head of a text: a zero stands alone. -/
def wholePart : List Char → List Char
  | '0' :: _ => ['0']
  | cs => cs.takeWhile Char.isDigit

/-- The digits of the fraction at the head of a text, which begins with a point. -/
def fractionPart : List Char → List Char
  | '.' :: cs => cs.takeWhile Char.isDigit
  | _ => []

/-- The exponent at the head of a text: the number of its characters and its value. -/
def exponentPart : List Char → Option (Nat × Int)
  | e :: cs =>
    if e == 'e' || e == 'E' then
      let (sign, ds) := match cs with
        | '-' :: ds => (['-'], ds.takeWhile Char.isDigit)
        | '+' :: ds => (['+'], ds.takeWhile Char.isDigit)
        | ds => ([], ds.takeWhile Char.isDigit)
      if ds.isEmpty then none
      else
        let n : Int := Text.digitsValue ds
        some (1 + sign.length + ds.length, if sign == ['-'] then -n else n)
    else none
  | [] => none

/-- Read a number that has no sign before it. -/
def readUnsigned (negative : Bool) (cs : List Char) : Option (Json × Nat) :=
  let whole := wholePart cs
  if whole.isEmpty then none
  else
    let rest := cs.drop whole.length
    let fraction := fractionPart rest
    let rest := if fraction.isEmpty then rest else rest.drop (fraction.length + 1)
    let used := whole.length + if fraction.isEmpty then 0 else fraction.length + 1
    let digits := Text.digitsValue (whole ++ fraction)
    match exponentPart rest with
    | some (n, e) =>
      some (float (Binary64.ofDecimal negative digits (e - (fraction.length : Int))), used + n)
    | none =>
      if fraction.isEmpty then some (int (if negative then -(digits : Int) else digits), used)
      else some (float (Binary64.ofDecimal negative digits (-(fraction.length : Int))), used)

/-- Read a number, and tell how many characters it has. -/
def readNumber : List Char → Option (Json × Nat)
  | '-' :: cs => (readUnsigned true cs).map fun (v, n) => (v, n + 1)
  | cs => readUnsigned false cs

/-- The values that are written as words. -/
def words : List (List Char × Json) := [
  ("null".toList, null), ("true".toList, bool true), ("false".toList, bool false),
  ("NaN".toList, float .nan), ("Infinity".toList, float (.infinite false)),
  ("-Infinity".toList, float (.infinite true))]

/-- Read a value that has no parts. -/
def readScalar (c : Cursor) : Reading Json :=
  match words.find? fun w => w.1.isPrefixOf c.rest with
  | some (w, v) => .ok (v, c.advance w.length)
  | none =>
    match readNumber c.rest with
    | some (v, n) => .ok (v, c.advance n)
    | none => .error (.missingValue, c.pos)

mutual

/-- Read a value. -/
def readValue : Nat → Cursor → Reading Json
  | 0, c => .error (.missingValue, c.pos)
  | fuel + 1, c =>
    match c.rest with
    | '"' :: rest => (readString c.pos [] (c.pos + 1) rest).map fun (s, c) => (str s, c)
    | '[' :: rest =>
      let c := Cursor.skipSpace ⟨c.pos + 1, rest⟩
      match c.rest with
      | ']' :: rest => .ok (list [], ⟨c.pos + 1, rest⟩)
      | _ => readItems fuel [] c
    | '\x7b' :: rest =>
      let c := Cursor.skipSpace ⟨c.pos + 1, rest⟩
      match c.rest with
      | '\x7d' :: rest => .ok (object [], ⟨c.pos + 1, rest⟩)
      | _ => readMembers fuel [] c
    | _ => readScalar c

/-- Read the items of a list from the next one on; `done` holds the ones before, last
    first. -/
def readItems : Nat → List Json → Cursor → Reading Json
  | 0, _, c => .error (.missingValue, c.pos)
  | fuel + 1, done, c =>
    match readValue fuel c with
    | .error e => .error e
    | .ok (v, c) =>
      let c := c.skipSpace
      match c.rest with
      | ']' :: rest => .ok (list (v :: done).reverse, ⟨c.pos + 1, rest⟩)
      | ',' :: rest => readItems fuel (v :: done) (Cursor.skipSpace ⟨c.pos + 1, rest⟩)
      | _ => .error (.missingComma, c.pos)

/-- Read the members of an object from the next one on; `done` holds the ones before, last
    first. -/
def readMembers : Nat → List (String × Json) → Cursor → Reading Json
  | 0, _, c => .error (.missingValue, c.pos)
  | fuel + 1, done, c =>
    match c.rest with
    | '"' :: rest =>
      match readString c.pos [] (c.pos + 1) rest with
      | .error e => .error e
      | .ok (key, c) =>
        let c := c.skipSpace
        match c.rest with
        | ':' :: rest =>
          match readValue fuel (Cursor.skipSpace ⟨c.pos + 1, rest⟩) with
          | .error e => .error e
          | .ok (v, c) =>
            let c := c.skipSpace
            match c.rest with
            | '\x7d' :: rest =>
              .ok (object (dedupKeys ((key, v) :: done).reverse), ⟨c.pos + 1, rest⟩)
            | ',' :: rest =>
              readMembers fuel ((key, v) :: done) (Cursor.skipSpace ⟨c.pos + 1, rest⟩)
            | _ => .error (.missingComma, c.pos)
        | _ => .error (.missingColon, c.pos)
    | _ => .error (.missingName, c.pos)

end

/-- Read a whole text. -/
def readText (cs : List Char) : Except (JsonFault × Nat) Json :=
  if cs.head? == some (Char.ofNat 0xFEFF) then .error (.byteOrderMark, 0)
  else
    match readValue (2 * cs.length + 2) (Cursor.skipSpace ⟨0, cs⟩) with
    | .error e => .error e
    | .ok (v, c) =>
      let c := c.skipSpace
      if c.rest.isEmpty then .ok v else .error (.extraData, c.pos)

/-- The value that a JSON text spells. -/
def ofText (s : String) : Except JsonError Json :=
  (readText s.toList).mapError fun (fault, pos) => JsonError.inText s.toList fault pos

end Json

end PropTutor
