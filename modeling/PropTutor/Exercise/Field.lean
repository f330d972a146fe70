/-
  Reading records from JSON values, with all their issues.

  A record is read field by field. Every field is checked, so a reading either has a value
  or the list of all issues in the order of the fields; lists and objects are read in the
  order of their items. Numbers and truth values may be spelled in several ways.
-/
import PropTutor.Json.Basic
import PropTutor.NormalForm.Shape
import PropTutor.Text.Numeral

namespace PropTutor

/-- What can be wrong with one value of a record. -/
inductive Issue where
  | missing
  | notText
  | emptyText
  | notBoolean
  | unclearBoolean
  | notInteger
  | unclearInteger
  | fractional
  | notFinite
  | outOfRange
  | below (bound : Int)
  | notList
  | emptyList
  | notObject
  | notRecord (name : String)
  | notNormalForm
  deriving DecidableEq

/-- The wording of an issue. -/
def Issue.message : Issue → String
  | missing => "Field required"
  | notText => "Input should be a valid string"
  | emptyText => "String should have at least 1 character"
  | notBoolean => "Input should be a valid boolean"
  | unclearBoolean => "Input should be a valid boolean, unable to interpret input"
  | notInteger => "Input should be a valid integer"
  | unclearInteger => "Input should be a valid integer, unable to parse string as an integer"
  | fractional => "Input should be a valid integer, got a number with a fractional part"
  | notFinite => "Input should be a finite number"
  | outOfRange => "Unable to parse input string as an integer, exceeded maximum size"
  | below bound => "Input should be greater than or equal to " ++ toString bound
  | notList => "Input should be a valid list"
  | emptyList => "List should have at least 1 item after validation, not 0"
  | notObject => "Input should be a valid dictionary"
  | notRecord name => "Input should be a valid dictionary or instance of " ++ name
  | notNormalForm => "Input should be 'NNF', 'CNF' or 'DNF'"

/-- A value, or the first issue and the ones after it. -/
inductive Checked (α : Type) where
  | ok (value : α)
  | bad (first : Issue) (rest : List Issue)

namespace Checked

/-- Apply a checked function to a checked value; the issues of both are kept. -/
def apply {α β : Type} : Checked (α → β) → Checked α → Checked β
  | ok f, ok a => ok (f a)
  | ok _, bad i is => bad i is
  | bad i is, ok _ => bad i is
  | bad i is, bad j js => bad i (is ++ j :: js)

instance : Functor Checked where
  map f x := apply (ok f) x

instance : Applicative Checked where
  pure := ok
  seq f x := apply f (x ())

/-- One issue and no value. -/
def issue {α : Type} (i : Issue) : Checked α := bad i []

/-- Demand something of a value that was read. -/
def ensure {α : Type} (test : α → Bool) (i : Issue) : Checked α → Checked α
  | ok a => if test a then ok a else issue i
  | bad j js => bad j js

/-- Check every item of a list. -/
def all {α β : Type} (read : α → Checked β) : List α → Checked (List β)
  | [] => ok []
  | a :: rest => List.cons <$> read a <*> all read rest

end Checked

namespace Field

/-- A text. -/
def text : Json → Checked String
  | .str s => .ok s
  | _ => .issue .notText

/-- A text that is not empty. -/
def nonemptyText (v : Json) : Checked String := (text v).ensure (!·.isEmpty) .emptyText

/-- The words that spell true and false, apart from the case of their letters. -/
def booleanWords : List (String × Bool) := [
  ("1", true), ("true", true), ("t", true), ("yes", true), ("y", true), ("on", true),
  ("0", false), ("false", false), ("f", false), ("no", false), ("n", false), ("off", false)]

/-- Integers of 64 bits with a sign are below this bound, which is `2 ^ 63`, and not below its
    negative. -/
def wordBound : Int := 0x8000000000000000

/-- The integer that a floating-point number is, if 64 bits hold it and its negative. -/
def wholeNumber (x : Binary64) : Checked Int :=
  match x with
  | .finite negative m e =>
    let n := Binary64.whole negative m e
    if !x.isIntegral then .issue .fractional
    else if -wordBound < n && n < wordBound then .ok n
    else .issue .outOfRange
  | _ => .issue .notFinite

/-- An integer as a truth value: a zero or a one. -/
def bit (n : Int) : Checked Bool :=
  if n == 0 then .ok false else if n == 1 then .ok true else .issue .unclearBoolean

/-- A truth value: itself, a zero or a one, or a word for it. A number is looked at only if it
    is an integer that 64 bits hold. -/
def boolean : Json → Checked Bool
  | .bool b => .ok b
  | .int n => if -wordBound ≤ n && n < wordBound then bit n else .issue .notBoolean
  | .float x =>
    match wholeNumber x with
    | .ok n => bit n
    | .bad .. => .issue .notBoolean
  | .str s =>
    match booleanWords.lookup (s.map Char.toLower) with
    | some b => .ok b
    | none => .issue .unclearBoolean
  | _ => .issue .notBoolean

/-- An integer: itself, a truth value as zero or one, a number without fraction, or a text
    that spells it loosely. -/
def integer : Json → Checked Int
  | .int n => .ok n
  | .bool b => .ok (if b then 1 else 0)
  | .float x => wholeNumber x
  | .str s =>
    match Text.looseInteger s with
    | .ok n => .ok n
    | .error .malformed => .issue .unclearInteger
    | .error .tooLong => .issue .outOfRange
  | _ => .issue .notInteger

/-- An integer that is not below a bound. -/
def integerFrom (bound : Int) (v : Json) : Checked Int :=
  (integer v).ensure (bound ≤ ·) (.below bound)

/-- Null, or what another reader reads. -/
def nullable {α : Type} (read : Json → Checked α) : Json → Checked (Option α)
  | .null => .ok none
  | v => some <$> read v

/-- A list. -/
def list {α : Type} (read : Json → Checked α) : Json → Checked (List α)
  | .list items => .all read items
  | _ => .issue .notList

/-- A list that is not empty. -/
def nonemptyList {α : Type} (read : Json → Checked α) (v : Json) : Checked (List α) :=
  (list read v).ensure (!·.isEmpty) .emptyList

/-- An object whose members all have values of one sort. -/
def object {α : Type} (read : Json → Checked α) : Json → Checked (List (String × α))
  | .object members => .all (fun m => (m.1, ·) <$> read m.2) members
  | _ => .issue .notObject

/-- A normal form by its name. -/
def normalForm : Json → Checked NormalForm
  | .str s =>
    match NormalForm.ofName? s with
    | some f => .ok f
    | none => .issue .notNormalForm
  | _ => .issue .notNormalForm

/-- A record with this name in messages, read from the members of an object. -/
def record {α : Type} (name : String) (read : List (String × Json) → Checked α) :
    Json → Checked α
  | .object members => read members
  | _ => .issue (.notRecord name)

/-- The value under the first of these keys that is there. -/
def first? (members : List (String × Json)) (keys : List String) : Option Json :=
  keys.findSome? fun k => members.lookup k

/-- A field that has to be there, under the first of its keys that is. -/
def required {α : Type} (keys : List String) (read : Json → Checked α)
    (members : List (String × Json)) : Checked α :=
  match first? members keys with
  | some v => read v
  | none => .issue .missing

/-- A field that may be left out, and its value then. -/
def defaulted {α : Type} (keys : List String) (default : α) (read : Json → Checked α)
    (members : List (String × Json)) : Checked α :=
  match first? members keys with
  | some v => read v
  | none => .ok default

end Field

end PropTutor
