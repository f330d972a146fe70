/-
  YAML values.

  The keys of a mapping are values themselves, and a mapping keeps their order, as a set keeps
  that of its items. Values are compared as keys (`Value.sameKey`), so that one, true and 1.0
  are a single key.
-/
import PropTutor.Number.Integral
import PropTutor.Number.Shortest
import PropTutor.Yaml.Timestamp

namespace PropTutor.Yaml

/-- A YAML value. -/
inductive Value where
  | null
  | bool (b : Bool)
  | int (n : Int)
  | float (x : Binary64)
  | date (d : Date)
  | moment (d : Date) (c : Clock)
  | str (s : String)
  | bytes (bs : List UInt8)
  | list (items : List Value)
  /-- A list of pairs. -/
  | pairList (pairs : List (Value × Value))
  | set (items : List Value)
  | mapping (pairs : List (Value × Value))
  deriving Inhabited

namespace Value

/-- The name of a value's kind in messages. -/
def kindName : Value → String
  | null => "NoneType"
  | bool _ => "bool"
  | int _ => "int"
  | float _ => "float"
  | date _ => "datetime.date"
  | moment .. => "datetime.datetime"
  | str _ => "str"
  | bytes _ => "bytes"
  | list _ => "list"
  | pairList _ => "list"
  | set _ => "set"
  | mapping _ => "dict"

/-- Null, false, zeros and everything empty count as false. -/
def truthy : Value → Bool
  | null => false
  | bool b => b
  | int n => n != 0
  | float x => !x.isZero
  | date _ => true
  | moment .. => true
  | str s => !s.isEmpty
  | bytes bs => !bs.isEmpty
  | list items => !items.isEmpty
  | pairList pairs => !pairs.isEmpty
  | set items => !items.isEmpty
  | mapping pairs => !pairs.isEmpty

/-- The value can be the key of a mapping. -/
def isKey : Value → Bool
  | list _ => false
  | pairList _ => false
  | set _ => false
  | mapping _ => false
  | _ => true

/-- The size of a number; truth values count as one and zero. -/
def rational? : Value → Option Rat
  | bool b => some (mkRat (if b then 1 else 0) 1)
  | int n => some (mkRat n 1)
  | float x => x.rational?
  | _ => none

/-- Two values are the same key: numbers by their size, and other values by their form. -/
def sameKey (a b : Value) : Bool :=
  match a.rational?, b.rational? with
  | some p, some q => p == q
  | none, none =>
    match a, b with
    | null, null => true
    | float x, float y => x == y
    | date d, date d' => d == d'
    | moment d c, moment d' c' => sameMoment d c d' c'
    | str s, str t => s == t
    | bytes bs, bytes bs' => bs == bs'
    | _, _ => false
  | _, _ => false

instance : BEq Value := ⟨sameKey⟩

mutual

/-- The form of a value inside a message. -/
def display : Value → String
  | null => "None"
  | bool b => if b then "True" else "False"
  | int n => toString n
  | float x => x.text
  | date d => d.display
  | moment d c => momentDisplay d c
  | str s => Text.quoted s
  | bytes bs => Text.quotedBytes bs
  | list items => "[" ++ displayItems items ++ "]"
  | pairList pairs => "[" ++ displayPairs "(" ", " ")" pairs ++ "]"
  | set items => if items.isEmpty then "set()" else "\x7b" ++ displayItems items ++ "\x7d"
  | mapping pairs => "\x7b" ++ displayPairs "" ": " "" pairs ++ "\x7d"

/-- The items of a list, separated by commas. -/
def displayItems : List Value → String
  | [] => ""
  | [x] => display x
  | x :: rest => display x ++ ", " ++ displayItems rest

/-- Pairs, separated by commas, with the given signs around each and inside it. -/
def displayPairs (left middle right : String) : List (Value × Value) → String
  | [] => ""
  | [(k, x)] => left ++ display k ++ middle ++ display x ++ right
  | (k, x) :: rest =>
    left ++ display k ++ middle ++ display x ++ right ++ ", " ++ displayPairs left middle right rest

end

/-- The text of a value: a text stands for itself, a date is written with hyphens, and other
    values are displayed. -/
def toText : Value → String
  | str s => s
  | date d => d.text
  | moment d c => d.text ++ " " ++ c.text
  | v => display v

/-- Bytes as an integer: they are read as ASCII. Of a bad literal, only the first bytes are
    quoted. -/
def bytesToInteger (bs : List UInt8) : Except IntegerFault Int :=
  let text := String.ofList (bs.map fun b => Char.ofNat b.toNat)
  match if bs.all (· < 128) then Text.integer? text else none with
  | some n => .ok n
  | none => .error (.badDigits 10 (Text.quotedBytes (bs.take literalLimit)))

theorem bytesToInteger_ne_infinite (bs : List UInt8) : bytesToInteger bs ≠ .error .infinite := by
  unfold bytesToInteger
  dsimp only
  split <;> exact nofun

/-- A value as an integer. -/
def toInteger : Value → Except IntegerFault Int
  | int n => .ok n
  | bool b => .ok (if b then 1 else 0)
  | float x => x.toInteger
  | str s => Text.toInteger s
  | bytes bs => bytesToInteger bs
  | v => .error (.wrongKind v.kindName)

end Value

end PropTutor.Yaml
