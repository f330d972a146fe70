/-
  Numbers as YAML scalars spell them.

  Underscores are dropped and a sign is taken off. What is left of an integer is read in the
  base that its first characters announce, and what is left of a floating-point number as a
  decimal. Parts between colons are digits in base sixty; for floating-point numbers each
  product and each sum is rounded.
-/
import PropTutor.Text.Decimal
import PropTutor.Yaml.Error
import PropTutor.Yaml.Tag

namespace PropTutor.Yaml

/-- The value of a digit below a base; above nine the digits are letters. -/
def digitBelow? (base : Nat) (c : Char) : Option Nat :=
  ((Text.digitValue? c).or (Text.hexValue? c)).filter (· < base)

/-- The letter that announces a base behind a zero. -/
def baseMark? : Nat → Option Char
  | 2 => some 'b'
  | 8 => some 'o'
  | 16 => some 'x'
  | _ => none

/-- Read one or more digits in a base, which may be announced. -/
def readBased? (base : Nat) (cs : List Char) : Option Nat :=
  let ds := match cs with
    | '0' :: mark :: ds => if baseMark? base == some mark.toLower then ds else cs
    | _ => cs
  if ds.isEmpty then none
  else ds.foldlM (fun n c => (digitBelow? base c).map (base * n + ·)) 0

/-- The integer that digits in a base spell, with blanks and a sign in front of them. -/
def basedInteger (base : Nat) (cs : List Char) : Except YamlError Int :=
  match Text.readSigned? (readBased? base) (Text.trimWith Text.isIntegerPadding cs) with
  | some n => .ok n
  | none => .error (.badInteger base (String.ofList cs))

/-- A number whose digits in base sixty are these. -/
def sixtiethValue (parts : List Int) : Int := parts.foldl (fun n part => 60 * n + part) 0

/-- The text of a number without underscores and without its sign, and whether that is a
    minus. A text that is empty spells no number. -/
def splitNumber (cs : List Char) : Except YamlError (Bool × List Char) :=
  match cs.filter (· != '_') with
  | [] => .error .noNumber
  | digits => .ok (Text.splitSign digits)

/-- The integer without a sign that a text spells. -/
def unsignedInteger (cs : List Char) : Except YamlError Int :=
  match cs with
  | [] => .error .noNumber
  | ['0'] => .ok 0
  | '0' :: 'b' :: bits => basedInteger 2 bits
  | '0' :: 'x' :: hex => basedInteger 16 hex
  | '0' :: _ => basedInteger 8 cs
  | _ => sixtiethValue <$> (colonParts cs).mapM (basedInteger 10)

/-- The integer that a scalar spells. -/
def readInteger (text : String) : Except YamlError Int := do
  let (negative, cs) ← splitNumber text.toList
  let n ← unsignedInteger cs
  return if negative then -n else n

/-- Add digits in base sixty to a total, of which the first one has this weight. -/
def addSixtieths (weight : Nat) (total : Binary64) : List Binary64 → Except YamlError Binary64
  | [] => .ok total
  | part :: rest =>
    match (Binary64.ofRat weight).rational? with
    | some q => addSixtieths (60 * weight) (total.add (part.scale q)) rest
    | none => .error .tooManyParts

/-- The floating-point number without a sign that a text in small letters spells. -/
def unsignedFloat (cs : List Char) : Except YamlError Binary64 :=
  let part (ds : List Char) : Except YamlError Binary64 :=
    match Text.decimal? (String.ofList ds) with
    | some x => .ok x
    | none => .error (.badFloat (String.ofList ds))
  if cs == ".inf".toList then .ok (.infinite false)
  else if cs == ".nan".toList then .ok .nan
  else match colonParts cs with
    | [_] => part cs
    | parts => do addSixtieths 1 (.zero false) (← parts.mapM part).reverse

/-- The floating-point number that a scalar spells. -/
def readFloat (text : String) : Except YamlError Binary64 := do
  let (negative, cs) ← splitNumber (text.toList.map Char.toLower)
  let x ← unsignedFloat cs
  return if negative then x.negate else x

end PropTutor.Yaml
