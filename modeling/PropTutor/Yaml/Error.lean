/-
  Why a YAML text has no value.

  Most texts that have none break a rule of the language. Some scalars have a tag or a form
  that announces a number, a truth value or a date, and spell none; each of these has a
  wording of its own.
-/
import PropTutor.Number.Integral
import PropTutor.Yaml.Timestamp

namespace PropTutor.Yaml

/-- Why a text has no value. -/
inductive YamlError where
  /-- The text breaks a rule of the language. -/
  | malformed
  /-- A scalar that has to be a number is empty. -/
  | noNumber
  | badInteger (base : Nat) (text : String)
  | badFloat (text : String)
  /-- A number in base sixty has too many parts. -/
  | tooManyParts
  | badTruth (text : String)
  | noTimestamp
  | badTimestamp (fault : TimestampFault)
  deriving DecidableEq

namespace YamlError

/-- The wording of the errors that are not about the form of the text. -/
def message : YamlError → String
  | malformed => "malformed text"
  | noNumber => "string index out of range"
  | badInteger base text => (IntegerFault.badDigits base (Text.quoted text)).message
  | badFloat text => "could not convert string to float: " ++ Text.quoted text
  | tooManyParts => "int too large to convert to float"
  | badTruth text => Text.quoted text
  | noTimestamp => "'NoneType' object has no attribute 'groupdict'"
  | badTimestamp fault => fault.message

end YamlError

end PropTutor.Yaml
