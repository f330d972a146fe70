/-
  The settings of the engine, and how they are read from a file.

  The file is a YAML mapping with three sections, each of which may be left out, as may each
  value in it. The error of a file names its path.
-/
import PropTutor.Text.Upper
import PropTutor.Yaml.Resolve

namespace PropTutor

/-- The settings of the engine. -/
structure Settings where
  /-- Truth tables over more variables than this are refused. -/
  maxVariables : Int
  /-- As many assignments are shown on which two formulas differ. -/
  counterexampleLimit : Int
  logLevel : String
  deriving DecidableEq

/-- The settings where nothing else is said. -/
def Settings.standard : Settings := ⟨16, 5, "INFO"⟩

/-- What is wrong with a settings file. -/
inductive SettingsFault where
  /-- There is no file. -/
  | absent
  | malformed
  | notMapping
  /-- A section has a value of this kind and is no mapping. -/
  | notSection (kind : String)
  | notInteger (fault : IntegerFault)
  | negativeLimit
  /-- A scalar of the file has a form but no value. -/
  | badScalar (error : Yaml.YamlError)
  /-- A number of the file is infinite. -/
  | infinite
  deriving DecidableEq

/-- An error of a settings file. -/
structure SettingsError where
  path : String
  fault : SettingsFault
  deriving DecidableEq

/-- The wording of an error of a settings file. -/
def SettingsError.message (e : SettingsError) : String :=
  match e.fault with
  | .absent => "[Errno 2] No such file or directory: " ++ Text.quoted e.path
  | .malformed => "Error parsing YAML file: " ++ e.path
  | .notMapping => "Malformed config file: expected a mapping in " ++ e.path
  | .notSection kind =>
      "Malformed config value in " ++ e.path ++ ": '" ++ kind ++ "' object has no attribute 'get'"
  | .notInteger fault => "Malformed config value in " ++ e.path ++ ": " ++ fault.message
  | .negativeLimit => "truth_table.max_variables must be >= 0 in " ++ e.path
  | .badScalar error => error.message
  | .infinite => IntegerFault.infinite.message

namespace Settings

open Yaml (Value)

/-- The mapping that a value is; a value that counts as false is an empty one. -/
def mapping? (v : Value) : Option (List (Value × Value)) :=
  if !v.truthy then some []
  else match v with
    | .mapping pairs => some pairs
    | _ => none

/-- The value under a key. -/
def item? (pairs : List (Value × Value)) (key : String) : Option Value :=
  (pairs.find? fun p => p.1 == .str key).map (·.2)

/-- The pairs of a section of the file. -/
def sectionPairs (file : List (Value × Value)) (name : String) :
    Except SettingsFault (List (Value × Value)) :=
  let v := (item? file name).getD .null
  match mapping? v with
  | some pairs => .ok pairs
  | none => .error (.notSection v.kindName)

/-- The integer under a key of a section, or what stands for it. -/
def integerEntry (pairs : List (Value × Value)) (key : String) (default : Int) :
    Except SettingsFault Int :=
  match item? pairs key with
  | none => .ok default
  | some v =>
    match v.toInteger with
    | .ok n => .ok n
    | .error .infinite => .error .infinite
    | .error fault => .error (.notInteger fault)

/-- The settings that the value of a file holds. -/
def ofValue (v : Value) : Except SettingsFault Settings := do
  let file ← match mapping? v with
    | some pairs => .ok pairs
    | none => .error .notMapping
  let maxVariables ←
    integerEntry (← sectionPairs file "truth_table") "max_variables" standard.maxVariables
  let counterexampleLimit ←
    integerEntry (← sectionPairs file "analysis") "counterexample_limit"
      standard.counterexampleLimit
  let logging ← sectionPairs file "logging"
  let logLevel := Text.upper (((item? logging "level").map (·.toText)).getD standard.logLevel)
  if maxVariables < 0 then .error .negativeLimit
  else return ⟨maxVariables, counterexampleLimit, logLevel⟩

/-- The settings that the text of a file holds. -/
def ofText (path text : String) : Except SettingsError Settings :=
  let result : Except SettingsFault Settings :=
    match Value.ofText text with
    | .ok v => ofValue v
    | .error .malformed => .error .malformed
    | .error e => .error (.badScalar e)
  result.mapError (⟨path, ·⟩)

end Settings

end PropTutor
