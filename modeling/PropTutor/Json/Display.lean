/-
  JSON values as messages show them.

  Texts are quoted, lists stand in brackets, and the members of an object in braces in
  their order; the three constants have names of their own.
-/
import PropTutor.Json.Basic
import PropTutor.Number.Shortest
import PropTutor.Text.Quoted

namespace PropTutor.Json

mutual

/-- The form of a value inside a message. -/
def display : Json → String
  | null => "None"
  | bool b => if b then "True" else "False"
  | int n => toString n
  | float x => x.text
  | str s => Text.quoted s
  | list items => "[" ++ displayItems items ++ "]"
  | object members => "\x7b" ++ displayMembers members ++ "\x7d"

/-- The items of a list, separated by commas. -/
def displayItems : List Json → String
  | [] => ""
  | [x] => display x
  | x :: rest => display x ++ ", " ++ displayItems rest

/-- The members of an object, separated by commas. -/
def displayMembers : List (String × Json) → String
  | [] => ""
  | [(k, x)] => Text.quoted k ++ ": " ++ display x
  | (k, x) :: rest => Text.quoted k ++ ": " ++ display x ++ ", " ++ displayMembers rest

end

/-- The text of a value: a text stands for itself, other values are displayed. -/
def toText : Json → String
  | str s => s
  | v => display v

end PropTutor.Json
