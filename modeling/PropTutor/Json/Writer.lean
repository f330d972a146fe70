/-
  Writing JSON.

  The text is compact, keeps the order of members, and escapes only what has to be
  escaped.
-/
import PropTutor.Json.Basic
import PropTutor.Number.Shortest
import PropTutor.Text.Hex

namespace PropTutor.Json

/-- One character inside a written text. -/
def writeChar (c : Char) : List Char :=
  if c == '"' || c == '\\' then ['\\', c]
  else if c.toNat < 0x20 then '\\' :: 'u' :: Text.hexText 4 c.toNat
  else [c]

/-- A written text with its quotes. -/
def writeString (s : String) : String := String.ofList ('"' :: s.toList.flatMap writeChar ++ ['"'])

mutual

/-- The JSON text of a value. -/
def write : Json → String
  | null => "null"
  | bool b => if b then "true" else "false"
  | int n => toString n
  | float x => x.text
  | str s => writeString s
  | list items => "[" ++ writeItems items ++ "]"
  | object members => "\x7b" ++ writeMembers members ++ "\x7d"

/-- The items of a list, separated by commas. -/
def writeItems : List Json → String
  | [] => ""
  | [x] => write x
  | x :: rest => write x ++ "," ++ writeItems rest

/-- The members of an object, separated by commas. -/
def writeMembers : List (String × Json) → String
  | [] => ""
  | [(k, x)] => writeString k ++ ":" ++ write x
  | (k, x) :: rest => writeString k ++ ":" ++ write x ++ "," ++ writeMembers rest

end

end PropTutor.Json
