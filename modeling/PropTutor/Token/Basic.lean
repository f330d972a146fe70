/-
  Tokens of formula text, and the errors that a malformed text can have.

  A text is read as a list of tokens together with the offset at which it ends. An error
  names what was found where something else was needed.
-/
import PropTutor.Formula.Sign
import PropTutor.Text.Quoted

namespace PropTutor

/-- The kinds of token. -/
inductive TokenKind where
  | atom
  | sign (s : Sign)
  | opening
  | closing
  deriving DecidableEq, Inhabited

/-- The name of a kind of token in messages. -/
def TokenKind.name : TokenKind → String
  | atom => "ATOM"
  | sign s => s.name
  | opening => "LPAREN"
  | closing => "RPAREN"

/-- A token: its kind, the characters it was read from, and their offset. -/
structure Token where
  kind : TokenKind
  value : String
  pos : Nat
  deriving DecidableEq, Inhabited

/-- The tokens of a text, and the offset at which the text ends. -/
structure Tokens where
  items : List Token
  stop : Nat
  deriving DecidableEq, Inhabited

/-- What a reader meets next: a token, or the end of the text. -/
inductive Found where
  | token (t : Token)
  | endOfInput (pos : Nat)
  deriving DecidableEq

namespace Found

/-- The offset of what was found. -/
def pos : Found → Nat
  | token t => t.pos
  | endOfInput n => n

/-- The name of what was found. -/
def name : Found → String
  | token t => t.kind.name
  | endOfInput _ => "EOF"

/-- What was found, in words. -/
def describe : Found → String
  | token t => "token " ++ t.kind.name ++ " (" ++ Text.quoted t.value ++ ")"
  | endOfInput _ => "end of input"

end Found

/-- Why a text is not a formula. -/
inductive SyntaxError where
  /-- No token begins with this character. -/
  | strayCharacter (c : Char) (pos : Nat)
  /-- No formula goes on with this. -/
  | unexpected (found : Found)
  /-- A parenthesis would have to be closed first. -/
  | unclosed (found : Found)
  /-- The text nests deeper than the reader follows. -/
  | tooDeep
  deriving DecidableEq

namespace SyntaxError

/-- The offset of the error; nesting has none and reports the start of the text. -/
def pos : SyntaxError → Nat
  | strayCharacter _ n => n
  | unexpected found => found.pos
  | unclosed found => found.pos
  | tooDeep => 0

/-- The kind of token at which the error was noticed. -/
def token : SyntaxError → String
  | strayCharacter .. => "UNKNOWN"
  | unexpected found => found.name
  | unclosed found => found.name
  | tooDeep => "DEPTH"

/-- The wording of the error. -/
def message : SyntaxError → String
  | strayCharacter c n =>
      "Unexpected character " ++ Text.quoted (String.singleton c) ++ " at position " ++ toString n
  | unexpected found =>
      "Unexpected " ++ found.describe ++ " at position " ++ toString found.pos
  | unclosed found =>
      "Expected RPAREN but found " ++ found.describe ++ " at position " ++ toString found.pos
  | tooDeep => "Formula is nested too deeply to parse"

end SyntaxError

end PropTutor
