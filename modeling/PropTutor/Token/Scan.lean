/-
  Reading the tokens of a text.

  Blanks separate tokens and are dropped. A token is a parenthesis, a spelling of a sign,
  or an atom: a letter and all letters, digits and underscores that follow it, where
  letters and digits are those of ASCII. A character that begins no token is an error.

  The scan walks the text one character at a time and counts down over the characters of
  a token it has already read, so it ends with the text.
-/
import PropTutor.Text.Blank
import PropTutor.Token.Basic

namespace PropTutor

/-- A character with which an atom begins. -/
def isAtomStart (c : Char) : Bool := c.isAlpha

/-- A character that an atom goes on with. -/
def isAtomChar (c : Char) : Bool := c.isAlphanum || c == '_'

namespace Token

/-- The kind and the characters of the token at the head of a text. -/
def atHead? : List Char → Option (TokenKind × List Char)
  | [] => none
  | c :: cs =>
    if isAtomStart c then some (.atom, c :: cs.takeWhile isAtomChar)
    else if c == '(' then some (.opening, [c])
    else if c == ')' then some (.closing, [c])
    else (Sign.atHead? (c :: cs)).map fun entry => (.sign entry.2, entry.1)

/-- The tokens of a text whose first character has offset `pos`; the first `skip`
    characters belong to a token that was read before. -/
def scan : (skip pos : Nat) → List Char → Except SyntaxError (List Token)
  | _, _, [] => .ok []
  | skip + 1, pos, _ :: cs => scan skip (pos + 1) cs
  | 0, pos, c :: cs =>
    if Text.isBlank c then scan 0 (pos + 1) cs
    else match atHead? (c :: cs) with
      | some (kind, value) =>
        (scan (value.length - 1) (pos + 1) cs).map (⟨kind, String.ofList value, pos⟩ :: ·)
      | none => .error (.strayCharacter c pos)

end Token

/-- The tokens of a text. -/
def Tokens.ofText (s : String) : Except SyntaxError Tokens :=
  (Token.scan 0 0 s.toList).map (⟨·, s.length⟩)

end PropTutor
