/-
  Texts up to spelling.

  Two texts that differ only in the spelling of signs and in blanks should count as the
  same. The signature of a text lists its tokens with every sign in its display symbol.
  The normal spelling does the same on the level of characters, and is defined for a text
  without tokens as well; it forgets where one atom ends and the next one begins.
-/
import PropTutor.Token.Scan

namespace PropTutor

/-- A token without its offset, a sign in its display symbol. -/
def Token.shape (t : Token) : TokenKind × String :=
  match t.kind with
  | .sign s => (t.kind, s.symbol)
  | _ => (t.kind, t.value)

/-- The tokens of a text without their offsets, signs in their display symbols; nothing if
    the text cannot be read. -/
def signature? (s : String) : Option (List (TokenKind × String)) :=
  match Tokens.ofText s with
  | .ok ts => some (ts.items.map Token.shape)
  | .error _ => none

/-- Replace every spelling of a sign by its display symbol, from left to right; the first
    `skip` characters belong to a spelling that was replaced before. -/
def respell : (skip : Nat) → List Char → List Char
  | _, [] => []
  | skip + 1, _ :: cs => respell skip cs
  | 0, c :: cs =>
    match Sign.atHead? (c :: cs) with
    | some (value, s) => s.symbol.toList ++ respell (value.length - 1) cs
    | none => c :: respell 0 cs

/-- The text without blanks and with every sign in its display symbol. -/
def normalSpelling (s : String) : String :=
  String.ofList (respell 0 (s.toList.filter fun c => !Text.isBlank c))

/-- Two texts have the same spelling if their signatures agree, or, where one of them cannot
    be read, if their normal spellings agree. -/
def sameSpelling (s t : String) : Bool :=
  match signature? s, signature? t with
  | some a, some b => a == b
  | _, _ => normalSpelling s == normalSpelling t

end PropTutor
