/-
  The tokens of a YAML text.

  Indentation is turned into tokens: a block opens where a line begins further to the right
  than the block around it, and closes where a line begins further to the left. Whether a
  word is the key of a mapping shows only at the colon behind it, so each word that may be a
  key gets an empty slot in front of it, which the colon fills.
-/
import PropTutor.Yaml.Scalar

namespace PropTutor.Yaml

/-- The tokens of a YAML text. -/
inductive Token where
  | directive (name : String) (value : List Char)
  | documentStart
  | documentEnd
  | blockSequence
  | blockMapping
  | blockEnd
  | flowSequence
  | flowSequenceEnd
  | flowMapping
  | flowMappingEnd
  | blockEntry
  | flowEntry
  | key
  | value
  | alias (name : String)
  | anchor (name : String)
  | tag (handle : Option String) (suffix : String)
  | scalar (text : String) (plain : Bool)
  deriving DecidableEq

/-- A word that may turn out to be a key. -/
structure PossibleKey where
  slot : Nat
  required : Bool
  index : Nat
  line : Nat
  column : Nat

/-- The state of a scan: the place, the depth of brackets, the indentations of the open
    blocks, innermost first, whether a key may begin here, the possible key at each depth of
    brackets, and the slots filled so far. -/
structure Scanner where
  place : Place
  flow : Nat
  indents : List Int
  keyAllowed : Bool
  keys : List (Nat × PossibleKey)
  slots : Array (List Token)

namespace Scanner

/-- The scanner at the start of a text. -/
def start (cs : List Char) : Scanner := ⟨.start cs, 0, [], true, [], #[]⟩

/-- The indentation of the innermost block; outside all blocks it is one to the left of the
    first column. -/
def indent (s : Scanner) : Int := s.indents.headD (-1)

/-- Add a token. -/
def emit (t : Token) (s : Scanner) : Scanner := { s with slots := s.slots.push [t] }

/-- Go on at another place. -/
def goto (p : Place) (s : Scanner) : Scanner := { s with place := p }

/-- A key may begin here, or not. -/
def allowKey (b : Bool) (s : Scanner) : Scanner := { s with keyAllowed := b }

/-- Give up the possible key at this depth of brackets; a required one must not be given
    up. -/
def dropKey (s : Scanner) : Option Scanner :=
  match s.keys.lookup s.flow with
  | some k => if k.required then none else some { s with keys := s.keys.filter (·.1 != s.flow) }
  | none => some s

/-- Note that the word here may be a key, and leave a slot in front of it. -/
def saveKey (s : Scanner) : Option Scanner :=
  if s.keyAllowed then do
    let s ← s.dropKey
    let required := s.flow == 0 && s.indent == s.place.column
    let k : PossibleKey := ⟨s.slots.size, required, s.place.index, s.place.line, s.place.column⟩
    return { s with keys := (s.flow, k) :: s.keys, slots := s.slots.push [] }
  else some s

/-- Give up the possible keys that are too far back: a key and its colon stand on one line,
    at most 1024 characters apart. -/
def dropStaleKeys (s : Scanner) : Option Scanner :=
  let stale (k : PossibleKey) := k.line != s.place.line || k.index + 1024 < s.place.index
  if s.keys.any fun e => stale e.2 && e.2.required then none
  else some { s with keys := s.keys.filter fun e => !stale e.2 }

/-- Close the blocks that lie further to the right than a column. -/
def unwind (column : Int) (s : Scanner) : Scanner :=
  if s.flow != 0 then s
  else
    let closed := (s.indents.takeWhile (column < ·)).length
    { s with
      indents := s.indents.drop closed
      slots := s.slots ++ Array.replicate closed [Token.blockEnd] }

/-- Open a block at a column if that lies further to the right than the innermost one. -/
def openBlock (column : Nat) (s : Scanner) : Bool × Scanner :=
  if s.indent < column then (true, { s with indents := (column : Int) :: s.indents })
  else (false, s)

/-- Open a block at the place of the scanner, and announce it. -/
def openHere (t : Token) (s : Scanner) : Option Scanner :=
  if s.flow != 0 then some s
  else if !s.keyAllowed then none
  else
    let (opened, s) := s.openBlock s.place.column
    some (if opened then s.emit t else s)

/-- Skip spaces, comments and line ends; a key may begin on a new line outside brackets. -/
def skipSpace : Nat → Scanner → Scanner
  | 0, s => s
  | fuel + 1, s =>
    let p := s.place.skipComment
    match p.takeBreak? with
    | some (_, p) =>
      let s := s.goto p
      skipSpace fuel (if s.flow == 0 then s.allowKey true else s)
    | none => s.goto p

/-- A marker between documents. -/
def marker (t : Token) (s : Scanner) : Option Scanner := do
  let s ← (s.unwind (-1)).dropKey
  return (s.allowKey false).goto (s.place.skip 3) |>.emit t

/-- The character may stand in the name of a directive, an anchor or a handle. -/
def isNameChar (c : Char) : Bool := c.isAlphanum || c == '-' || c == '_'

/-- A directive line: a name and its value. -/
def directive (s : Scanner) : Option Scanner := do
  let s ← (s.unwind (-1)).dropKey
  let p := s.place.next
  let name := p.rest.takeWhile isNameChar
  let p := p.skip name.length
  if name.isEmpty || !endsWord (p.peek 0) then none
  let (line, p) := p.takeLine
  return (s.allowKey false).goto p |>.emit (.directive (String.ofList name) line)

/-- An opening bracket. -/
def openFlow (t : Token) (s : Scanner) : Option Scanner := do
  let s ← s.saveKey
  return ({ s with flow := s.flow + 1 }.allowKey true).goto s.place.next |>.emit t

/-- A closing bracket. -/
def closeFlow (t : Token) (s : Scanner) : Option Scanner := do
  let s ← s.dropKey
  if s.flow == 0 then none
  return ({ s with flow := s.flow - 1 }.allowKey false).goto s.place.next |>.emit t

/-- A comma. -/
def flowEntry (s : Scanner) : Option Scanner := do
  let s ← (s.allowKey true).dropKey
  return (s.goto s.place.next).emit .flowEntry

/-- A hyphen that begins an item. -/
def blockEntry (s : Scanner) : Option Scanner := do
  let s ← s.openHere .blockSequence
  let s ← (s.allowKey true).dropKey
  return (s.goto s.place.next).emit .blockEntry

/-- A question mark that begins a key. -/
def explicitKey (s : Scanner) : Option Scanner := do
  let s ← s.openHere .blockMapping
  let s ← (s.allowKey (s.flow == 0)).dropKey
  return (s.goto s.place.next).emit .key

/-- A colon: what stands before it becomes a key, or is empty. -/
def mappingValue (s : Scanner) : Option Scanner := do
  let s ← match s.keys.lookup s.flow with
    | some k =>
      let s := { s with keys := s.keys.filter (·.1 != s.flow) }
      let (opened, s) := if s.flow == 0 then s.openBlock k.column else (false, s)
      let filled := if opened then [Token.blockMapping, Token.key] else [Token.key]
      some ({ s with slots := s.slots.setIfInBounds k.slot filled }.allowKey false)
    | none => do
      let s ← s.openHere .blockMapping
      (s.allowKey (s.flow == 0)).dropKey
  return (s.goto s.place.next).emit .value

/-- The name of an anchor, behind its mark. -/
def anchorName (p : Place) : Option (String × Place) :=
  let name := p.rest.takeWhile isNameChar
  let p := p.skip name.length
  let ends := endsPlain (p.peek 0) || (p.peek 0).any ("?:,]\x7d%@\x60".toList.contains ·)
  if name.isEmpty || !ends then none else some (String.ofList name, p)

/-- An anchor, or a reference to one. -/
def anchored (make : String → Token) (s : Scanner) : Option Scanner := do
  let s ← s.saveKey
  let (name, p) ← anchorName s.place.next
  return (s.allowKey false).goto p |>.emit (make name)

/-- The character may stand in the suffix of a tag. -/
def isTagChar (c : Char) : Bool := c.isAlphanum || "-;/?:@&=+$,_.!~*'()[]%".toList.contains c

/-- The bytes of a suffix, some of which are escaped: a percent sign and two hexadecimal
    digits stand for a byte. -/
def suffixBytes? : List Char → Option (List UInt8)
  | '%' :: a :: b :: cs => do
    let byte := 16 * (← Text.hexValue? a) + (← Text.hexValue? b)
    return UInt8.ofNat byte :: (← suffixBytes? cs)
  | c :: cs => if c == '%' then none else (suffixBytes? cs).map (UInt8.ofNat c.toNat :: ·)
  | [] => some []

/-- The suffix of a tag. -/
def tagSuffix (p : Place) : Option (String × Place) :=
  let cs := p.rest.takeWhile isTagChar
  if cs.isEmpty then none
  else do
    let suffix ← String.fromUTF8? ⟨(← suffixBytes? cs).toArray⟩
    return (suffix, p.skip cs.length)

/-- A tag: in angle brackets, alone, or with a handle between exclamation marks. -/
def tagAt (p : Place) : Option (Option String × String × Place) :=
  match p.peek 1 with
  | some '<' => do
    let (suffix, p) ← tagSuffix (p.skip 2)
    if p.peek 0 == some '>' then some (none, suffix, p.next) else none
  | o =>
    if endsPlain o then some (none, "!", p.next)
    else
      let word := p.next.rest.takeWhile fun c => !endsWord (some c) && c != '!'
      let p' := p.skip (word.length + 1)
      if p'.peek 0 == some '!' then
        if word.all isNameChar then
          (tagSuffix p'.next).map fun (suffix, q) =>
            (some (String.ofList ('!' :: word ++ ['!'])), suffix, q)
        else none
      else (tagSuffix p.next).map fun (suffix, q) => (some "!", suffix, q)

/-- The handle and the prefix that a directive gives it. -/
def handlePrefix? (value : List Char) : Option (String × String) := do
  let start := (Place.start value).skipWhile (· == ' ')
  if start.peek 0 != some '!' then none
  let word := start.next.rest.takeWhile isNameChar
  let handle :=
    if start.peek 1 == some ' ' then ['!'] else '!' :: word ++ ['!']
  if !handle.isPrefixOf start.rest then none
  let p := start.skip handle.length
  if p.peek 0 != some ' ' then none
  let (pre, p) ← tagSuffix (p.skipWhile (· == ' '))
  if !endsWord (p.peek 0) || !p.skipComment.rest.isEmpty then none
  return (String.ofList handle, pre)

/-- A tag. -/
def tagged (s : Scanner) : Option Scanner := do
  let s ← s.saveKey
  let (handle, suffix, p) ← tagAt s.place
  if !endsWord (p.peek 0) then none
  return (s.allowKey false).goto p |>.emit (.tag handle suffix)

/-- A block scalar. -/
def block (folded : Bool) (s : Scanner) : Option Scanner := do
  let s ← (s.allowKey true).dropKey
  let (cs, p) ← blockScalar folded s.indent s.place.next
  return (s.goto p).emit (.scalar (String.ofList cs) false)

/-- A quoted scalar. -/
def quoted (double : Bool) (s : Scanner) : Option Scanner := do
  let s ← s.saveKey
  let (cs, p) ← quotedRest double (s.place.rest.length + 1) s.place.next
  return (s.allowKey false).goto p |>.emit (.scalar (String.ofList cs) false)

/-- A plain scalar. -/
def plain (s : Scanner) : Option Scanner := do
  let s ← s.saveKey
  let (cs, p, passed) :=
    plainRest (s.flow != 0) (s.indent + 1) [] false (s.place.rest.length + 1) s.place
  return (s.allowKey passed).goto p |>.emit (.scalar (String.ofList cs) true)

/-- A plain scalar begins here. -/
def startsPlain (s : Scanner) (c : Char) : Bool :=
  let p := s.place
  (!endsPlain (some c) && !"-?:,[]\x7b\x7d#&*!|>'\"%@\x60".toList.contains c)
    || (!endsPlain (p.peek 1) && (c == '-' || (s.flow == 0 && (c == '?' || c == ':'))))

/-- Read the token that begins with the character `c` at the place of the scanner. -/
def token (c : Char) (s : Scanner) : Option Scanner :=
  let p := s.place
  let apart := s.flow != 0 || endsPlain (p.peek 1)
  if c == '%' && p.column == 0 then s.directive
  else if p.column == 0 && p.atMarker then
    s.marker (if c == '-' then .documentStart else .documentEnd)
  else if c == '[' then s.openFlow .flowSequence
  else if c == '\x7b' then s.openFlow .flowMapping
  else if c == ']' then s.closeFlow .flowSequenceEnd
  else if c == '\x7d' then s.closeFlow .flowMappingEnd
  else if c == ',' then s.flowEntry
  else if c == '-' && endsPlain (p.peek 1) then s.blockEntry
  else if c == '?' && apart then s.explicitKey
  else if c == ':' && apart then s.mappingValue
  else if c == '*' then s.anchored .alias
  else if c == '&' then s.anchored .anchor
  else if c == '!' then s.tagged
  else if c == '|' && s.flow == 0 then s.block false
  else if c == '>' && s.flow == 0 then s.block true
  else if c == '\'' then s.quoted false
  else if c == '"' then s.quoted true
  else if s.startsPlain c then s.plain
  else none

/-- Read tokens up to the end of the text. -/
def run : Nat → Scanner → Option Scanner
  | 0, _ => none
  | fuel + 1, s => do
    let s := s.skipSpace (s.place.rest.length + 1)
    let s ← s.dropStaleKeys
    let s := s.unwind s.place.column
    match s.place.rest with
    | [] => (s.unwind (-1)).dropKey
    | c :: _ => run fuel (← s.token c)

end Scanner

/-- The tokens of a text. -/
def Token.ofText? (text : List Char) : Option (List Token) :=
  if text.all isAllowed then
    let cs := match text with
      | c :: rest => if c.toNat == 0xFEFF then rest else text
      | [] => []
    (Scanner.run (text.length + 2) (.start cs)).map fun s => s.slots.toList.flatten
  else none

end PropTutor.Yaml
