/-
  The text of YAML scalars: plain, quoted, and in blocks.

  In plain and quoted scalars a line break reads as a space, and of several breaks in a row
  the first is dropped. A block scalar keeps its lines, or joins those that begin with no
  blank if it is folded. Each loop moves on in the text, so the number of characters left
  bounds it.
-/
import PropTutor.Text.Hex
import PropTutor.Yaml.Place

namespace PropTutor.Yaml

/-- Characters, and the place behind them. -/
abbrev Piece := List Char × Place

/-- What a line break and the breaks after it read as. -/
def foldBreaks (first : Char) (more : List Char) : List Char :=
  if first != '\n' then first :: more else if more.isEmpty then [' '] else more

/-! ## Quoted scalars -/

/-- The character that a backslash and this letter stand for. -/
def simpleEscapes : List (Char × Nat) := [
  ('0', 0), ('a', 7), ('b', 8), ('t', 9), ('\t', 9), ('n', 10), ('v', 11), ('f', 12), ('r', 13),
  ('e', 27), (' ', 32), ('"', 34), ('\\', 92), ('/', 47), ('N', 0x85), ('_', 0xA0),
  ('L', 0x2028), ('P', 0x2029)]

/-- The letters that announce a code point, and the number of its digits. -/
def codeEscapes : List (Char × Nat) := [('x', 2), ('u', 4), ('U', 8)]

/-- The number that hexadecimal digits spell. -/
def hexNumber? (ds : List Char) : Option Nat :=
  ds.foldlM (fun n d => (Text.hexValue? d).map (16 * n + ·)) 0

/-- The empty lines here and the blanks that begin the next line. -/
def quotedBreaks : Nat → Place → Option Piece
  | 0, _ => none
  | fuel + 1, p =>
    if p.atMarker then none
    else
      let p := p.skipWhile fun c => c == ' ' || c == '\t'
      match p.takeBreak? with
      | some (c, p) => (quotedBreaks fuel p).map fun (cs, p) => (c :: cs, p)
      | none => some ([], p)

/-- Blanks and line breaks inside quotes. -/
def quotedSpace (p : Place) : Option Piece :=
  let blanks := p.rest.takeWhile fun c => c == ' ' || c == '\t'
  let p := p.skip blanks.length
  match p.takeBreak? with
  | some (c, p) =>
    (quotedBreaks (p.rest.length + 1) p).map fun (cs, p) => (foldBreaks c cs, p)
  | none => if p.rest.isEmpty then none else some (blanks, p)

/-- What a backslash stands for; the place is behind the backslash. -/
def quotedEscape (p : Place) : Option Piece :=
  match p.rest with
  | [] => none
  | c :: _ =>
    match simpleEscapes.lookup c with
    | some n => some ([Char.ofNat n], p.next)
    | none =>
      match codeEscapes.lookup c with
      | some count =>
        let ds := p.next.rest.take count
        if ds.length < count then none
        else (hexNumber? ds).bind fun n =>
          if n < 0x110000 then some ([Char.ofNat n], p.skip (count + 1)) else none
      | none =>
        match p.takeBreak? with
        | some (_, p) => quotedBreaks (p.rest.length + 1) p
        | none => none

/-- The rest of a scalar in single quotes, or in double quotes if the flag is set. -/
def quotedRest (double : Bool) : Nat → Place → Option Piece
  | 0, _ => none
  | fuel + 1, p =>
    let more (piece : Option Piece) : Option Piece := do
      let (cs, p) ← piece
      let (ds, p) ← quotedRest double fuel p
      return (cs ++ ds, p)
    match p.rest with
    | [] => none
    | c :: _ =>
      if c == '\'' && !double then
        if p.peek 1 == some '\'' then more (some (['\''], p.skip 2)) else some ([], p.next)
      else if c == '"' && double then some ([], p.next)
      else if c == '\\' && double then more (quotedEscape p.next)
      else if c == ' ' || c == '\t' || isBreak c then more (quotedSpace p)
      else more (some ([c], p.next))

/-! ## Plain scalars -/

/-- The characters of a plain scalar up to the next blank. Inside brackets, commas and
    brackets end it too. -/
def plainRun (flow : Bool) : List Char → List Char
  | [] => []
  | c :: cs =>
    if endsPlain (some c) then []
    else if c == ':'
        && (endsPlain cs.head? || (flow && ",[]\x7b\x7d".toList.contains (cs.headD 'a'))) then []
    else if flow && ",?[]\x7b\x7d".toList.contains c then []
    else c :: plainRun flow cs

/-- The empty lines here and the spaces that begin the next line; nothing before a marker. -/
def plainBreaks : Nat → Place → Option (List Char) × Place
  | 0, p => (none, p)
  | fuel + 1, p =>
    if p.atMarker then (none, p)
    else
      let p := p.skipWhile (· == ' ')
      match p.takeBreak? with
      | some (c, p) =>
        let (cs, p) := plainBreaks fuel p
        (cs.map (c :: ·), p)
      | none => (some [], p)

/-- Spaces and line breaks inside a plain scalar; nothing if the scalar ends here. The flag
    tells whether a line break was passed. -/
def plainSpace (p : Place) : List Char × Place × Bool :=
  let spaces := p.rest.takeWhile (· == ' ')
  let p := p.skip spaces.length
  match p.takeBreak? with
  | some (c, p) =>
    let (cs, p) := plainBreaks (p.rest.length + 1) p
    ((cs.map (foldBreaks c)).getD [], p, true)
  | none => (spaces, p, false)

/-- A plain scalar from here on; `space` stands before its next characters. The flag tells
    whether a line break was passed behind it. -/
def plainRest (flow : Bool) (indent : Int) (space : List Char) (passed : Bool) :
    Nat → Place → List Char × Place × Bool
  | 0, p => ([], p, passed)
  | fuel + 1, p =>
    let run := plainRun flow p.rest
    if p.peek 0 == some '#' || run.isEmpty then ([], p, passed)
    else
      let (gap, p, passed) := plainSpace (p.skip run.length)
      if gap.isEmpty || p.peek 0 == some '#' || (!flow && (p.column : Int) < indent) then
        (space ++ run, p, passed)
      else
        let (cs, p, passed) := plainRest flow indent gap passed fuel p
        (space ++ run ++ cs, p, passed)

/-! ## Block scalars -/

/-- What becomes of the line breaks at the end of a block scalar. -/
inductive Chomping where
  | strip
  | clip
  | keep
  deriving DecidableEq

/-- The chomping that a sign announces. -/
def chomping? : Option Char → Option Chomping
  | some '+' => some .keep
  | some '-' => some .strip
  | _ => none

/-- The indentation that a digit announces; zero is not allowed. -/
def increment? : Option Char → Option Nat
  | some c => if c.isDigit then some (c.toNat - 48) else none
  | none => none

/-- The sign and the digit behind the mark of a block scalar, in either order. -/
def blockHeader (p : Place) : Option (Chomping × Option Nat × Place) :=
  let (chomping, increment, p) :=
    match chomping? (p.peek 0), increment? (p.peek 0) with
    | some c, _ =>
      match increment? (p.peek 1) with
      | some n => (c, some n, p.skip 2)
      | none => (c, none, p.next)
    | none, some n =>
      match chomping? (p.peek 1) with
      | some c => (c, some n, p.skip 2)
      | none => (.clip, some n, p.next)
    | none, none => (.clip, none, p)
  if increment == some 0 || !endsWord (p.peek 0) then none else some (chomping, increment, p)

/-- The empty lines at the start of a block scalar, the widest indentation seen, and the
    place of the first other character. -/
def blockIndent (widest : Nat) : Nat → Place → List Char × Nat × Place
  | 0, p => ([], widest, p)
  | fuel + 1, p =>
    match p.takeBreak? with
    | some (c, p) =>
      let (cs, widest, p) := blockIndent widest fuel p
      (c :: cs, widest, p)
    | none =>
      if p.peek 0 == some ' ' then blockIndent (max widest p.next.column) fuel p.next
      else ([], widest, p)

/-- Up to `n` spaces here. -/
def skipIndent (indent : Nat) (p : Place) : Place :=
  p.skip ((p.rest.takeWhile (· == ' ')).take (indent - p.column)).length

/-- The empty lines here; at most `indent` spaces of each line are skipped. -/
def blockBreaks (indent : Nat) : Nat → Place → Piece
  | 0, p => ([], p)
  | fuel + 1, p =>
    let p := skipIndent indent p
    match p.takeBreak? with
    | some (c, p) =>
      let (cs, p) := blockBreaks indent fuel p
      (c :: cs, p)
    | none => ([], p)

/-- The lines of a block scalar. `breaks` holds the empty lines before the next one; the
    answer has the text, the last line break, and the empty lines behind it. -/
def blockLines (folded : Bool) (indent : Nat) (breaks : List Char) :
    Nat → Place → List Char × Option Char × List Char × Place
  | 0, p => ([], none, breaks, p)
  | fuel + 1, p =>
    if p.column != indent || p.rest.isEmpty then ([], none, breaks, p)
    else
      let startsBlank := p.peek 0 == some ' ' || p.peek 0 == some '\t'
      let (line, p) := p.takeLine
      let text := breaks ++ line
      match p.takeBreak? with
      | none => (text, none, [], p)
      | some (c, p) =>
        let (breaks, p) := blockBreaks indent (p.rest.length + 1) p
        if p.column == indent && !p.rest.isEmpty then
          let nextBlank := p.peek 0 == some ' ' || p.peek 0 == some '\t'
          let joint :=
            if folded && c == '\n' && !startsBlank && !nextBlank then
              if breaks.isEmpty then [' '] else []
            else [c]
          let (cs, last, breaks, p) := blockLines folded indent breaks fuel p
          (text ++ joint ++ cs, last, breaks, p)
        else (text, some c, breaks, p)

/-- A block scalar from behind its mark on, below something with the indentation
    `parent`. -/
def blockScalar (folded : Bool) (parent : Int) (p : Place) : Option Piece := do
  let (chomping, increment, p) ← blockHeader p
  let p := p.skipComment
  if !endsLine (p.peek 0) then none
  let p := match p.takeBreak? with
    | some (_, p) => p
    | none => p
  let least := max 1 (parent + 1).toNat
  let fuel := p.rest.length + 1
  let (breaks, indent, p) :=
    match increment with
    | some n =>
      let indent := least + n - 1
      let (breaks, p) := blockBreaks indent fuel p
      (breaks, indent, p)
    | none =>
      let (breaks, widest, p) := blockIndent 0 fuel p
      (breaks, max least widest, p)
  let (text, last, breaks, p) := blockLines folded indent breaks fuel p
  let tail := match chomping with
    | .strip => []
    | .clip => last.toList
    | .keep => last.toList ++ breaks
  return (text ++ tail, p)

end PropTutor.Yaml
