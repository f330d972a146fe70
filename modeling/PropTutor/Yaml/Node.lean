/-
  The node of a YAML document.

  A node is a scalar, a sequence or a mapping, with the tag that was given to it. A reference
  to an anchor is replaced by the node that has it. A text holds at most one document. Nodes
  nest, so the functions below call each other; each call uses up one unit of fuel, and a
  document has fewer nodes than tokens, two empty ones for each token at most.
-/
import PropTutor.Yaml.Tag
import PropTutor.Yaml.Token

namespace PropTutor.Yaml

/-- A node of a document. -/
inductive Node where
  | scalar (tag : Option String) (text : String) (plain : Bool)
  | sequence (tag : Option String) (items : List Node)
  | mapping (tag : Option String) (pairs : List (Node × Node))
  deriving Inhabited

namespace Node

/-- The tokens that are left, the anchors met so far, and what the handles of tags stand for.
    An anchor has no node while its node is being read. -/
structure Rest where
  tokens : List Token
  anchors : List (String × Option Node)
  handles : List (String × String)

/-- What handles stand for if no directive says otherwise. -/
def standardHandles : List (String × String) := [("!", "!"), ("!!", Tag.stem)]

/-- A reader of nodes. -/
abbrev Reader := StateT Rest Option

/-- The next token. -/
def peek : Reader (Option Token) := return (← get).tokens.head?

/-- Pass the next token. -/
def pass : Reader Unit := modify fun r => { r with tokens := r.tokens.tail }

/-- Pass the next token if it is this one. -/
def passIf (t : Token) : Reader Bool := do
  if (← peek) == some t then do
    pass
    return true
  else return false

/-- The next token has to be this one. -/
def expect (t : Token) : Reader Unit := do if !(← passIf t) then failure

/-- The next token is one of these. -/
def sees (ts : List Token) : Reader Bool := return (← peek).any ts.contains

/-- The node of nothing. -/
def empty : Node := scalar none "" true

/-- The tag that a handle and a suffix make. -/
def tagName (suffix : String) : Option String → Reader String
  | none => return suffix
  | some handle => do return (← (← get).handles.lookup handle) ++ suffix

/-- What stands in front of a node: an anchor and a tag, each at most once. -/
def properties : Reader (Option String × Option String) := do
  let anchor : Reader (Option String) := do
    match ← peek with
    | some (.anchor name) => do
      pass
      return some name
    | _ => return none
  let tag : Reader (Option String) := do
    match ← peek with
    | some (.tag handle suffix) => do
      pass
      return some (← tagName suffix handle)
    | _ => return none
  match ← anchor with
  | some name => return (some name, ← tag)
  | none =>
    let t ← tag
    return (← if t.isSome then anchor else pure none, t)

/-- Keep the place of an anchor; an anchor stands once in a document. -/
def reserve : Option String → Reader Unit
  | none => return
  | some name => do
    if ((← get).anchors.lookup name).isSome then failure
    modify fun r => { r with anchors := (name, none) :: r.anchors }

/-- Give an anchor its node. -/
def bindAnchor (node : Node) : Option String → Reader Unit
  | none => return
  | some name => modify fun r => { r with anchors := (name, some node) :: r.anchors }

mutual

/-- A node. A block may begin here if `block` is set, and a sequence whose hyphens are not
    indented further than their key if `loose` is. -/
def read (block loose : Bool) : Nat → Reader Node
  | 0 => failure
  | fuel + 1 => do
    match ← peek with
    | some (.alias name) => do
      pass
      match (← get).anchors.lookup name with
      | some (some node) => return node
      | _ => failure
    | _ => do
      let (anchor, tag) ← properties
      reserve anchor
      let ownTag := if tag == some "!" then none else tag
      let node ←
        if loose && (← sees [.blockEntry]) then
          pure (sequence ownTag (← readLoose fuel))
        else match ← peek with
          | some (.scalar text plain) => do
            pass
            pure (scalar ownTag text (plain && tag.isNone || tag == some "!"))
          | some .flowSequence => do
            pass
            pure (sequence ownTag (← readFlowSequence fuel true))
          | some .flowMapping => do
            pass
            pure (mapping ownTag (← readFlowMapping fuel true))
          | some .blockSequence => do
            if !block then failure
            pass
            pure (sequence ownTag (← readBlockSequence fuel))
          | some .blockMapping => do
            if !block then failure
            pass
            pure (mapping ownTag (← readBlockMapping fuel))
          | _ =>
            if anchor.isSome || tag.isSome then
              pure (scalar ownTag "" (tag.isNone || tag == some "!"))
            else failure
      bindAnchor node anchor
      return node

/-- A node, or nothing where one of these tokens or the end of the text is next. -/
def readUnless (stops : List Token) (block loose : Bool) : Nat → Reader Node
  | 0 => failure
  | fuel + 1 => do
    if ← sees stops then return empty else read block loose fuel

/-- The items of an indented sequence. -/
def readBlockSequence : Nat → Reader (List Node)
  | 0 => failure
  | fuel + 1 => do
    if ← passIf .blockEntry then
      let item ← readUnless [.blockEntry, .blockEnd] true false fuel
      return item :: (← readBlockSequence fuel)
    else do
      expect .blockEnd
      return []

/-- The items of a sequence that is not indented. -/
def readLoose : Nat → Reader (List Node)
  | 0 => failure
  | fuel + 1 => do
    if ← passIf .blockEntry then
      let item ← readUnless [.blockEntry, .key, .value, .blockEnd] true false fuel
      return item :: (← readLoose fuel)
    else return []

/-- The pairs of an indented mapping. -/
def readBlockMapping : Nat → Reader (List (Node × Node))
  | 0 => failure
  | fuel + 1 => do
    let stops := [Token.key, .value, .blockEnd]
    if ← passIf .key then
      let k ← readUnless stops true true fuel
      let v ← if ← passIf .value then readUnless stops true true fuel else pure empty
      return (k, v) :: (← readBlockMapping fuel)
    else do
      expect .blockEnd
      return []

/-- The items of a sequence in brackets; `first` tells that no comma is needed yet. A pair
    with a colon is a mapping of its own. -/
def readFlowSequence : Nat → Bool → Reader (List Node)
  | 0, _ => failure
  | fuel + 1, first => do
    if ← passIf .flowSequenceEnd then return []
    else do
      if !first then expect .flowEntry
      if ← passIf .flowSequenceEnd then return []
      else if ← passIf .key then
        let k ← readUnless [.value, .flowEntry, .flowSequenceEnd] false false fuel
        let v ←
          if ← passIf .value then readUnless [.flowEntry, .flowSequenceEnd] false false fuel
          else pure empty
        return mapping none [(k, v)] :: (← readFlowSequence fuel false)
      else
        let item ← read false false fuel
        return item :: (← readFlowSequence fuel false)

/-- The pairs of a mapping in braces; `first` tells that no comma is needed yet. -/
def readFlowMapping : Nat → Bool → Reader (List (Node × Node))
  | 0, _ => failure
  | fuel + 1, first => do
    if ← passIf .flowMappingEnd then return []
    else do
      if !first then expect .flowEntry
      if ← passIf .flowMappingEnd then return []
      else if ← passIf .key then
        let k ← readUnless [.value, .flowEntry, .flowMappingEnd] false false fuel
        let v ←
          if ← passIf .value then readUnless [.flowEntry, .flowMappingEnd] false false fuel
          else pure empty
        return (k, v) :: (← readFlowMapping fuel false)
      else
        let k ← read false false fuel
        return (k, empty) :: (← readFlowMapping fuel false)

end

/-- The value of a `YAML` directive names a version whose first number is one. -/
def isVersionOne (value : List Char) : Bool :=
  let cs := value.dropWhile (· == ' ')
  let major := cs.takeWhile Char.isDigit
  match cs.drop major.length with
  | '.' :: cs =>
    let minor := cs.takeWhile Char.isDigit
    let rest := cs.drop minor.length
    let tail := rest.dropWhile (· == ' ')
    major.dropWhile (· == '0') == ['1'] && !minor.isEmpty
      && (rest.isEmpty || rest.head? == some ' ') && (tail.isEmpty || tail.head? == some '#')
  | _ => false

/-- The directives in front of a document, which give handles a meaning. The version may be
    given once, and so may each handle. -/
def passDirectives (versionSeen : Bool) (given : List (String × String)) : Nat → Reader Unit
  | 0 => failure
  | fuel + 1 => do
    match ← peek with
    | some (.directive name value) => do
      pass
      if name == "YAML" then
        if versionSeen || !isVersionOne value then failure
        passDirectives true given fuel
      else if name == "TAG" then
        let (handle, pre) ← Scanner.handlePrefix? value
        if (given.lookup handle).isSome then failure
        passDirectives versionSeen ((handle, pre) :: given) fuel
      else passDirectives versionSeen given fuel
    | _ => modify fun r => { r with handles := given ++ r.handles }

/-- Pass the markers that end a document. -/
def passEnds : Nat → Reader Unit
  | 0 => return
  | fuel + 1 => do if ← passIf .documentEnd then passEnds fuel

/-- The node of the only document, or nothing if there is no document. -/
def document (fuel : Nat) : Reader (Option Node) := do
  match ← peek with
  | none => return none
  | some t => do
    let node ← match t with
      | .directive .. | .documentStart => do
        passDirectives false [] fuel
        expect .documentStart
        match ← peek with
        | none => pure empty
        | some (.directive ..) | some .documentStart | some .documentEnd => pure empty
        | _ => read true false fuel
      | _ => read true false fuel
    passEnds fuel
    if (← peek).isSome then failure
    return some node

end Node

/-- The node that a text holds: `none` if the text is malformed, `some none` if it is
    empty. -/
def Node.ofText? (text : List Char) : Option (Option Node) := do
  let tokens ← Token.ofText? text
  let (node, _) ← (Node.document (4 * tokens.length + 8)).run ⟨tokens, [], Node.standardHandles⟩
  return node

end PropTutor.Yaml
