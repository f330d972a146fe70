/-
  The value of a YAML node.

  A node has the tag that was given to it, or else the one that its form demands, and the tag
  says which kind of value the node has. Keys must not be collections, and a later value of a
  key replaces an earlier one. A mapping takes in the pairs of the mappings that are merged
  into it, its own pairs counting more.

  Collections are filled level by level: of two errors, the one that lies less deep is met
  first. Two things are left out and refused as malformed: a reference to a node from inside
  that node, and a mapping with a default value in place of a scalar.
-/
import PropTutor.Keyed
import PropTutor.Text.Base64
import PropTutor.Yaml.Node
import PropTutor.Yaml.Number
import PropTutor.Yaml.Value

namespace PropTutor.Yaml

/-! ## Order of errors -/

/-- What is built of a node, or an error and how deep inside the node it lies. -/
abbrev Built (α : Type) := Except (Nat × YamlError) α

namespace Built

variable {α β : Type}

/-- An error in the node itself. -/
def here (x : Except YamlError α) : Built α := x.mapError (0, ·)

/-- The node breaks a rule of the language. -/
def malformed : Built α := here (.error .malformed)

/-- The contents of a node. -/
def inside (x : Built α) : Built α := x.mapError fun (depth, e) => (depth + 1, e)

/-- Two things on one level. Of errors that are equally deep the first one counts. -/
def both (x : Built α) (y : Built β) : Built (α × β) :=
  match x, y with
  | .ok a, .ok b => .ok (a, b)
  | .ok _, .error e => .error e
  | .error e, .ok _ => .error e
  | .error e, .error e' => .error (if e'.1 < e.1 then e' else e)

/-- All pairs of a mapping, each key once: those that are merged into it, and its own. -/
def allPairs (pairs : Built (List (Value × Value)) × Built (List (Value × Value))) :
    Built (List (Value × Value)) :=
  (fun (merged, own) => dedupKeys (merged ++ own)) <$> both pairs.1 pairs.2

/-- The key of a mapping. A collection is none, whatever it holds. -/
def asKey : Built Value → Built Value
  | .ok v => if v.isKey then .ok v else malformed
  | .error (0, e) => .error (0, e)
  | .error _ => malformed

end Built

open Built

/-! ## Scalars -/

/-- The truth value that a scalar spells. Only ASCII letters are made small. -/
def readTruth (text : String) : Except YamlError Bool :=
  let small := text.map Char.toLower
  match truthWords.lookup small with
  | some b => .ok b
  | none => .error (.badTruth small)

/-- The date or moment that a scalar spells. A line feed at its end does not count. -/
def readTimestamp (text : String) : Except YamlError Value :=
  match readTimestamp? (dropFinalBreak text.toList) with
  | none => .error .noTimestamp
  | some (d, c) =>
    match timestampFault? d c with
    | some fault => .error (.badTimestamp fault)
    | none => .ok (match c with
      | some c => .moment d c
      | none => .date d)

/-- The bytes that a scalar spells. -/
def readBytes (text : String) : Except YamlError Value :=
  let cs := text.toList
  match if cs.all (·.toNat < 128) then Text.base64? cs else none with
  | some bs => .ok (.bytes bs)
  | none => .error .malformed

/-- The value of a scalar with a tag. -/
def scalarValue (text : String) : Option Tag → Built Value
  | some .null => .ok .null
  | some .bool => here (.bool <$> readTruth text)
  | some .int => here (.int <$> readInteger text)
  | some .float => here (.float <$> readFloat text)
  | some .timestamp => here (readTimestamp text)
  | some .str => .ok (.str text)
  | some .binary => here (readBytes text)
  | some .seq | some .pairs | some .omap | some .set | some .map => inside malformed
  | some .merge | some .value | none => malformed

/-! ## Nodes -/

/-- The tag of a node, if the language knows it. -/
def Node.tag? : Node → Option Tag
  | .scalar none text plain => some (if plain then .ofPlain text else .str)
  | .sequence none _ => some .seq
  | .mapping none _ => some .map
  | .scalar (some name) _ _ => Tag.ofName? name
  | .sequence (some name) _ => Tag.ofName? name
  | .mapping (some name) _ => Tag.ofName? name

mutual

/-- What is merged into a mapping with these pairs, and into those mappings, are mappings or
    sequences of mappings. -/
def mergesFit : List (Node × Node) → Bool
  | [] => true
  | (k, v) :: rest => (k.tag? != some .merge || v.fitsMerge) && mergesFit rest

/-- The node can be merged into a mapping. -/
def Node.fitsMerge : Node → Bool
  | .mapping _ pairs => mergesFit pairs
  | .sequence _ items => itemsFitMerge items
  | .scalar .. => false

/-- The items of a sequence can be merged into a mapping. -/
def itemsFitMerge : List Node → Bool
  | [] => true
  | .mapping _ pairs :: rest => mergesFit pairs && itemsFitMerge rest
  | _ => false

end

mutual

/-- The value of a node. -/
def Node.value : Node → Built Value
  | .scalar tag text plain => scalarValue text (Node.scalar tag text plain).tag?
  | .sequence tag items =>
    match (Node.sequence tag items).tag? with
    | some .seq => inside (.list <$> itemValues items)
    | some .pairs | some .omap => inside (.pairList <$> itemPairs items)
    | some .set | some .map => inside malformed
    | _ => malformed
  | .mapping tag pairs =>
    let contents := if mergesFit pairs then allPairs (pairValues pairs) else malformed
    match (Node.mapping tag pairs).tag? with
    | some .map => inside (.mapping <$> contents)
    | some .set => inside ((fun ps => .set (ps.map (·.1))) <$> contents)
    | some .seq | some .pairs | some .omap => inside malformed
    | _ => malformed

/-- The values of the items of a sequence. -/
def itemValues : List Node → Built (List Value)
  | [] => .ok []
  | node :: rest => (fun (v, vs) => v :: vs) <$> both node.value (itemValues rest)

/-- The pairs in the items of a sequence, each of them a mapping with one pair. -/
def itemPairs : List Node → Built (List (Value × Value))
  | [] => .ok []
  | .mapping _ [(k, v)] :: rest =>
    (fun (p, ps) => p :: ps) <$> both (both k.value v.value) (itemPairs rest)
  | _ => malformed

/-- The pairs that are merged into a mapping, and its own. Where the sign for a default value
    is a key, it is a text. -/
def pairValues : List (Node × Node) → Built (List (Value × Value)) × Built (List (Value × Value))
  | [] => (.ok [], .ok [])
  | (k, v) :: rest =>
    let (merged, own) := pairValues rest
    if k.tag? == some .merge then
      ((fun (more, ps) => more ++ ps) <$> both v.pairsToMerge merged, own)
    else
      let key := match k.tag?, k with
        | some .value, .scalar _ text _ => .ok (.str text)
        | _, _ => asKey k.value
      (merged, (fun (p, ps) => p :: ps) <$> both (both key v.value) own)

/-- The pairs that merging a node brings. -/
def Node.pairsToMerge : Node → Built (List (Value × Value))
  | .mapping _ pairs => allPairs (pairValues pairs)
  | .sequence _ items => itemsToMerge items
  | .scalar .. => malformed

/-- The pairs that merging several nodes brings, those of an earlier one counting more. -/
def itemsToMerge : List Node → Built (List (Value × Value))
  | [] => .ok []
  | node :: rest => (fun (ps, more) => ps ++ more) <$> both (itemsToMerge rest) node.pairsToMerge

end

/-- The value that a text holds; an empty text holds null. -/
def Value.ofText (s : String) : Except YamlError Value :=
  match Node.ofText? (unifyBreaks s.toList) with
  | none => .error .malformed
  | some none => .ok .null
  | some (some node) => node.value.mapError (·.2)

end PropTutor.Yaml
