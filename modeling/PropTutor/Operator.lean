/-
  The catalogue of logical operators.

  It lists every operator that can be displayed, by family of logic. The five operators of
  propositional logic can be typed and evaluated; the others have no input spelling.
-/
import PropTutor.Formula.Sign
import PropTutor.Keyed

namespace PropTutor

/-- The families of logic. -/
inductive LogicFamily where
  | propositional
  | modal
  | firstOrder
  | temporal
  | deontic
  | epistemic
  deriving DecidableEq, Inhabited

namespace LogicFamily

/-- The families in the order of the catalogue. -/
def all : List LogicFamily := [propositional, modal, firstOrder, temporal, deontic, epistemic]

/-- The name of a family. -/
def name : LogicFamily → String
  | propositional => "PROPOSITIONAL"
  | modal => "MODAL"
  | firstOrder => "FIRST_ORDER"
  | temporal => "TEMPORAL"
  | deontic => "DEONTIC"
  | epistemic => "EPISTEMIC"

/-- The family with this name. -/
def ofName? (s : String) : Option LogicFamily := all.find? (·.name == s)

theorem ofName?_name (family : LogicFamily) : ofName? family.name = some family := by
  cases family <;> decide

end LogicFamily

/-- How advanced an operator is. -/
inductive OperatorLevel where
  | beginner
  | intermediate
  | advanced
  | expert
  deriving DecidableEq, Inhabited

/-- The name of a level. -/
def OperatorLevel.name : OperatorLevel → String
  | beginner => "BEGINNER"
  | intermediate => "INTERMEDIATE"
  | advanced => "ADVANCED"
  | expert => "EXPERT"

/-- One entry of the catalogue. The greater precedence binds tighter. -/
structure LogicOperator where
  id : String
  symbol : String
  name : String
  family : LogicFamily
  arity : Nat
  precedence : Nat
  description : String
  sample : String
  level : OperatorLevel
  alternatives : List String
  inputs : List String
  deriving DecidableEq, Inhabited

namespace LogicOperator

/-- The operator can be typed. -/
def isParseable (op : LogicOperator) : Bool := !op.inputs.isEmpty

/-- The entry of a sign of propositional logic. The negation binds tighter than every
    connective. -/
def ofSign (s : Sign) (name description sample : String) (alternatives : List String) :
    LogicOperator where
  id := s.name
  symbol := s.symbol
  name := name
  family := .propositional
  arity := match s with
    | .neg => 1
    | .binary _ => 2
  precedence := match s with
    | .neg => 5
    | .binary c => c.strength
  description := description
  sample := sample
  level := .beginner
  alternatives := alternatives
  inputs := s.spellings

/-- The entry of an operator that is displayed only. -/
def displayed (id symbol name : String) (family : LogicFamily) (arity : Nat)
    (description sample : String) (level : OperatorLevel) : LogicOperator where
  id := id
  symbol := symbol
  name := name
  family := family
  arity := arity
  precedence := if arity == 1 then 5 else 2
  description := description
  sample := sample
  level := level
  alternatives := []
  inputs := []

/-- The operators of propositional logic. -/
def propositional : List LogicOperator := [
  ofSign .neg "Negation" "Flips the truth value: if P is true, ¬P is false." "¬P"
    ["~", "!", "NOT"],
  ofSign (.binary .and) "Conjunction" "True only when both operands are true." "P ∧ Q"
    ["&", "&&", "^", "AND"],
  ofSign (.binary .or) "Disjunction" "True when at least one operand is true." "P ∨ Q"
    ["|", "||", "OR"],
  ofSign (.binary .implies) "Implication"
    "False only when the antecedent is true and the consequent is false." "P → Q"
    ["->", "=>", "⊃"],
  ofSign (.binary .iff) "Biconditional" "True when both operands have the same truth value."
    "P ↔ Q" ["<->", "<=>", "≡"]]

/-- The operators of other logics. -/
def displayOnly : List LogicOperator := [
  displayed "NECESSARY" "□" "Necessity" .modal 1
    "The proposition holds in every accessible world." "□P" .intermediate,
  displayed "POSSIBLE" "◇" "Possibility" .modal 1
    "The proposition holds in some accessible world." "◇P" .intermediate,
  displayed "FORALL" "∀" "Universal quantifier" .firstOrder 1
    "The property holds for every element of the domain." "∀x P(x)" .intermediate,
  displayed "EXISTS" "∃" "Existential quantifier" .firstOrder 1
    "The property holds for at least one element of the domain." "∃x P(x)" .intermediate,
  displayed "ALWAYS" "G" "Globally" .temporal 1
    "The proposition holds at every future instant." "G P" .advanced,
  displayed "EVENTUALLY" "F" "Eventually" .temporal 1
    "The proposition holds at some future instant." "F P" .advanced,
  displayed "UNTIL" "U" "Until" .temporal 2
    "The left operand holds until the right one does." "P U Q" .advanced,
  displayed "OBLIGATORY" "O" "Obligation" .deontic 1
    "It is obligatory that the proposition holds." "O P" .advanced,
  displayed "PERMITTED" "P" "Permission" .deontic 1
    "It is permitted that the proposition holds." "P P" .advanced,
  displayed "KNOWS" "K" "Knowledge" .epistemic 1
    "The agent knows that the proposition is true." "K_a P" .expert,
  displayed "BELIEVES" "B" "Belief" .epistemic 1
    "The agent believes that the proposition is true." "B_a P" .expert]

/-- Every operator in the order of the catalogue. -/
def all : List LogicOperator := propositional ++ displayOnly

/-- The operators of a family. -/
def ofFamily (family : LogicFamily) : List LogicOperator := all.filter (·.family == family)

/-- The operator with this identifier. -/
def ofId? (id : String) : Option LogicOperator := all.find? (·.id == id)

/-- The first operator that has this text as its symbol, an alternative or an input. -/
def ofSymbol? (s : String) : Option LogicOperator :=
  all.find? fun op => s == op.symbol || op.alternatives.contains s || op.inputs.contains s

/-- Every input spelling with the identifier of its operator. -/
def inputSpellings : List (String × String) :=
  propositional.flatMap fun op => op.inputs.map (·, op.id)

end LogicOperator

end PropTutor
