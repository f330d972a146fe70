/-
  The signs of propositional logic and the spellings in which they may be typed.

  Each sign has one display symbol and several input spellings, its display symbol
  among them. No spelling is the beginning of another one (`spelling_unique`), so a
  text begins with at most one of them.
-/
import PropTutor.Formula.Basic

namespace PropTutor

/-- A sign that acts on formulas: the negation or a binary connective. -/
inductive Sign where
  | neg
  | binary (c : Connective)
  deriving DecidableEq, Inhabited

namespace Sign

/-- The signs in the order of the catalogue. -/
def all : List Sign := [neg, binary .and, binary .or, binary .implies, binary .iff]

/-- The name of a sign in messages and in the catalogue. -/
def name : Sign → String
  | neg => "NOT"
  | binary c => c.name

/-- The symbol a sign is displayed with. -/
def symbol : Sign → String
  | neg => negationSymbol
  | binary c => c.symbol

/-- The spellings in which a sign may be typed. -/
def spellings : Sign → List String
  | neg => ["~", "¬", "!"]
  | binary .and => ["&", "^", "∧"]
  | binary .or => ["|", "∨"]
  | binary .implies => ["->", "=>", "→"]
  | binary .iff => ["<->", "<=>", "↔"]

/-- Every spelling with its sign. -/
def table : List (List Char × Sign) :=
  all.flatMap fun s => s.spellings.map fun t => (t.toList, s)

/-- The spelling with which a text begins, and its sign. -/
def atHead? (text : List Char) : Option (List Char × Sign) :=
  table.find? fun entry => entry.1.isPrefixOf text

theorem mem_all (s : Sign) : s ∈ all := by
  rcases s with _ | c
  · decide
  · cases c <;> decide

theorem symbol_mem_spellings (s : Sign) : s.symbol ∈ s.spellings := by
  rcases s with _ | c
  · decide
  · cases c <;> decide

/-- A spelling that begins with another spelling is that spelling. -/
theorem spelling_unique :
    ∀ a ∈ table, ∀ b ∈ table, a.1.isPrefixOf b.1 = true → a = b := by
  decide

end Sign

end PropTutor
