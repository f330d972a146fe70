/-
  Reading a formula from tokens.

  The reader is a stack machine that takes one token at a time. It either waits for an
  operand or has just completed one, and the stack holds what is still open, innermost
  first: a negation or a parenthesis that waits for its operand, or a left operand whose
  connective waits for the right one. A connective first completes the open connectives
  that bind at least as tightly, so strength and grouping come from `Connective` alone.

  Negations, parentheses and implications that wait for their right operand count as
  nested; more of them than the limit allows is an error. Chains of the other connectives
  are completed from left to right and nest no deeper as they grow.

  Each of the three counts as one level. A reader by descent would enter a parenthesis through
  every strength of connective and a negation in a single step, so a limit on its steps would
  stop at fewer parentheses than negations; the limit here is one on levels.
-/
import PropTutor.Token.Scan

namespace PropTutor

/-- Something open that waits for an operand. -/
inductive Frame where
  | neg
  | paren
  | left (c : Connective) (operand : Formula)
  deriving DecidableEq

/-- The frame counts as a level of nesting. -/
def Frame.nests : Frame → Bool
  | neg => true
  | paren => true
  | left c _ => c.groupsRight

/-- A reader waits for an operand, or has just completed one. -/
inductive Reader where
  | operand (stack : List Frame)
  | operator (stack : List Frame) (done : Formula)
  deriving DecidableEq

/-- The connective `d` on the left of an operand takes it before `c` on its right does. -/
def Connective.takesBefore (d c : Connective) : Bool :=
  c.strength < d.strength || (c.strength == d.strength && !c.groupsRight)

namespace Reader

/-- Complete the negations that wait for this operand. -/
def negate : List Frame → Formula → Reader
  | .neg :: stack, f => negate stack (.neg f)
  | stack, f => operator stack f

/-- Complete the open connectives that take the operand before `c` does. -/
def reduce (c : Connective) : List Frame → Formula → List Frame × Formula
  | .left d l :: stack, f =>
    if d.takesBefore c then reduce c stack (.bin d l f) else (.left d l :: stack, f)
  | stack, f => (stack, f)

/-- Complete everything that is open inside the innermost parenthesis. -/
def unwind : List Frame → Formula → List Frame × Formula
  | .left d l :: stack, f => unwind stack (.bin d l f)
  | .neg :: stack, f => unwind stack (.neg f)
  | stack, f => (stack, f)

/-- Open one more frame, if the limit of nesting allows it. -/
def push (limit : Option Nat) (frame : Frame) (stack : List Frame) : Except SyntaxError Reader :=
  let opened := frame :: stack
  match limit with
  | some n =>
    if frame.nests && n < opened.countP Frame.nests then .error .tooDeep else .ok (operand opened)
  | none => .ok (operand opened)

/-- The error for something that cannot follow a completed operand. -/
def misplaced (stack : List Frame) (found : Found) : SyntaxError :=
  if stack.contains .paren then .unclosed found else .unexpected found

/-- Take one token. -/
def step (limit : Option Nat) : Reader → Token → Except SyntaxError Reader
  | operand stack, t =>
    match t.kind with
    | .atom => .ok (negate stack (.atom t.value))
    | .sign .neg => push limit .neg stack
    | .opening => push limit .paren stack
    | _ => .error (.unexpected (.token t))
  | operator stack f, t =>
    match t.kind with
    | .sign (.binary c) =>
      let (rest, g) := reduce c stack f
      push limit (.left c g) rest
    | .closing =>
      match unwind stack f with
      | (.paren :: rest, g) => .ok (negate rest g)
      | _ => .error (.unexpected (.token t))
    | _ => .error (misplaced stack (.token t))

/-- The formula that was read when the text ends. -/
def finish (stop : Nat) : Reader → Except SyntaxError Formula
  | operand _ => .error (.unexpected (.endOfInput stop))
  | operator stack f =>
    match unwind stack f with
    | ([], g) => .ok g
    | _ => .error (.unclosed (.endOfInput stop))

/-- The reader at the start of a text. -/
def start : Reader := operand []

end Reader

namespace Formula

/-- The formula that the tokens spell, read with at most `limit` levels of nesting. -/
def ofTokens (limit : Option Nat) (ts : Tokens) : Except SyntaxError Formula := do
  (← ts.items.foldlM (Reader.step limit) Reader.start).finish ts.stop

/-- The formula that a text spells, read with at most `limit` levels of nesting. -/
def parseWithin (limit : Option Nat) (s : String) : Except SyntaxError Formula := do
  ofTokens limit (← Tokens.ofText s)

/-- The nesting that is followed where nothing else is said. -/
def nestingLimit : Nat := 1000

/-- The formula that a text spells. -/
def parse (s : String) : Except SyntaxError Formula := parseWithin (some nestingLimit) s

end Formula

end PropTutor
