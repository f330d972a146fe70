/-
  Actions: computations that may ask for the settings, write log records, and fail.

  The settings do not change while an action runs, so an action is a function of what asking
  for them would give, settings or an error. Its outcome has the result and the events in
  the order in which they came about, also when it fails. That the settings were asked for
  is an event too, since it decides whether they stay in force afterwards. Actions compose
  as the monad laws say.
-/
import PropTutor.Exercise.Decode
import PropTutor.Logging
import PropTutor.Semantics.Comparison
import PropTutor.Settings.Store

namespace PropTutor

/-- Why an action fails. -/
inductive Failure where
  /-- The exercise or the answer is wrong in a way that is understood. -/
  | diagnosed (error : GradingError)
  /-- A value of this kind was given for an exercise. -/
  | notRecord (kind : String)
  /-- The row of a cell is infinite. -/
  | infiniteRow
  /-- Formulas are not equivalent, and no assignment is found on which they differ. -/
  | noDifference
  | table (error : TableError)
  | settings (error : SettingsError)
  | unknownLevel (name : String)

namespace Failure

/-- The wording of a failure. -/
def message : Failure → String
  | diagnosed error => error.message
  | notRecord kind => (DecodeError.notRecord kind).message
  | infiniteRow => IntegerFault.infinite.message
  | noDifference => "list index out of range"
  | table error => error.message
  | settings error => error.message
  | unknownLevel name => "Unknown level: " ++ Text.quoted name

/-- The failure of reading a stored exercise. -/
def ofDecodeError : DecodeError → Failure
  | .notRecord kind => notRecord kind
  | .diagnosed error => diagnosed error

end Failure

/-- What happens while an action runs. -/
inductive Event where
  /-- The settings were asked for. -/
  | consulted
  | logged (record : LogRecord)
  deriving DecidableEq

/-- How an action ends, and what happened until then. -/
structure Outcome (α : Type) where
  result : Except Failure α
  events : List Event

/-- The log records of an outcome. -/
def Outcome.records {α : Type} (o : Outcome α) : List LogRecord :=
  o.events.filterMap fun
    | .logged r => some r
    | .consulted => none

/-- A computation that may ask for the settings, write log records, and fail. -/
def Action (α : Type) : Type := Except SettingsError Settings → Outcome α

namespace Action

/-- Run an action where asking for the settings gives `s`. -/
def run {α : Type} (a : Action α) (s : Except SettingsError Settings) : Outcome α := a s

/-- Nothing happens, and this is the result. -/
def succeed {α : Type} (x : α) : Action α := fun _ => ⟨.ok x, []⟩

/-- Nothing happens but a failure. -/
def fail {α : Type} (e : Failure) : Action α := fun _ => ⟨.error e, []⟩

/-- One action after another; the second one sees the result of the first and does not run
    if that fails. -/
def andThen {α β : Type} (a : Action α) (f : α → Action β) : Action β := fun s =>
  match a s with
  | ⟨.ok x, events⟩ => ⟨(f x s).result, events ++ (f x s).events⟩
  | ⟨.error e, events⟩ => ⟨.error e, events⟩

instance : Monad Action where
  pure := succeed
  bind := andThen

theorem andThen_succeed {α : Type} (a : Action α) : andThen a succeed = a := by
  funext s
  unfold andThen
  split
  · next x events h => rw [h]; simp [succeed]
  · next e events h => rw [h]

theorem andThen_assoc {α β γ : Type} (a : Action α) (f : α → Action β) (g : β → Action γ) :
    andThen (andThen a f) g = andThen a fun x => andThen (f x) g := by
  funext s
  unfold andThen
  rcases a s with ⟨_ | x, events⟩
  · rfl
  · rcases h : f x s with ⟨_ | y, more⟩ <;> simp [h]

instance : LawfulMonad Action :=
  LawfulMonad.mk' Action andThen_succeed (fun _ _ => rfl) andThen_assoc

/-- Write a log record. -/
def log (source : LogSource) (level : LogLevel) (message : String) : Action Unit := fun _ =>
  ⟨.ok (), [.logged ⟨source, level, message⟩]⟩

/-- Ask for the settings. -/
def settings : Action Settings := fun s => ⟨s.mapError .settings, [.consulted]⟩

/-- The result of a computation without events. -/
def ofExcept {ε α : Type} (failure : ε → Failure) : Except ε α → Action α
  | .ok x => succeed x
  | .error e => fail (failure e)

/-- The result of a computation on truth tables; a table that is too large is logged. -/
def ofTable {α : Type} : Except TableError α → Action α
  | .ok x => succeed x
  | .error (.tooLarge count limit) => do
    log .tables .warning
      ("Rejected truth table over " ++ toString count ++ " variables (limit "
        ++ toString limit ++ ")")
    fail (.table (.tooLarge count limit))
  | .error e => fail (.table e)

/-- A computation on truth tables under the limit of the settings. -/
def tabulating {α : Type} (f : Int → Except TableError α) : Action α := do
  ofTable (f (← settings).maxVariables)

end Action

/-- The truth table of a formula over its own variables or over the given names. The columns
    are checked before the settings are asked for. -/
def TruthTable.action (f : Formula) (names : Option (List String)) : Action TruthTable := do
  let names ← Action.ofTable (TruthTable.columns f names)
  Action.tabulating fun limit => TruthTable.tabulate limit f names

/-- The comparison of two formulas, with as many assignments as are asked for or as the
    settings say. -/
def Comparison.action (shown : Option Int) (f g : Formula) : Action Comparison := do
  let shown ← match shown with
    | some n => pure n
    | none => do pure (← Action.settings).counterexampleLimit
  Action.tabulating fun limit => Comparison.of limit shown f g

/-- The log setup for a level, or for the level of the settings if none is named. -/
def LogSetup.action (level : Option String) : Action LogSetup := do
  let name ← match level with
    | some name => if name.isEmpty then do pure (← Action.settings).logLevel else pure name
    | none => do pure (← Action.settings).logLevel
  match LogSetup.ofLevel? name with
  | some setup => pure setup
  | none => Action.fail (.unknownLevel name)

/-- Run an action on a store. Settings that were asked for stay in force. -/
def SettingsStore.perform {α : Type} (a : Action α) (s : SettingsStore)
    (read : SettingsReader := Settings.ofText) : Outcome α × SettingsStore :=
  let outcome := a.run (s.current read)
  (outcome, if outcome.events.contains .consulted then s.consulted read else s)

end PropTutor
