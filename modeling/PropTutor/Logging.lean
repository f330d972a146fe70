/-
  Log records and log levels.
-/
namespace PropTutor

/-- The level of a record that is written here. -/
inductive LogLevel where
  | debug
  | warning
  deriving DecidableEq

/-- The name of a level. -/
def LogLevel.name : LogLevel → String
  | debug => "DEBUG"
  | warning => "WARNING"

/-- The part of the engine that writes a record. -/
inductive LogSource where
  | tables
  | grading
  deriving DecidableEq

/-- A log record. -/
structure LogRecord where
  source : LogSource
  level : LogLevel
  message : String
  deriving DecidableEq

/-- The level numbers by name. -/
def levelNumbers : List (String × Nat) := [
  ("NOTSET", 0), ("DEBUG", 10), ("INFO", 20), ("WARN", 30), ("WARNING", 30), ("ERROR", 40),
  ("FATAL", 50), ("CRITICAL", 50)]

/-- How log records are written: the least level, the layout of a line and of its time. -/
structure LogSetup where
  level : Nat
  layout : String
  timeLayout : String
  deriving DecidableEq

/-- The setup for a level with this name; there may be no such level. -/
def LogSetup.ofLevel? (name : String) : Option LogSetup :=
  (levelNumbers.lookup name).map fun n =>
    ⟨n, "%(asctime)s [%(levelname)s] %(message)s", "%Y-%m-%d %H:%M:%S"⟩

end PropTutor
