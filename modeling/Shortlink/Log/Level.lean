/-!
# Levels of log events

How grave an event is. A level has a name and a number, and the numbers are compared.

## Contents

- `Level`, `Level.severity`, `Level.name`.
- `Level.named?`: the level that a name in capitals stands for.
- `Notice`: an event that is worth reporting, as other modules hand it on.
-/

namespace Shortlink.Log

/-- The levels, from everything to the gravest. -/
inductive Level where
  | everything
  | debug
  | info
  | warning
  | error
  | critical
deriving DecidableEq, Repr

namespace Level

/-- The number by which levels are compared. -/
def severity : Level → Nat
  | everything => 0
  | debug => 10
  | info => 20
  | warning => 30
  | error => 40
  | critical => 50

/-- The name that is written. -/
def name : Level → String
  | everything => "NOTSET"
  | debug => "DEBUG"
  | info => "INFO"
  | warning => "WARNING"
  | error => "ERROR"
  | critical => "CRITICAL"

/-- The names that are understood. -/
def names : List (String × Level) := [
  ("CRITICAL", critical), ("FATAL", critical), ("ERROR", error), ("WARN", warning),
  ("WARNING", warning), ("INFO", info), ("DEBUG", debug), ("NOTSET", everything)]

/-- The level that a name stands for. -/
def named? (name : String) : Option Level :=
  names.lookup name

/-- An event of this level passes a bar. -/
def reaches (level bar : Level) : Bool :=
  bar.severity ≤ level.severity

end Level

/-- An event with its level, the logger it goes to and its text. -/
structure Notice where
  level : Level
  logger : String
  message : String
deriving DecidableEq, Repr

end Shortlink.Log
