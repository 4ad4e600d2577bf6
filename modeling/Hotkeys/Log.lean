import Hotkeys.Text.Basic

/-!
# Log records

What the library reports while it works: a level, a sentence and named fields in a fixed order.
-/

set_option autoImplicit false

namespace Hotkeys

/-- How serious a record is. -/
inductive LogLevel where
  /-- Ordinary progress. -/
  | info
  /-- Something the user may want to mend. -/
  | warn
  deriving DecidableEq, Repr

/-- The level as it is written. -/
def LogLevel.label : LogLevel → Text
  | .info => "INFO".toList
  | .warn => "WARN".toList

/-- One report. -/
structure LogRecord where
  /-- How serious the report is. -/
  level : LogLevel
  /-- What happened. -/
  message : Text
  /-- Named details, in order. -/
  fields : List (Text × Text) := []
  deriving DecidableEq, Repr

namespace LogRecord

/-- The record on one line: level, message, then each field as `name=value`. -/
def render (r : LogRecord) : Text :=
  Text.join [' '] (r.level.label :: r.message :: r.fields.map fun f => f.1 ++ '=' :: f.2)

end LogRecord

/-- The reports of a computation, in order. -/
abbrev Log := List LogRecord

end Hotkeys
