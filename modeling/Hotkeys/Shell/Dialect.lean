import Hotkeys.Text.Basic

/-!
# Dialects

The same command language is spoken by more than one interpreter.  They differ in the wording of
complaints and in a few rules; what follows the dialect asks for it.
-/

set_option autoImplicit false

namespace Hotkeys.Shell

/-- An interpreter of the command language. -/
inductive Dialect where
  /-- The standard one. -/
  | plain
  /-- The other one, which has more to offer. -/
  | bash
  deriving DecidableEq, Repr

namespace Dialect

/-- Whether the dialect is the one with more to offer. -/
def isBash : Dialect → Bool
  | .plain => false
  | .bash => true

/-- What stands in front of the number of a line. -/
def lineWord : Dialect → Text
  | .plain => []
  | .bash => "line ".toList

/-- What is said of a command that is not found by its name. -/
def missing : Dialect → Text
  | .plain => "not found".toList
  | .bash => "command not found".toList

/-- What is said of a place of a command where there is nothing. -/
def absent : Dialect → Text
  | .plain => "not found".toList
  | .bash => "No such file or directory".toList

/-- Whether the command that prints a line resolves escapes. -/
def escapes : Dialect → Bool
  | .plain => true
  | .bash => false

/-- How a builtin command ends that was called wrongly. -/
def misuse : Dialect → Nat
  | .plain => 2
  | .bash => 1

end Dialect

end Hotkeys.Shell
