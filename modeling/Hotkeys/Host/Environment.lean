import Hotkeys.Text.Blank

/-!
# Environments

The named values that a program is started with.
-/

set_option autoImplicit false

namespace Hotkeys.Host

/-- Names with their values; the first value of a name counts. -/
abbrev Environment := List (Text × Text)

/-- Whether a value switches something on. -/
def isTruthy (value : Text) : Bool :=
  ["1", "t", "true", "y", "yes", "on"].any fun word =>
    Text.asciiLower (Text.trim value) == word.toList

namespace Environment

/-- The value of a name. -/
def get? (env : Environment) (name : String) : Option Text :=
  (env.find? fun entry => entry.1 == name.toList).map Prod.snd

/-- Whether the value of a name switches something on. -/
def isOn (env : Environment) (name : String) : Bool :=
  (env.get? name).any isTruthy

/-- The environment in which a name has a value. -/
def put (env : Environment) (name value : Text) : Environment :=
  if env.any fun entry => entry.1 == name then
    env.map fun entry => if entry.1 = name then (name, value) else entry
  else env ++ [(name, value)]

end Environment

end Hotkeys.Host
