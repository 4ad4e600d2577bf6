import Hotkeys.Text.Basic

/-!
# Values

Names and the values that they have.
-/

set_option autoImplicit false

namespace Hotkeys.Shell

/-- Names with their values; the first value of a name counts. -/
abbrev Values := List (Text × Text)

namespace Values

/-- The value of a name. -/
def get? (values : Values) (name : Text) : Option Text :=
  (values.find? fun entry => entry.1 == name).map Prod.snd

/-- The values without that of a name. -/
def erase (values : Values) (name : Text) : Values :=
  values.filter fun entry => entry.1 != name

/-- The values in which a name has a value. -/
def set (values : Values) (name value : Text) : Values :=
  (name, value) :: values.erase name

end Values

end Hotkeys.Shell
