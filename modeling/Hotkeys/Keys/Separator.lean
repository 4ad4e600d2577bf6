/-!
# Separators of chords

The parts of a chord stand between plus or minus signs.
-/

set_option autoImplicit false

namespace Hotkeys.Keys

/-- Whether a character separates the parts of a chord. -/
def isSeparator (c : Char) : Bool :=
  c == '+' || c == '-'

end Hotkeys.Keys
