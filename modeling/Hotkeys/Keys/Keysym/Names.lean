import Hotkeys.Keys.Keysym.Arabic
import Hotkeys.Keys.Keysym.Braille
import Hotkeys.Keys.Keysym.Cyrillic
import Hotkeys.Keys.Keysym.Functions
import Hotkeys.Keys.Keysym.Greek
import Hotkeys.Keys.Keysym.Hangul
import Hotkeys.Keys.Keysym.Hebrew
import Hotkeys.Keys.Keysym.Kana
import Hotkeys.Keys.Keysym.Latching
import Hotkeys.Keys.Keysym.LatinOne
import Hotkeys.Keys.Keysym.LatinOthers
import Hotkeys.Keys.Keysym.Technical
import Hotkeys.Keys.Keysym.Terminal
import Hotkeys.Keys.Keysym.Thai
import Hotkeys.Keys.Keysym.Unicode
import Hotkeys.Keys.Keysym.Vendor

/-!
# All named keysyms

The tables in one list.  The order matters: where a value has several names, the first one is the
name that the value is shown with.
-/

set_option autoImplicit false

namespace Hotkeys.Keys.Keysym

/-- Every named keysym. -/
def named : List (String × Nat) :=
  functionKeys ++
    latchingKeys ++
    terminalKeys ++
    latinOneKeys ++
    otherLatinKeys ++
    kanaKeys ++
    arabicKeys ++
    cyrillicKeys ++
    greekKeys ++
    technicalKeys ++
    hebrewKeys ++
    thaiKeys ++
    hangulKeys ++
    unicodeKeys ++
    brailleKeys ++
    vendorKeys

end Hotkeys.Keys.Keysym
