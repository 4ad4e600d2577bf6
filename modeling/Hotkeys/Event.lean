import Hotkeys.Text.Basic

/-!
# Event kinds

The four transitions that can run a command: a key or a pointer button going down or up.  `merge`
folds the readings of the parts of a chord into one kind.
-/

set_option autoImplicit false

namespace Hotkeys

/-- The two families of grabs: on the keyboard and on the pointer. -/
inductive Family where
  /-- The keys of the keyboard. -/
  | key
  /-- The buttons of the pointer. -/
  | button
  deriving DecidableEq, Repr

/-- A transition that a chord is bound to. -/
inductive EventKind where
  /-- A key going down. -/
  | keyPress
  /-- A key going up. -/
  | keyRelease
  /-- A pointer button going down. -/
  | buttonPress
  /-- A pointer button going up. -/
  | buttonRelease
  deriving DecidableEq, Repr, Inhabited

namespace EventKind

/-- The family of grabs that delivers the event. -/
def family : EventKind → Family
  | .keyPress | .keyRelease => .key
  | .buttonPress | .buttonRelease => .button

/-- Whether the event comes from a pointer button. -/
def isButton (e : EventKind) : Bool :=
  e.family == .button

/-- The kind of a chord whose parts so far read as `current` when the next part reads as `next`.
A button release stays; a key press changes nothing; a key event gives way to what follows; a
button press and any release make a button release. -/
def merge : (current next : EventKind) → EventKind
  | .buttonRelease, _ => .buttonRelease
  | current, .keyPress => current
  | .keyPress, next | .keyRelease, next => next
  | .buttonPress, .buttonPress => .buttonPress
  | .buttonPress, _ => .buttonRelease

/-- The kind in words. -/
def describe : EventKind → String
  | .keyPress => "key press"
  | .keyRelease => "key release"
  | .buttonPress => "button press"
  | .buttonRelease => "button release"

/-- The kind as it is written in listings. -/
def tag : EventKind → String
  | .keyPress => "key_press"
  | .keyRelease => "key_release"
  | .buttonPress => "button_press"
  | .buttonRelease => "button_release"

end EventKind

end Hotkeys
