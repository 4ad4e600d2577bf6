import Hotkeys.Text.Basic

/-!
# Modifiers

The eight modifiers of the windowing system, the bits that stand for them in a mask, and the names
that a chord may use.
-/

set_option autoImplicit false

namespace Hotkeys.Keys

/-- A set of modifiers and other state bits, one bit each. -/
abbrev Mask := BitVec 16

/-- A modifier. -/
inductive Modifier where
  /-- The shift keys. -/
  | shift
  /-- Caps lock. -/
  | lock
  /-- The control keys. -/
  | control
  /-- Usually the alt keys. -/
  | mod1
  /-- Usually num lock. -/
  | mod2
  /-- Rarely used. -/
  | mod3
  /-- Usually the logo keys. -/
  | mod4
  /-- Usually a level shift. -/
  | mod5
  deriving DecidableEq, Repr

namespace Modifier

/-- Every modifier, in the order of the bits. -/
def all : List Modifier :=
  [.shift, .lock, .control, .mod1, .mod2, .mod3, .mod4, .mod5]

/-- The place of the modifier's bit. -/
def index : Modifier → Nat
  | .shift => 0
  | .lock => 1
  | .control => 2
  | .mod1 => 3
  | .mod2 => 4
  | .mod3 => 5
  | .mod4 => 6
  | .mod5 => 7

/-- The mask of the modifier alone. -/
def mask (m : Modifier) : Mask :=
  1 <<< m.index

/-- The name that the modifier is shown with. -/
def name : Modifier → Text
  | .shift => "shift".toList
  | .lock => "lock".toList
  | .control => "control".toList
  | .mod1 => "mod1".toList
  | .mod2 => "mod2".toList
  | .mod3 => "mod3".toList
  | .mod4 => "mod4".toList
  | .mod5 => "mod5".toList

/-- The other names of modifiers. -/
def aliases : List (Text × Modifier) :=
  [("ctrl".toList, .control), ("alt".toList, .mod1), ("super".toList, .mod4)]

/-- The modifier with this name or alias; ASCII capitals count as small letters. -/
def ofName? (spec : Text) : Option Modifier :=
  let lower := Text.asciiLower spec
  match all.find? fun m => m.name == lower with
  | some m => some m
  | none => (aliases.find? fun a => a.1 == lower).map Prod.snd

/-- Whether the modifier is in a mask. -/
def isIn (m : Modifier) (mask : Mask) : Bool :=
  mask &&& m.mask != 0

/-- The modifiers in a mask, in the order of the bits. -/
def ofMask (mask : Mask) : List Modifier :=
  all.filter fun m => m.isIn mask

end Modifier

end Hotkeys.Keys
