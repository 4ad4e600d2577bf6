import Hotkeys.X11.KeyMap

/-!
# Lock modifiers

Caps lock, num lock and scroll lock must not keep a chord from matching.  Every grab is repeated
for each combination of them, and every event is cleaned of them.
-/

set_option autoImplicit false

namespace Hotkeys.X11

open Hotkeys.Keys (Keysym Mask Modifier)

/-- The bits of the lock modifiers whose place differs between keyboards. -/
structure LockMasks where
  /-- Num lock, or no bits. -/
  num : Mask
  /-- Scroll lock, or no bits. -/
  scroll : Mask
  deriving DecidableEq, Repr

namespace LockMasks

/-- The keysym of num lock. -/
def numLock : Keysym := 0xff7f

/-- The keysym of scroll lock. -/
def scrollLock : Keysym := 0xff14

/-- The lock modifiers of a keyboard with the given table of modifier codes. -/
def ofTable (m : KeyMap) (table : List Keycode) : LockMasks :=
  let perModifier := table.length / 8
  { num := m.modifierMask numLock perModifier table
    scroll := m.modifierMask scrollLock perModifier table }

/-- The bits that do not count. -/
def ignored (l : LockMasks) : Mask :=
  Modifier.lock.mask ||| l.num ||| l.scroll

/-- A list without the elements that equal their left neighbour. -/
def dropRepeats : List Mask → List Mask
  | a :: b :: rest => if a = b then dropRepeats (b :: rest) else a :: dropRepeats (b :: rest)
  | rest => rest

/-- The lock bits of the keyboard, one after the other. -/
def bits (l : LockMasks) : List Mask :=
  dropRepeats ([Modifier.lock.mask, l.num, l.scroll].filter (· != 0))

/-- The masks with the elements of `more` behind them that are new. -/
def addNew (masks : List Mask) : (more : List Mask) → List Mask
  | [] => masks
  | m :: ms => if masks.contains m then addNew masks ms else addNew (masks ++ [m]) ms

/-- Every combination of the lock bits, beginning with none. -/
def combinations (l : LockMasks) : List Mask :=
  l.bits.foldl (fun masks bit => addNew masks (masks.map (· ||| bit))) [0]

/-- The modifiers of an event that count: the eight modifiers without the locks. -/
def clean (l : LockMasks) (state : Mask) : Mask :=
  state &&& 0xff &&& ~~~l.ignored

end LockMasks

end Hotkeys.X11
