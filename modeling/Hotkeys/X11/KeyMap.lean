import Hotkeys.Keys.Keysym
import Hotkeys.Keys.Modifier

/-!
# Key maps

A keyboard sends the codes of its keys; the server's mapping says which keysyms each code may
mean.  A key map turns that around: from a keysym to the codes that produce it.
-/

set_option autoImplicit false

namespace Hotkeys.X11

open Hotkeys.Keys (Keysym Mask Modifier)

/-- The code of a key, at most 255. -/
abbrev Keycode := Nat

/-- The largest code of a key. -/
def maxKeycode : Keycode := 255

/-- A list cut into rows of `extra + 1` elements; the last row may be shorter. -/
def rows {α : Type} (extra : Nat) : List α → List (List α)
  | [] => []
  | a :: as => (a :: as.take extra) :: rows extra (as.drop extra)
  termination_by l => l.length
  decreasing_by simp only [List.length_drop, List.length_cons]; omega

/-- A list cut into rows of `width` elements; rows of no elements are no rows. -/
def rowsOf {α : Type} (width : Nat) (l : List α) : List (List α) :=
  match width with
  | 0 => []
  | extra + 1 => rows extra l

/-- The codes of each keysym, in ascending order. -/
structure KeyMap where
  /-- Keysyms with their codes. -/
  entries : List (Keysym × List Keycode)
  deriving DecidableEq, Repr

namespace KeyMap

/-- The entries with one more code for a keysym, unless it is there already. -/
def addTo (code : Keycode) (sym : Keysym) :
    List (Keysym × List Keycode) → List (Keysym × List Keycode)
  | [] => [(sym, [code])]
  | (s, codes) :: rest =>
    if s = sym then (s, if codes.contains code then codes else codes ++ [code]) :: rest
    else (s, codes) :: addTo code sym rest

/-- The map with one more code for each keysym of a row; zero stands for no keysym. -/
def addRow (code : Keycode) (row : List Keysym) (m : KeyMap) : KeyMap :=
  { entries := (row.filter (· != 0)).foldl (fun entries sym => addTo code sym entries) m.entries }

/-- The map with the rows of the codes from `code` on; codes end at `maxKeycode`. -/
def addRows (code : Keycode) : List (List Keysym) → KeyMap → KeyMap
  | [], m => m
  | row :: rest, m =>
    if code ≤ maxKeycode then addRows (code + 1) rest (addRow code row m) else m

/-- The map of a keyboard whose first code is `first` and whose table has `perCode` keysyms for
each code. -/
def ofTable (first : Keycode) (perCode : Nat) (table : List Keysym) : KeyMap :=
  addRows first (rowsOf perCode table) { entries := [] }

/-- The codes that produce a keysym. -/
def codes (m : KeyMap) (sym : Keysym) : List Keycode :=
  ((m.entries.find? fun e => e.1 == sym).map Prod.snd).getD []

/-- The mask of the first modifier whose row of codes holds a code of the keysym, and no bits if
there is none.  The rows stand in the order of the bits; zero stands for no code. -/
def modifierMask (m : KeyMap) (sym : Keysym) (perModifier : Nat) (table : List Keycode) : Mask :=
  let wanted := m.codes sym
  match ((rowsOf perModifier table).zip Modifier.all).find? fun r =>
    r.1.any fun code => code != 0 && wanted.contains code with
  | some r => r.2.mask
  | none => 0

end KeyMap

end Hotkeys.X11
