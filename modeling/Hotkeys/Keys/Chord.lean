import Hotkeys.Keys.Keysym
import Hotkeys.Keys.Modifier
import Hotkeys.Keys.Separator
import Hotkeys.Text.Blank

/-!
# Chords

A chord is a set of modifiers together with one key or one pointer button.  In its text the parts
stand in any order; exactly one of them names no modifier.
-/

set_option autoImplicit false

namespace Hotkeys.Keys

/-- What a chord grabs besides its modifiers. -/
inductive Target where
  /-- A key, by what it means. -/
  | key (sym : Keysym)
  /-- A pointer button, by its number. -/
  | button (number : Nat)
  deriving DecidableEq, Repr

/-- Modifiers together with one key or button. -/
structure Chord where
  /-- The modifiers. -/
  mods : Mask
  /-- The key or button. -/
  target : Target
  deriving DecidableEq, Repr

/-- Why a text is no chord. -/
inductive ChordError where
  /-- It has no parts. -/
  | empty
  /-- Its key is unknown. -/
  | unknownKey (part : Text)
  /-- Its button is no number from 1 to 255. -/
  | invalidButton (part : Text)
  /-- All its parts are modifiers. -/
  | missingKey (chord : Text)
  /-- More than one part is no modifier. -/
  | multipleKeys (chord : Text)
  deriving DecidableEq, Repr

/-- The error in words. -/
def ChordError.message : ChordError → Text
  | .empty => "empty chord".toList
  | .unknownKey part => "unknown key '".toList ++ part ++ "'".toList
  | .invalidButton part => "invalid mouse button '".toList ++ part ++ "'".toList
  | .missingKey chord => "chord '".toList ++ chord ++ "' has no key".toList
  | .multipleKeys chord => "chord '".toList ++ chord ++ "' names more than one key".toList

namespace Chord

/-! ## Reading -/

/-- The parts of a chord text without the blanks around them; empty parts are left out. -/
def parts (s : Text) : List Text :=
  ((Text.splitOn isSeparator s).map Text.trim).filter fun part => !part.isEmpty

/-- Sorts the parts of the chord `s` into modifiers, which go into the mask, and the one part that
is none. -/
def sortParts (s : Text) (mods : Mask) (target : Option Text) :
    List Text → Except ChordError (Mask × Text)
  | [] =>
    match target with
    | some part => .ok (mods, part)
    | none => .error (.missingKey s)
  | part :: rest =>
    match Modifier.ofName? part, target with
    | some m, _ => sortParts s (mods ||| m.mask) target rest
    | none, none => sortParts s mods (some part) rest
    | none, some _ => .error (.multipleKeys s)

/-- The modifiers of a chord text and the part that names its key or button. -/
def analyse (s : Text) : Except ChordError (Mask × Text) :=
  match parts s with
  | [] => .error .empty
  | ps => sortParts s 0 none ps

/-- The chord of a key. -/
def ofKeyText (s : Text) : Except ChordError Chord := do
  let (mods, part) ← analyse s
  match Keysym.ofName? part with
  | some sym => return { mods, target := .key sym }
  | none => .error (.unknownKey part)

/-- The number of a pointer button, which may follow the word `mouse`. -/
def buttonNumber? (part : Text) : Option Nat :=
  let digits := (Text.after? "mouse".toList part).getD part
  (Text.signedNumeral? 10 digits).filter fun n => 0 < n && n ≤ 255

/-- The chord of a pointer button. -/
def ofButtonText (s : Text) : Except ChordError Chord := do
  let (mods, part) ← analyse s
  match buttonNumber? part with
  | some number => return { mods, target := .button number }
  | none => .error (.invalidButton part)

/-- The chord of a text that is to name a button or else a key. -/
def ofText (s : Text) (button : Bool) : Except ChordError Chord :=
  if button then ofButtonText s else ofKeyText s

/-! ## Writing -/

/-- The text of a key or button. -/
def targetText : Target → Text
  | .key sym => Keysym.name sym
  | .button number => Text.ofNat number

/-- The modifiers of a chord, in the order of their bits. -/
def modifiers (c : Chord) : List Modifier :=
  Modifier.ofMask c.mods

/-- The text of a chord: its modifiers in the order of their bits, then its key or button. -/
def text (c : Chord) : Text :=
  Text.join ['-'] (c.modifiers.map Modifier.name ++ [targetText c.target])

end Chord

end Hotkeys.Keys
