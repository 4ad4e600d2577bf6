import Hotkeys.Config.Pair
import Hotkeys.Event
import Hotkeys.Keys.Separator
import Hotkeys.Text.Lowercase
import Hotkeys.Text.Utf8

/-!
# Normal form of a binding

From the text of a binding to the event that it is bound to and the chord text that names its
grab: shorthands resolved, markers removed, letters lowered, parts joined with `-`.
-/

set_option autoImplicit false

namespace Hotkeys.Config

/-! ## The event -/

/-- The event that a lowered part of a chord reads as. -/
def classify (part : Text) : EventKind :=
  if Text.beginsWith part "@mouse".toList then .buttonRelease
  else if Text.beginsWith part "mouse".toList then .buttonPress
  else if Text.beginsWith part "@".toList then .keyRelease
  else .keyPress

/-- The lowered parts of a binding between plus signs, without the marker `!`. -/
def eventParts (binding : Text) : List Text :=
  (Text.splitOn (· == '+') binding).map fun part => Text.lowercase (part.filter (· != '!'))

/-- The event that a binding is for.  Parts of at most one byte have no say. -/
def eventOf (binding : Text) : EventKind :=
  ((eventParts binding).filter fun part => 1 < Text.Utf8.size part).foldl
    (fun event part => event.merge (classify part)) .keyPress

/-! ## The chord text -/

/-- Whether a character marks an event. -/
def isMarker (c : Char) : Bool :=
  c == '@' || c == '!'

/-- Whether a part names a hardware key, which keeps its capitals: `XF86` and at least one word
character, and nothing but word characters. -/
def isHardwareKey (part : Text) : Bool :=
  match Text.after? "XF86".toList part with
  | some rest => !rest.isEmpty && rest.all Text.isWord
  | none => false

/-- A part with the shorthands for three modifiers resolved. -/
def resolveShorthand (part : Text) : Text :=
  if part = "super".toList then "mod4".toList
  else if part = "ctrl".toList then "control".toList
  else if part = "alt".toList then "mod1".toList
  else part

/-- The number of a pointer button written as `mouse` and digits. -/
def buttonDigits? (part : Text) : Option Text :=
  match Text.after? "mouse".toList part with
  | some digits => if !digits.isEmpty && digits.all Char.isDigit then some digits else none
  | none => none

/-- The normal form of a part without markers, in a chord for the given event. -/
def normalPart (event : EventKind) (part : Text) : Text :=
  if isHardwareKey part then part
  else
    let named := resolveShorthand (Text.lowercase part)
    match buttonDigits? named with
    | some digits => if event.isButton then digits else named
    | none => named

/-- The parts of a binding without markers; parts that held nothing else are left out. -/
def chordParts (binding : Text) : List Text :=
  ((Text.splitOn Keys.isSeparator binding).map fun part => part.filter fun c => !isMarker c).filter
    fun part => !part.isEmpty

/-- The chord text of a binding for the given event. -/
def chordText (event : EventKind) (binding : Text) : Text :=
  Text.join ['-'] ((chordParts binding).map (normalPart event))

/-- The chord text of a binding. -/
def normalText (binding : Text) : Text :=
  chordText (eventOf binding) binding

/-! ## Bindings -/

/-- A binding that can be registered. -/
structure Binding where
  /-- The binding before normalization. -/
  written : Text
  /-- The chord text that names the grab. -/
  normalized : Text
  /-- The event that runs the command. -/
  event : EventKind
  /-- The command. -/
  command : Text
  deriving DecidableEq, Repr

/-- The binding of an expanded pair. -/
def Binding.ofPair (p : Pair) : Binding :=
  { written := p.binding
    normalized := normalText p.binding
    event := eventOf p.binding
    command := p.command }

end Hotkeys.Config
