import Hotkeys.Event
import Hotkeys.X11.LockMasks

/-!
# The server's side

What is observable of a windowing server: the keyboard that it describes, the steps of opening a
connection that may fail, and the grabs that it grants or refuses.  A connection keeps the requests
that went over it.
-/

set_option autoImplicit false

namespace Hotkeys.X11

open Hotkeys.Keys (Keysym Mask)

/-- A key or button under exact modifiers. -/
structure Grab where
  /-- Keyboard or pointer. -/
  family : Family
  /-- The code of the key or the number of the button. -/
  code : Keycode
  /-- The modifiers. -/
  mods : Mask
  deriving DecidableEq, Repr

/-- A request that reached the server. -/
inductive Request where
  /-- To grab, and whether that was granted. -/
  | grab (g : Grab) (granted : Bool)
  /-- To give a grab up. -/
  | ungrab (g : Grab)
  /-- To give up every grab of a family. -/
  | ungrabAll (family : Family)
  deriving DecidableEq, Repr

/-- The keyboard as the server describes it. -/
structure Keyboard where
  /-- The first code. -/
  firstCode : Keycode
  /-- The number of keysyms for each code. -/
  perCode : Nat
  /-- The keysyms, code by code. -/
  keysyms : List Keysym
  /-- The codes of the modifiers, in eight equal rows. -/
  modifierCodes : List Keycode
  deriving DecidableEq, Repr

/-- A step of opening a connection. -/
inductive SetupStep where
  /-- The connection itself. -/
  | connection
  /-- Creating a window of its own. -/
  | window
  /-- Asking for the keyboard. -/
  | keyboard
  /-- Asking for the modifiers. -/
  | modifiers
  deriving DecidableEq, Repr

/-- A server that accepts connections. -/
structure Server where
  /-- Its keyboard. -/
  keyboard : Keyboard
  /-- The grabs that it refuses. -/
  denied : List Grab
  /-- The step of opening a connection that it lets fail, if there is one. -/
  failing : Option SetupStep
  deriving DecidableEq, Repr

/-- A connection to a server. -/
structure Connection where
  /-- Whether the server still answers. -/
  alive : Bool
  /-- The grabs that the server refuses. -/
  denied : List Grab
  /-- The requests so far, in order. -/
  requests : List Request
  deriving DecidableEq, Repr

/-- Why a request came to nothing. -/
inductive RequestError where
  /-- The server refused. -/
  | refused
  /-- The connection is broken. -/
  | broken
  deriving DecidableEq, Repr

/-- The error in words. -/
def RequestError.message : RequestError → Text
  | .refused => "X request failed".toList
  | .broken => "X connection error".toList

namespace Connection

/-- The connection with one more request behind it, if the server still answers. -/
def send (c : Connection) (r : Request) : Connection :=
  if c.alive then { c with requests := c.requests ++ [r] } else c

/-- Asks for a grab. -/
def grab (c : Connection) (g : Grab) : Option RequestError × Connection :=
  if !c.alive then (some .broken, c)
  else if c.denied.contains g then (some .refused, c.send (.grab g false))
  else (none, c.send (.grab g true))

/-- Gives a grab up; nothing is said about whether there was one. -/
def ungrab (c : Connection) (g : Grab) : Connection :=
  c.send (.ungrab g)

/-- Gives every grab up. -/
def ungrabAll (c : Connection) : Connection :=
  (c.send (.ungrabAll .key)).send (.ungrabAll .button)

end Connection

end Hotkeys.X11
