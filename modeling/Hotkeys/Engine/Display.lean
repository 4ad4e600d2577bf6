import Hotkeys.Engine.Backend

/-!
# The backend of a display

Every session is a grab manager on a new connection to the display.
-/

set_option autoImplicit false

namespace Hotkeys.Engine

open Hotkeys.Keys (Chord)
open Hotkeys.X11 (Manager Server)

/-- Binds the chord that a text names. -/
def bindText (m : Manager Job) (chord : Text) (event : EventKind) (job : Job) :
    Except Error Nat × Manager Job :=
  match Chord.ofText chord event.isButton with
  | .error e => (.error (.chord e), m)
  | .ok c =>
    let (answer, m) := m.bind c event job
    (answer.mapError .manager, m)

/-- A display: the server behind it, if there is one, and the managers that were connected. -/
structure Display where
  /-- The server. -/
  server : Option Server
  /-- How often a connection to the server was asked for. -/
  attempts : Nat
  /-- The managers, the oldest first. -/
  managers : List (Manager Job)
  deriving DecidableEq, Repr

namespace Display

/-- A display that nobody has connected to. -/
def fresh (server : Option Server) : Display :=
  { server, attempts := 0, managers := [] }

/-- The manager connected last. -/
def newest? (d : Display) : Option (Manager Job) :=
  d.managers.getLast?

/-- The requests of all connections, in order. -/
def requests (d : Display) : List X11.Request :=
  d.managers.flatMap fun m => m.connection.requests

/-- Connects a manager. -/
def connect (d : Display) : Except Error Nat × Display :=
  match d.server with
  | none => (.error (.manager .connect), d)
  | some server =>
    let d := { d with attempts := d.attempts + 1 }
    match Manager.connect server with
    | .error e => (.error (.manager e), d)
    | .ok m => (.ok d.managers.length, { d with managers := d.managers ++ [m] })

/-- Binds a chord text through a manager. -/
def bind (index : Nat) (chord : Text) (event : EventKind) (job : Job) (d : Display) :
    Except Error Nat × Display :=
  match d.managers[index]? with
  | none => (.error (.manager .connection), d)
  | some m =>
    let (answer, m) := bindText m chord event job
    (answer, { d with managers := d.managers.set index m })

/-- Detaches a manager. -/
def detach (index : Nat) (d : Display) : Except Error Unit × Display :=
  match d.managers[index]? with
  | none => (.ok (), d)
  | some m =>
    let (answer, m) := m.detach
    (answer.mapError .manager, { d with managers := d.managers.set index m })

end Display

/-- The backend of a display, whose sessions are named by the position of their managers. -/
def onDisplay : Backend Display Nat :=
  { connect := Display.connect, bind := Display.bind, detach := Display.detach }

end Hotkeys.Engine
