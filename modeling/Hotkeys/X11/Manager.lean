import Hotkeys.Keys.Chord
import Hotkeys.X11.Server

/-!
# The grab manager

A manager keeps the registrations of one connection: each is a chord's keys under its modifiers,
the grabs made for them, and an action to run.  Press and release registrations of the same chord
share their grabs, so a grab is given up only when no registration needs it any more.
-/

set_option autoImplicit false

namespace Hotkeys.X11

open Hotkeys.Keys (Chord ChordError Keysym Mask)

/-! ## Errors -/

/-- Why the manager refuses. -/
inductive ManagerError where
  /-- There is no server to connect to. -/
  | connect
  /-- The connection is broken. -/
  | connection
  /-- A request that the manager needs was refused. -/
  | reply
  /-- A text is no chord. -/
  | chord (e : ChordError)
  /-- No key of the keyboard means this. -/
  | noKeycode (sym : Keysym)
  /-- The server does not grant a grab of the chord. -/
  | grabFailed (chord : Text) (reason : RequestError)
  /-- The chord is registered already. -/
  | alreadyBound (chord : Text)
  /-- No registration has this number. -/
  | invalidId
  deriving DecidableEq, Repr

/-- The error in words. -/
def ManagerError.message : ManagerError → Text
  | .connect => "cannot connect to X server".toList
  | .connection => RequestError.broken.message
  | .reply => RequestError.refused.message
  | .chord e => e.message
  | .noKeycode sym => "no keycode for keysym 0x".toList ++ Text.ofNatHex sym
  | .grabFailed shown reason =>
    "cannot grab ".toList ++ shown ++ ": ".toList ++ reason.message
  | .alreadyBound shown => shown ++ " is already bound".toList
  | .invalidId => "Invalid registration id".toList

/-! ## Registrations -/

/-- What an event is matched by. -/
structure GrabKey where
  /-- The kind of event. -/
  kind : EventKind
  /-- The code of the key or the number of the button. -/
  code : Keycode
  /-- The modifiers that count. -/
  mods : Mask
  deriving DecidableEq, Repr

/-- A chord with an action of type `α`. -/
structure Registration (α : Type) where
  /-- The kind of event that runs the action. -/
  kind : EventKind
  /-- The codes of the chord. -/
  codes : List Keycode
  /-- The modifiers of the chord that count. -/
  mods : Mask
  /-- The codes and modifiers that were grabbed. -/
  grabbed : List (Keycode × Mask)
  /-- The action. -/
  action : α
  deriving DecidableEq, Repr

namespace Registration

variable {α : Type}

/-- What the events of a registration are matched by. -/
def keys (r : Registration α) : List GrabKey :=
  r.codes.map fun code => { kind := r.kind, code, mods := r.mods }

/-- The grabs of a registration. -/
def grabs (r : Registration α) : List Grab :=
  r.grabbed.map fun g => { family := r.kind.family, code := g.1, mods := g.2 }

/-- Whether a registration relies on a grab. -/
def needs (r : Registration α) (g : Grab) : Bool :=
  !r.codes.isEmpty && r.kind.family == g.family && r.grabbed.contains (g.code, g.mods)

end Registration

/-- The registrations, by number and by what their events are matched by.  Numbers are counted in 32
bits, and behind the largest one the counter goes on with zero. -/
structure Registry (α : Type) where
  /-- The number given last. -/
  lastId : UInt32
  /-- The registrations by number, in the order in which they were made. -/
  byId : List (Nat × Registration α)
  /-- The numbers by what events are matched by. -/
  byKey : List (GrabKey × Nat)
  deriving DecidableEq, Repr

namespace Registry

variable {α : Type}

/-- No registrations. -/
def empty : Registry α :=
  { lastId := 0, byId := [], byKey := [] }

/-- The number registered for a key. -/
def idOf? (s : Registry α) (key : GrabKey) : Option Nat :=
  (s.byKey.find? fun e => e.1 == key).map Prod.snd

/-- The registration with a number. -/
def get? (s : Registry α) (id : Nat) : Option (Registration α) :=
  (s.byId.find? fun e => e.1 == id).map Prod.snd

/-- The index in which a key leads to a number. -/
def setKey (byKey : List (GrabKey × Nat)) (key : GrabKey) (id : Nat) : List (GrabKey × Nat) :=
  (key, id) :: byKey.filter fun e => e.1 != key

/-- The number that is given next. -/
def nextId (s : Registry α) : Nat :=
  (s.lastId + 1).toNat

/-- The registrations with one more, which gets the next number.  It takes the place of one that has
this number already. -/
def insert (s : Registry α) (r : Registration α) : Registry α :=
  { lastId := s.lastId + 1
    byId := (s.byId.filter fun e => e.1 != s.nextId) ++ [(s.nextId, r)]
    byKey := r.keys.foldl (fun byKey key => setKey byKey key s.nextId) s.byKey }

/-- The registrations without the one that has this number, and that one. -/
def remove (s : Registry α) (id : Nat) : Option (Registration α × Registry α) :=
  (s.get? id).map fun r =>
    (r, { s with
      byId := s.byId.filter fun e => e.1 != id
      byKey := s.byKey.filter fun e => !r.keys.contains e.1 })

/-- Whether a registration relies on a grab. -/
def needs (s : Registry α) (g : Grab) : Bool :=
  s.byId.any fun e => e.2.needs g

/-- The registration that an event runs. -/
def match? (s : Registry α) (key : GrabKey) : Option (Registration α) :=
  (s.idOf? key).bind s.get?

/-- No registrations; the numbers go on. -/
def clear (s : Registry α) : Registry α :=
  { s with byId := [], byKey := [] }

end Registry

/-! ## The manager -/

/-- A connection with its registrations. -/
structure Manager (α : Type) where
  /-- The connection. -/
  connection : Connection
  /-- The keyboard at the time of connecting. -/
  keymap : KeyMap
  /-- The lock modifiers of that keyboard. -/
  locks : LockMasks
  /-- The registrations. -/
  registry : Registry α
  /-- Whether events are being read. -/
  listening : Bool
  deriving DecidableEq, Repr

namespace Manager

variable {α : Type}

/-- Opens a connection to a server and asks for its keyboard. -/
def connect (server : Server) : Except ManagerError (Manager α) :=
  match server.failing with
  | some .connection => .error .connect
  | some _ => .error .reply
  | none =>
    let keyboard := server.keyboard
    let keymap := KeyMap.ofTable keyboard.firstCode keyboard.perCode keyboard.keysyms
    .ok {
      connection := { alive := true, denied := server.denied, requests := [] }
      keymap
      locks := LockMasks.ofTable keymap keyboard.modifierCodes
      registry := Registry.empty
      listening := true }

/-- The codes that produce the key or button of a chord; a key has to have one. -/
def codesOf (m : Manager α) (chord : Chord) : Except ManagerError (List Keycode) :=
  match chord.target with
  | .button number => .ok [number]
  | .key sym =>
    match m.keymap.codes sym with
    | [] => .error (.noKeycode sym)
    | codes => .ok codes

/-- The grabs of the given codes under the given modifiers: each code under every combination of
locks. -/
def grabsFor (locks : LockMasks) (codes : List Keycode) (mods : Mask) : List (Keycode × Mask) :=
  codes.flatMap fun code => locks.combinations.map fun extra => (code, mods ||| extra)

/-- Asks for grabs one after the other until one is refused.  The answer holds the refusal, if
there was one, and the grabs that were granted. -/
def grabAll (family : Family) :
    List (Keycode × Mask) → Connection → Option RequestError × List (Keycode × Mask) × Connection
  | [], c => (none, [], c)
  | g :: gs, c =>
    match c.grab { family, code := g.1, mods := g.2 } with
    | (some e, c) => (some e, [], c)
    | (none, c) =>
      let rest := grabAll family gs c
      (rest.1, g :: rest.2.1, rest.2.2)

/-- Gives up those of the grabs that no registration needs. -/
def release (registry : Registry α) (family : Family) (grabbed : List (Keycode × Mask))
    (c : Connection) : Connection :=
  grabbed.foldl (fun c g =>
    let grab : Grab := { family, code := g.1, mods := g.2 }
    if registry.needs grab then c else c.ungrab grab) c

/-- Registers an action for a chord and a kind of event.  If a grab is refused, the grabs made on
the way are given up again. -/
def bind (m : Manager α) (chord : Chord) (kind : EventKind) (action : α) :
    Except ManagerError Nat × Manager α :=
  match m.codesOf chord with
  | .error e => (.error e, m)
  | .ok codes =>
    let mods := m.locks.clean chord.mods
    let wanted := grabsFor m.locks codes mods
    let registration : Registration α := { kind, codes, mods, grabbed := wanted, action }
    if registration.keys.any fun key => (m.registry.idOf? key).isSome then
      (.error (.alreadyBound chord.text), m)
    else
      match grabAll kind.family wanted m.connection with
      | (some reason, granted, c) =>
        (.error (.grabFailed chord.text reason),
          { m with connection := release m.registry kind.family granted c })
      | (none, _, c) =>
        (.ok m.registry.nextId,
          { m with connection := c, registry := m.registry.insert registration })

/-- Drops a registration and the grabs that only it needed. -/
def unregister (m : Manager α) (id : Nat) : Except ManagerError Unit × Manager α :=
  match m.registry.remove id with
  | none => (.error .invalidId, m)
  | some (r, registry) =>
    (.ok (),
      { m with
        registry
        connection := release registry r.kind.family r.grabbed m.connection })

/-- Drops every registration and stops reading events.  A second time it does nothing. -/
def detach (m : Manager α) : Except ManagerError Unit × Manager α :=
  if m.listening then
    (if m.connection.alive then .ok () else .error .connection,
      { m with
        registry := m.registry.clear
        connection := m.connection.ungrabAll
        listening := false })
  else (.ok (), m)

/-- Whether events still reach the manager. -/
def hears (m : Manager α) : Bool :=
  m.listening && m.connection.alive

/-- The action that an event runs. -/
def actionFor (m : Manager α) (kind : EventKind) (code : Keycode) (state : Mask) : Option α :=
  if m.hears then
    (m.registry.match? { kind, code, mods := m.locks.clean state }).map Registration.action
  else none

/-- The manager after the server has dropped the connection. -/
def hangUp (m : Manager α) : Manager α :=
  { m with connection := { m.connection with alive := false } }

/-- The manager once the server has changed its mind about what it refuses. -/
def setDenied (m : Manager α) (denied : List Grab) : Manager α :=
  { m with connection := { m.connection with denied } }

/-- The number of registrations. -/
def size (m : Manager α) : Nat :=
  m.registry.byId.length

end Manager

end Hotkeys.X11
