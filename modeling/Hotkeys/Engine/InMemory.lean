import Hotkeys.Engine.Backend

/-!
# The backend in memory

A backend without a windowing system.  Its sessions remember what is bound and refuse the chords
that they are told to refuse.
-/

set_option autoImplicit false

namespace Hotkeys.Engine

/-- A chord that is bound in a session. -/
structure Bound where
  /-- The number of the registration. -/
  id : UInt32
  /-- The chord text. -/
  chord : Text
  /-- The kind of event. -/
  event : EventKind
  /-- What is run. -/
  job : Job
  deriving DecidableEq, Repr

/-- A session in memory.  Numbers are counted in 32 bits, and behind the largest one the counter
goes on with zero. -/
structure Session where
  /-- The number given last. -/
  lastId : UInt32
  /-- What is bound, in the order in which it was. -/
  bound : List Bound
  /-- The chord texts that are refused. -/
  rejected : List Text
  /-- Whether the session has been left. -/
  detached : Bool
  deriving DecidableEq, Repr

namespace Session

/-- A new session that refuses some chord texts. -/
def fresh (rejected : List Text) : Session :=
  { lastId := 0, bound := [], rejected, detached := false }

/-- The session that refuses one more chord text. -/
def reject (s : Session) (chord : Text) : Session :=
  { s with rejected := chord :: s.rejected }

/-- Binds a chord text. -/
def bind (s : Session) (chord : Text) (event : EventKind) (job : Job) :
    Except Error Nat × Session :=
  if s.detached then (.error .detached, s)
  else if s.rejected.contains chord then (.error (.refused chord), s)
  else
    let id := s.lastId + 1
    (.ok id.toNat, { s with lastId := id, bound := s.bound ++ [{ id, chord, event, job }] })

/-- Drops a registration. -/
def unregister (s : Session) (id : Nat) : Except Error Unit × Session :=
  if s.bound.any fun b => b.id.toNat == id then
    (.ok (), { s with bound := s.bound.filter fun b => b.id.toNat != id })
  else (.error (.unknownRegistration id), s)

/-- Drops every registration and ends the session. -/
def detach (s : Session) : Session :=
  { s with bound := [], detached := true }

/-- What is run when a chord fires. -/
def jobFor (s : Session) (chord : Text) : Option Job :=
  (s.bound.find? fun b => b.chord == chord).map Bound.job

end Session

/-- The sessions opened so far, the oldest first, and what each new one refuses. -/
structure Sessions where
  /-- The chord texts that new sessions refuse. -/
  rejected : List Text
  /-- The sessions. -/
  opened : List Session
  deriving DecidableEq, Repr

namespace Sessions

/-- No sessions yet. -/
def fresh (rejected : List Text) : Sessions :=
  { rejected, opened := [] }

/-- The session opened last. -/
def newest? (s : Sessions) : Option Session :=
  s.opened.getLast?

/-- Opens a session. -/
def connect (s : Sessions) : Except Error Nat × Sessions :=
  (.ok s.opened.length, { s with opened := s.opened ++ [Session.fresh s.rejected] })

/-- Binds a chord text in a session. -/
def bind (index : Nat) (chord : Text) (event : EventKind) (job : Job) (s : Sessions) :
    Except Error Nat × Sessions :=
  match s.opened[index]? with
  | none => (.error .detached, s)
  | some session =>
    let (answer, session) := session.bind chord event job
    (answer, { s with opened := s.opened.set index session })

/-- Leaves a session. -/
def detach (index : Nat) (s : Sessions) : Except Error Unit × Sessions :=
  (.ok (), { s with opened := s.opened.modify index Session.detach })

end Sessions

/-- The backend whose sessions are kept in memory and are named by their position. -/
def inMemory : Backend Sessions Nat :=
  { connect := Sessions.connect, bind := Sessions.bind, detach := Sessions.detach }

end Hotkeys.Engine
