import Hotkeys.Engine.Channel
import Hotkeys.Engine.Daemon

/-!
# Serving

The daemon among everything that goes on around it: files change, signals and the errors of
commands are sent, and now and then the daemon gets a turn.  It then takes one thing that waits for
it, and which of its two channels it looks into first is not up to it.

A turn happens at once.  What is sent while a session is opened waits as if it had been sent
afterwards, because nothing is taken meanwhile; and a file counts as it is when it is read.
-/

set_option autoImplicit false

namespace Hotkeys.Engine

open Hotkeys.Config (Configuration)
open Hotkeys.Host (Files)

variable {χ ε σ ι : Type}

/-! ## Two channels -/

/-- The channels of a daemon. -/
structure Channels (χ ε : Type) where
  /-- The one for signals. -/
  signals : Channel χ Signal
  /-- The one for the errors of commands. -/
  errors : Channel ε CommandError

namespace Channels

/-- What the channel of signals wakes the daemon for. -/
def signal? (channels : Channels χ ε) (signals : χ) : Option Wake × χ :=
  match channels.signals.receive signals with
  | (.value s, rest) => (some (.signal s), rest)
  | (.closed, rest) => (some .closed, rest)
  | (.nothing, rest) => (none, rest)

/-- What the channel of errors wakes the daemon for.  The daemon holds an end of it, so that its
close would not be a reason. -/
def error? (channels : Channels χ ε) (errors : ε) : Option Wake × ε :=
  match channels.errors.receive errors with
  | (.value e, rest) => (some (.failed e), rest)
  | (_, rest) => (none, rest)

/-- What the two channels wake the daemon for: the second one counts when there is nothing in the
first. -/
def next? (channels : Channels χ ε) (errorsFirst : Bool) (signals : χ) (errors : ε) :
    Option Wake × χ × ε :=
  if errorsFirst then
    match channels.error? errors with
    | (some w, errors) => (some w, signals, errors)
    | (none, errors) =>
      let (w, signals) := channels.signal? signals
      (w, signals, errors)
  else
    match channels.signal? signals with
    | (some w, signals) => (some w, signals, errors)
    | (none, signals) =>
      let (w, errors) := channels.error? errors
      (w, signals, errors)

end Channels

/-! ## The world of a daemon -/

/-- A daemon at work and what is around it. -/
structure World (χ ε σ ι : Type) where
  /-- The files. -/
  files : Files
  /-- The channel of signals. -/
  signals : χ
  /-- The channel of errors. -/
  errors : ε
  /-- Where the daemon is in its life. -/
  phase : Phase ι
  /-- What it has reported. -/
  log : Log
  /-- The windowing system. -/
  state : σ

/-- What can happen. -/
inductive Move where
  /-- Files are written or removed. -/
  | change (files : Files)
  /-- A signal is sent. -/
  | send (s : Signal)
  /-- The channel of signals is closed. -/
  | close
  /-- A command fails. -/
  | fail (e : CommandError)
  /-- The daemon gets a turn. -/
  | turn (errorsFirst : Bool)

namespace Daemon

/-- A daemon that has just been started, with what may wait for it already. -/
def launch (d : Daemon) (backend : Backend σ ι) (files : Files) (ready : Option Configuration)
    (signals : χ) (errors : ε) (s : σ) : World χ ε σ ι :=
  let (phase, log, state) := d.start backend files ready s
  { files, signals, errors, phase, log, state }

/-- What the daemon does in a turn.  One that has ended takes nothing any more. -/
def turn (d : Daemon) (backend : Backend σ ι) (channels : Channels χ ε) (errorsFirst : Bool)
    (w : World χ ε σ ι) : World χ ε σ ι :=
  if w.phase.isEnded then w
  else
    match channels.next? errorsFirst w.signals w.errors with
    | (none, signals, errors) => { w with signals, errors }
    | (some wake, signals, errors) =>
      let (phase, log, state) := d.wake backend w.files w.phase w.state wake
      { w with signals, errors, phase, log := w.log ++ log, state }

/-- What a move does. -/
def step (d : Daemon) (backend : Backend σ ι) (channels : Channels χ ε) (w : World χ ε σ ι) :
    Move → World χ ε σ ι
  | .change files => { w with files }
  | .send s => { w with signals := channels.signals.send s w.signals }
  | .close => { w with signals := channels.signals.close w.signals }
  | .fail e => { w with errors := channels.errors.send e w.errors }
  | .turn errorsFirst => d.turn backend channels errorsFirst w

/-- What moves do, one after the other. -/
def play (d : Daemon) (backend : Backend σ ι) (channels : Channels χ ε) (w : World χ ε σ ι)
    (moves : List Move) : World χ ε σ ι :=
  moves.foldl (d.step backend channels) w

end Daemon

end Hotkeys.Engine
