import Hotkeys.Config.Source
import Hotkeys.Engine.Registration

/-!
# The daemon

The daemon opens a session for its configuration and waits.  What it is told wakes it: it reports
the errors of commands, reloads by leaving the session before it opens the next one, and ends.
-/

set_option autoImplicit false

namespace Hotkeys.Engine

open Hotkeys.Config (Configuration Policy Source)
open Hotkeys.Host (Files)

variable {σ ι : Type}

/-! ## What happens -/

/-- What the daemon is asked to do. -/
inductive Signal where
  /-- Read the configuration again. -/
  | reload
  /-- End, because of the signal with this name. -/
  | shutdown (name : Text)
  deriving DecidableEq, Repr

/-- What wakes the daemon. -/
inductive Wake where
  /-- A signal. -/
  | signal (s : Signal)
  /-- No more signals can come. -/
  | closed
  /-- A command that was run failed. -/
  | failed (e : CommandError)
  deriving DecidableEq, Repr

/-- What the daemon is started with. -/
structure Daemon where
  /-- Where its configuration comes from. -/
  source : Source
  /-- What becomes of bindings that cannot be expanded. -/
  policy : Policy
  /-- Whether the place of the end is reported. -/
  traced : Bool
  deriving DecidableEq, Repr

/-- Where the daemon is in its life. -/
inductive Phase (ι : Type) where
  /-- It waits in a session. -/
  | listening (session : ι)
  /-- It has ended, as it should or with an error. -/
  | ended (result : Except Error Unit)

/-- Whether the daemon has ended. -/
def Phase.isEnded : Phase ι → Bool
  | .listening _ => false
  | .ended _ => true

/-! ## Reports -/

/-- The report that the daemon waits. -/
def listening (source : Source) (r : Registered) : LogRecord :=
  { level := .info
    message := "listening".toList
    fields := [("source".toList, source.name), ("bindings".toList, Text.ofNat r.ids.length),
      ("failed".toList, Text.ofNat r.failed.length)] }

/-- The report that a command failed. -/
def commandFailure (e : CommandError) : LogRecord :=
  { level := .warn
    message := "a command resulted in an error".toList
    fields := [("error".toList, e.message)] }

/-- The report that a signal ends the daemon. -/
def shuttingDown (name : Text) : LogRecord :=
  { level := .info
    message := "signal received, shutting down".toList
    fields := [("signal".toList, name)] }

/-- The report that a session could not be left properly. -/
def detachFailure (e : Error) : LogRecord :=
  { level := .warn
    message := "failed to detach hotkeys".toList
    fields := [("error".toList, e.message)] }

/-- The name of the switch for the report of where the daemon ended. -/
def traceSwitch : String :=
  "HOTKD_STACKTRACE"

/-- The report of where the daemon ended. -/
def trace : LogRecord :=
  { level := .info
    message := "backtrace requested via ".toList ++ traceSwitch.toList ++ [':'] }

/-! ## Sessions -/

namespace Daemon

/-- Opens a session and binds a configuration in it. -/
def enter (d : Daemon) (backend : Backend σ ι) (c : Configuration) (s : σ) :
    Phase ι × Log × σ :=
  match backend.connect s with
  | (.error e, s) => (.ended (.error e), [], s)
  | (.ok session, s) =>
    let (registered, log, s) := registerAll backend session c s
    (.listening session, log ++ [listening d.source registered], s)

/-- Reads the configuration and opens a session for it. -/
def begin (d : Daemon) (backend : Backend σ ι) (files : Files) (s : σ) : Phase ι × Log × σ :=
  match Config.load files d.policy d.source with
  | (.error e, log) => (.ended (.error (.config e)), log, s)
  | (.ok c, log) =>
    let (phase, more, s) := d.enter backend c s
    (phase, log ++ more, s)

/-- Starts the daemon, with a configuration that has been read already if there is one. -/
def start (d : Daemon) (backend : Backend σ ι) (files : Files) (ready : Option Configuration)
    (s : σ) : Phase ι × Log × σ :=
  match ready with
  | some c => d.enter backend c s
  | none => d.begin backend files s

/-- Leaves a session. -/
def leave (backend : Backend σ ι) (session : ι) (s : σ) : Log × σ :=
  match backend.detach session s with
  | (.ok (), s) => ([], s)
  | (.error e, s) => ([detachFailure e], s)

/-- Leaves the last session and ends. -/
def finish (d : Daemon) (backend : Backend σ ι) (session : ι) (s : σ) : Phase ι × Log × σ :=
  let (log, s) := leave backend session s
  (.ended (.ok ()), log ++ (if d.traced then [trace] else []), s)

/-! ## Waking -/

/-- What the daemon does when it is woken while it waits in a session. -/
def handle (d : Daemon) (backend : Backend σ ι) (files : Files) (session : ι) (s : σ) :
    Wake → Phase ι × Log × σ
  | .failed e => (.listening session, [commandFailure e], s)
  | .signal .reload =>
    if d.source.isFile then
      let (left, s) := leave backend session s
      let (phase, log, s) := d.begin backend files s
      (phase, left ++ log, s)
    else (.listening session, [], s)
  | .signal (.shutdown name) =>
    let (phase, log, s) := d.finish backend session s
    (phase, shuttingDown name :: log, s)
  | .closed => d.finish backend session s

/-- What the daemon does when it is woken; nothing once it has ended. -/
def wake (d : Daemon) (backend : Backend σ ι) (files : Files) (phase : Phase ι) (s : σ)
    (w : Wake) : Phase ι × Log × σ :=
  match phase with
  | .listening session => d.handle backend files session s w
  | .ended result => (.ended result, [], s)

/-- What the daemon does when it is woken several times. -/
def wakeAll (d : Daemon) (backend : Backend σ ι) (files : Files) (phase : Phase ι) (s : σ) :
    List Wake → Phase ι × Log × σ
  | [] => (phase, [], s)
  | w :: ws =>
    let (phase, log, s) := d.wake backend files phase s w
    let (last, more, s) := wakeAll d backend files phase s ws
    (last, log ++ more, s)

end Daemon

end Hotkeys.Engine
