import Hotkeys.Host.System
import Hotkeys.Shell.Expansion

/-!
# Streams

How redirections connect the streams of a command with something else, and how they are connected
as before behind it.
-/

set_option autoImplicit false

namespace Hotkeys.Shell

open Hotkeys.Host (Files SystemError)

/-! ## Faults -/

/-- Why a file cannot be opened, in the words of the standard interpreter. -/
def openFault (e : SystemError) (missing : Text) : Text :=
  match e with
  | .noEntry | .notDirectory => missing
  | e => e.describe.toList

/-- Why a stream cannot be redirected. -/
inductive RedirectFault where
  /-- A file cannot be opened for reading. -/
  | opening (path : Text) (reason : SystemError)
  /-- A file cannot be opened for writing. -/
  | creating (path : Text) (reason : SystemError)
  /-- A file is to be kept as it is. -/
  | kept (path : Text)
  /-- The other stream is closed. -/
  | closed (stream : Nat)
  /-- The other stream is no number. -/
  | number
  /-- The word stands for no file, or for several ones. -/
  | vague (source : Text)
  deriving DecidableEq, Repr

namespace RedirectFault

/-- What is wrong with a redirection. -/
def message (d : Dialect) (fault : RedirectFault) : Text :=
  match d, fault with
  | .plain, .opening path e =>
    "cannot open ".toList ++ path ++ ": ".toList ++ openFault e "No such file".toList
  | .plain, .creating path e =>
    "cannot create ".toList ++ path ++ ": ".toList ++
      openFault e "Directory nonexistent".toList
  | .plain, .kept path => "cannot create ".toList ++ path ++ ": File exists".toList
  | .bash, .opening path e | .bash, .creating path e =>
    path ++ ": ".toList ++ e.describe.toList
  | .bash, .kept path => path ++ ": cannot overwrite existing file".toList
  | _, .closed stream => Text.ofNat stream ++ ": Bad file descriptor".toList
  | _, .number => "Syntax error: Bad fd number".toList
  | _, .vague source => source ++ ": ambiguous redirect".toList

end RedirectFault

/-! ## Opening -/

/-- How a file is opened. -/
structure Opening where
  /-- Whether it can be read. -/
  reads : Bool
  /-- Whether it can be written; then it is made if it is missing. -/
  writes : Bool
  /-- Whether what is written goes to its end. -/
  adding : Bool
  /-- Whether it loses its contents. -/
  fresh : Bool
  deriving DecidableEq, Repr

/-- Opens the file at a place: the number of the new channel. -/
def State.openPlace (st : State) (how : Opening) (place : Host.Place) :
    Except SystemError (Nat × State) := do
  let st ←
    if how.writes then do
      let files ← st.files.updateAt place (if how.fresh then fun _ => [] else id)
      pure { st with files }
    else do
      match (← st.files.found place).2 with
      | .device .terminal => .error .noDevice
      | _ => pure st
  return st.opened (.file place 0 how.reads how.writes how.adding)

/-- Opens the file at a path: the number of its channel.  A path may lead to a stream; then its
channel is shared, unless that is a file, which is opened anew. -/
def State.openPath (st : State) (how : Opening) (path : Text) :
    Except SystemError (Nat × State) := do
  match st.files.streamAt? path with
  | some stream =>
    match st.channelOf? stream, st.streamChannel? stream with
    | some _, some (.file place _ _ _ _) => st.openPlace how place
    | some number, some _ => return (number, st)
    | _, _ => .error .noEntry
  | none =>
    let place ← if how.writes then st.files.locateFile path else st.files.locate path
    st.openPlace how place

/-! ## Redirecting -/

/-- Connects a stream with a file. -/
def redirectTo (stream : Nat) (how : Opening) (path : Text) (st : State) :
    Except RedirectFault State :=
  match st.openPath how path with
  | .ok (number, st) => .ok (st.connect stream (some number))
  | .error e => .error (if how.writes then .creating path e else .opening path e)

/-- Connects the output and the error stream with a file. -/
def redirectJoined (adding : Bool) (path : Text) (st : State) : Except RedirectFault State := do
  if !adding && st.settings.careful && st.files.isFile path then .error (.kept path)
  else
    let how : Opening := { reads := false, writes := true, adding, fresh := !adding }
    let st ← redirectTo 1 how path st
    return st.connect 2 (st.channelOf? 1)

/-- Connects a stream with what another one is connected with, or closes it. -/
def redirectSame (stream : Nat) (target : Text) (st : State) : Except RedirectFault State :=
  let moving := st.dialect.isBash && 1 < target.length && target.getLast? == some '-'
  let digits := if moving then target.dropLast else target
  match Text.numeral? 10 digits, st.dialect with
  | some n, d =>
    if !d.isBash && 1 < digits.length then .error .number
    else if n = stream && !d.isBash then .ok st
    else
      match st.channelOf? n with
      | some channel =>
        let st := st.connect stream (some channel)
        .ok (if moving && n != stream then st.connect n none else st)
      | none => .error (.closed n)
  | none, .plain => if target = ['-'] then .ok (st.connect stream none) else .error .number
  | none, .bash =>
    if target = ['-'] then .ok (st.connect stream none)
    else if stream = 1 then redirectJoined false target st
    else .error (.vague target)

/-- Redirects one stream. -/
def redirect (stream : Nat) (direction : Direction) (target : Text) (st : State) :
    Except RedirectFault State :=
  match direction with
  | .read =>
    redirectTo stream { reads := true, writes := false, adding := false, fresh := false } target st
  | .write =>
    if st.settings.careful && st.files.isFile target then .error (.kept target)
    else
      redirectTo stream { reads := false, writes := true, adding := false, fresh := true } target st
  | .force =>
    redirectTo stream { reads := false, writes := true, adding := false, fresh := true } target st
  | .append =>
    redirectTo stream { reads := false, writes := true, adding := true, fresh := false } target st
  | .both =>
    redirectTo stream { reads := true, writes := true, adding := false, fresh := false } target st
  | .joined adding => redirectJoined adding target st
  | .same => redirectSame stream target st
  | .document _ => .ok (st.connectNew stream (.source (Text.Utf8.encode target)))
  | .words => .ok (st.connectNew stream (.source (Text.Utf8.encode (target ++ ['\n']))))

/-! ## Words -/

/-- The text that a redirection leads to, if it is one. -/
def targetOf (r : WordReader) (redirect : Redirect) : Reading (Option Text) := fun st =>
  let whole : Option Text × State :=
    let (target, st) := r.text redirect.target st
    (some target, st)
  match st.dialect, redirect.direction with
  | .plain, _ | _, .document _ | _, .words => whole
  | .bash, _ =>
    match r.fields [redirect.target] st with
    | ([target], st) => (some target, st)
    | (_, st) => (none, st)

/-- Redirects streams in order, up to the first fault or to a word that ends the script. -/
def redirectAll (r : WordReader) : List Redirect → State → Except RedirectFault Unit × State
  | [], st => (.ok (), st)
  | first :: rest, st =>
    let (target, st) := targetOf r first st
    if !st.goesOn then (.ok (), st)
    else
      match target with
      | none => (.error (.vague (writtenWord first.target)), st)
      | some target =>
        match redirect first.stream first.direction target st with
        | .error fault => (.error fault, st)
        | .ok st => redirectAll r rest st

/-- The state after the complaint about a redirection, which may be the end of the script. -/
def State.refuseRedirect (st : State) (grave : Bool) (line : Nat) (fault : RedirectFault) : State :=
  let message := fault.message st.dialect
  if fault = .number then st.fail st.reached message
  else st.refuse grave line message

/-- Runs something with redirected streams.  If one cannot be redirected, it is not run, and the
script ends if that is `grave`. -/
def withStreams (r : WordReader) (grave : Bool) (redirects : List Redirect)
    (work : State → State) (st : State) : State :=
  let (result, redirected) := redirectAll r redirects st
  let touched := redirects.map Redirect.stream ++
    [1, 2].filter fun stream => redirected.channelOf? stream != st.channelOf? stream
  let after :=
    match result with
    | .ok () => if redirected.goesOn then work redirected else redirected
    | .error fault => redirected.refuseRedirect grave r.line fault
  State.reconnect st after touched

end Hotkeys.Shell
