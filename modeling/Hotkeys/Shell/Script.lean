import Hotkeys.Shell.Streams

/-!
# Running scripts

How a script is run: line by line, so that what stands behind its end is never looked at.  What a
command does is handed in as a `Run`.
-/

set_option autoImplicit false

namespace Hotkeys.Shell

open Hotkeys.Host (Bytes)

/-- Runs a command.  One that is `tested` may fail without ending a strict script. -/
abbrev Run := (tested : Bool) → Command → State → State

/-! ## Lines -/

/-- What is known of a script that is run line by line. -/
structure ScriptSource where
  /-- What complaints about its form name it by. -/
  label : Text
  /-- The number of its first line. -/
  first : Nat
  /-- Whether its lines can be shown as they are read. -/
  visible : Bool
  /-- Whether a fault in its form is the end of everything. -/
  isWhole : Bool
  deriving DecidableEq, Repr

/-- The text that bytes hold, without the zeros among them. -/
def scriptText (bytes : Bytes) : Text :=
  Text.Utf8.decodeLossy (bytes.filter (· != 0))

/-- The state after a complaint about the form of a script; `text` is what was left of it when its
line began, and `line` the number of that line. -/
def State.refuseScript (st : State) (src : ScriptSource) (line : Nat) (text : Text)
    (misfit : Misfit) : State :=
  match st.dialect with
  | .plain => st.fail misfit.line misfit.message
  | .bash =>
    let say (st : State) (message : Text) : State :=
      { st with speaker := src.label }.complain misfit.line message
    let said := say st misfit.message
    let said :=
      if misfit.shown then
        let shown := ((Text.splitOn (· == '\n') text)[misfit.line - line]?).getD []
        say said ('\x60' :: shown ++ ['\''])
      else said
    let said := { said with speaker := st.speaker }
    if src.isWhole || 0 < st.apart then said.finish 2 else said.withStatus 2

/-- The state after lines that were read have been shown, where that is wanted. -/
def State.echoLines (st : State) (src : ScriptSource) (read : Text) : State :=
  if st.settings.echoed && src.visible then st.write 2 (Text.Utf8.encode read) else st

/-- The state behind a line of a script: what was to be skipped is over, unless the script runs
apart. -/
def State.endLine (st : State) : State :=
  if st.flow = .skipping then
    if st.settings.strict || 0 < st.apart then st.finish st.status
    else { st with flow := .onward }
  else st

/-- Runs the line of a script that begins at a position; `text` is what is left of the script there
and `width` at least what it takes to read the line.  The answer is the position behind it, unless
the script has ended. -/
def runLine (exec : Command → State → State) (src : ScriptSource) (width : Nat) (c : Cursor)
    (text : Text) (st : State) : Option Cursor × State :=
  match parseLine width c with
  | .error misfit =>
    let st := st.echoLines src text
    (none, st.refuseScript src c.line text misfit)
  | .ok none => (none, st)
  | .ok (some (command, c)) =>
    let st := st.echoLines src (text.take (text.length - c.rest.text.length))
    let st := { st with reached := c.rest.line }
    let st := if st.settings.idle then st else (exec command st).endLine
    (if st.goesOn then some c else none, st)

/-- Runs a script line by line from a position on; `bound` is at least the number of lines left. -/
def runLines (exec : Command → State → State) (src : ScriptSource) (width : Nat) :
    (bound : Nat) → Cursor → Text → State → State
  | 0, _, _, st => st
  | bound + 1, c, text, st =>
    match runLine exec src width c text st with
    | (some next, st) =>
      if next.token = .finish then st
      else runLines exec src width bound next.next next.rest.text st
    | (none, st) => st

/-- What it takes to read a line of a script. -/
def widthOf (script : Text) : Nat :=
  8 * (script.length + 1) + 8

/-- Runs a script.  One without commands succeeds. -/
def runText (exec : Command → State → State) (src : ScriptSource) (script : Text) (st : State) :
    State :=
  let size := script.length + 1
  let start := Cursor.ofReader { dialect := st.dialect, text := script, line := src.first }
  if (start.skipNewlines size).token = .finish then
    (st.echoLines src script).withStatus 0
  else runLines exec src (widthOf script) size start script st

/-- Runs what a script can read as a script.  The interpreter with more to offer takes one line at
a time and leaves the rest to the commands; the other one takes all that there is.  `bound` limits
the number of steps. -/
def runInput (exec : Command → State → State) (src : ScriptSource) : (bound : Nat) → State → State
  | 0, st => st
  | bound + 1, st =>
    let text := scriptText st.input
    let src := { src with first := st.reached }
    if text.isEmpty then st
    else
      match st.dialect with
      | .plain =>
        let st := runText exec src text (st.readUpTo 0 [])
        if st.goesOn then runInput exec src bound st else st
      | .bash =>
        let start := Cursor.ofReader { dialect := .bash, text, line := src.first }
        let left (c : Cursor) : Bytes :=
          if c.token = .finish then [] else Text.Utf8.encode c.rest.text
        let behind :=
          match parseLine (widthOf text) start with
          | .ok (some (_, c)) => left c
          | _ => []
        match runLine exec src (widthOf text) start text (st.readUpTo 0 behind) with
        | (some _, st) => runInput exec src bound st
        | (none, st) => st

/-! ## Parts that run apart -/

/-- A script that is handed over as a text, beginning on a line. -/
def ScriptSource.inside (first : Nat) : ScriptSource :=
  { label := [], first, visible := false, isWhole := false }

/-- The state after what it is to do at its end was done. -/
def State.depart (run : Run) (st : State) : State :=
  match st.farewell with
  | none => st
  | some action =>
    let after := runText (run false) (ScriptSource.inside 1) action
      { st with flow := .onward, farewell := none }
    if after.flow = .ended then after else { after with status := st.status }

/-- Runs something on a copy of the values. -/
def runApart (run : Run) (work : State → State) (st : State) : State :=
  st.rejoin ((work { st with
    farewell := none
    apart := st.apart + 1
    collapse := st.dialect.misuse }).depart run)

/-- A text without the newlines at its end. -/
def dropNewlines (t : Text) : Text :=
  (t.reverse.dropWhile fun c => c == '\n').reverse

/-- A script that names nothing but a file to read, as the command that copies it. -/
def copying (d : Dialect) (script : Text) : Text :=
  let bare := script.dropWhile fun c => c == ' ' || c == '\t' || c == '\n'
  match d, bare with
  | .bash, '<' :: c :: _ => if c = '<' || c = '(' || c = '&' then script else "cat ".toList ++ bare
  | _, _ => script

/-- What a script writes that runs apart.  How it ends is remembered beside the status, which stays
as it is in the standard interpreter. -/
def captureWith (run : Run) (first : Nat) (script : Text) : Reading Text := fun st =>
  let (number, inner) := st.opened (.kept [])
  let inner := { inner.connect 1 (some number) with level := st.level + 1 }
  let work := runText (run false) (ScriptSource.inside first) (copying st.dialect script)
  let after := runApart run work inner
  let content := after.keptOf number
  let warned :=
    if st.dialect.isBash && content.contains 0 then
      let warning := "warning: command substitution: ignored null byte in input".toList
      State.complain { after with speaker := [] } first warning
    else after
  let after := { warned with speaker := after.speaker }
  let status := if st.dialect.isBash then after.status else st.status
  (dropNewlines (scriptText content),
    State.reconnect st { after with status, answer := after.status, level := st.level } [1])

/-- Reads the words on a line. -/
def readerAt (run : Run) (line : Nat) : WordReader :=
  { capture := captureWith run, line }

end Hotkeys.Shell
