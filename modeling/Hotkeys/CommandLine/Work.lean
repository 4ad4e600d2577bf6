import Hotkeys.CommandLine.Background
import Hotkeys.CommandLine.Editor
import Hotkeys.CommandLine.Listing
import Hotkeys.CommandLine.Options
import Hotkeys.Engine.Daemon
import Hotkeys.Host.Process

/-!
# The work of a run

What one run of the program does, up to the point where it would wait as a daemon.  The library that
reads the command line and the programs that a run starts are not part of it: a run is handed its
`Surroundings`.
-/

set_option autoImplicit false

namespace Hotkeys.CommandLine

open Hotkeys.Config (Configuration ReadFault Source)
open Hotkeys.Engine (Daemon)
open Hotkeys.Host (Bytes Environment Files SystemError)

/-! ## Runs -/

/-- What a run relies on that is not part of the program. -/
structure Surroundings where
  /-- Reads the command line. -/
  parse : List Text → Except Stop Options
  /-- What is printed where the command line asks for a text instead of a run. -/
  answer : Stop → Option Text
  /-- Starts another program and waits for its end. -/
  launch : Host.Launch

/-- What a run is started with. -/
structure Start where
  /-- The arguments. -/
  args : List Text
  /-- The environment. -/
  env : Environment
  /-- What can be read. -/
  input : Bytes
  /-- The name of a file that nobody else uses. -/
  spareName : Text
  /-- The time that reading the configuration takes. -/
  elapsed : Text
  deriving DecidableEq, Repr

/-- What a run changes. -/
structure Stage where
  /-- The files. -/
  files : Files
  /-- What was printed, by the program and by what it ran. -/
  output : Bytes
  deriving DecidableEq, Repr

/-- Why a run fails. -/
inductive Failure where
  /-- The configuration cannot be used. -/
  | config (e : Config.Error)
  /-- The daemon gave up. -/
  | engine (e : Engine.Error)
  /-- There is no editor. -/
  | noEditor
  /-- Something that was attempted did not work. -/
  | attempt (what : Text) (fault : ReadFault)
  /-- A file for a moment cannot be made at a path. -/
  | spare (path : Text) (reason : SystemError)
  deriving DecidableEq, Repr

/-- The failure as it is shown to the user. -/
def Failure.pretty : Failure → Text
  | .config e => e.pretty
  | .engine e => e.pretty
  | .noEditor => noEditorMessage
  | .attempt what fault => what ++ ": ".toList ++ fault.message
  | .spare path reason =>
    let shown := path.flatMap fun c => if c = '"' || c = '\\' then ['\\', c] else [c]
    "cannot create a temp file: ".toList ++ reason.message ++ " at path \"".toList ++ shown ++ ['"']

/-- How a run ends, if it does not go on as a daemon. -/
inductive Ending where
  /-- Well. -/
  | success
  /-- The arguments mean nothing. -/
  | misuse
  /-- Something failed. -/
  | failure (f : Failure)
  /-- Well, but a run in the background goes on and ends on its own. -/
  | detached (child : Ending)
  /-- It goes on as a daemon, with a configuration that has been read. -/
  | serving (d : Daemon) (c : Configuration)
  deriving DecidableEq, Repr

/-- A part of a run. -/
abbrev Action (α : Type) := ExceptT Failure (StateM Stage) α

/-- Prints a text. -/
def print (t : Text) : Action Unit :=
  modify fun stage => { stage with output := stage.output ++ Text.Utf8.encode t }

/-- Gives up on something that did not work. -/
def giveUp {α : Type} (what : Text) (fault : ReadFault) : Action α :=
  throw (.attempt what fault)

/-- Goes on with a result, or gives up. -/
def orGiveUp {α : Type} (what : Text) : Except SystemError α → Action α
  | .ok a => pure a
  | .error e => giveUp what (.system e)

/-- Goes on with a result, or fails for the configuration's error. -/
def orFail {α : Type} : Except Config.Error α → Action α
  | .ok a => pure a
  | .error e => throw (.config e)

/-! ## Parts -/

/-- The name of the program. -/
def programName : Text :=
  "hotkd".toList

/-- The text that can be read, unless it is blank. -/
def readInput (s : Start) : Action (Option Text) :=
  match Config.textOf s.input with
  | .error fault => giveUp "cannot read stdin".toList fault
  | .ok t => pure (if (Text.trim t).isEmpty then none else some t)

/-- Runs another program and waits for its end; the answer is its code. -/
def runOther (around : Surroundings) (s : Start) (what program : Text) (args : List Text) :
    Action Nat := do
  let stage ← get
  let process : Host.Process := { program, args, env := s.env, input := [] }
  let outcome ← orGiveUp what (around.launch process stage.files)
  set { stage with files := outcome.files, output := stage.output ++ outcome.output }
  return outcome.code

/-- The editor to use. -/
def chooseEditor (s : Start) : Action Text := do
  match editorOf (← get).files s.env with
  | some editor => return editor
  | none => throw .noEditor

/-- Lets the user edit a file.  How the editor ends does not matter. -/
def runEditor (around : Surroundings) (s : Start) (editor file : Text) : Action Unit := do
  let _ ← runOther around s ("cannot invoke ".toList ++ editor) editor [file]

/-- Lets the user edit a file of the configuration directory. -/
def editFile (around : Surroundings) (s : Start) (name : Text) : Action Unit := do
  let editor ← chooseEditor s
  let path ← orFail (Config.defaultPath s.env)
  let directory := (Host.Path.parent? path).getD ['.']
  let (made, files) := (← get).files.createDirectories directory
  modify fun stage => { stage with files }
  orGiveUp ("cannot create ".toList ++ directory) made
  runEditor around s editor (Host.Path.join directory name)

/-- Sends a signal to every running instance, and says what that amounts to. -/
def signalInstances (around : Surroundings) (s : Start) (flag : String) (done : String) :
    Action Unit := do
  let code ← runOther around s "cannot run pkill".toList "pkill".toList
    [flag.toList, "-x".toList, programName]
  if code = 1 then print "no running instance of hotkd\n".toList
  else print (done.toList ++ " every running instance of hotkd\n".toList)

/-- The directory for files that are needed for a moment. -/
def spareDirectory (env : Environment) : Text :=
  (env.get? "TMPDIR").getD "/tmp".toList

/-- The path of the file that is needed for a moment, from the root on. -/
def sparePath (s : Start) (files : Files) : Text :=
  let here := '/' :: Text.join ['/'] files.here
  Host.Path.join (Host.Path.join here (spareDirectory s.env)) s.spareName

/-- Removes a file if it is there. -/
def discard (path : Text) : Action Unit :=
  modify fun stage =>
    match stage.files.remove path with
    | .ok files => { stage with files }
    | .error _ => stage

/-- Lets the user write a configuration that is not kept; the answer is its text. -/
def writeBuffer (around : Surroundings) (s : Start) : Action Text := do
  let editor ← chooseEditor s
  let path := sparePath s (← get).files
  let first := "#!".toList ++ Config.Interpreter.standard.program ++ ['\n']
  match (← get).files.write path (Text.Utf8.encode first) with
  | .ok files => modify fun stage => { stage with files }
  | .error e => throw (.spare path e)
  try runEditor around s editor path
  catch failure => do
    discard path
    throw failure
  let text := Config.readText (← get).files path
  discard path
  match text with
  | .ok t => return t
  | .error fault => giveUp "cannot read the edited buffer".toList fault

/-- The source to use: a text that is at hand, or the file that the options lead to. -/
def chooseSource (s : Start) (o : Options) (buffer : Option Text) : Action Source := do
  match buffer with
  | some text => return .memory text
  | none =>
    let (path, files, _) := Config.resolvePath (← get).files s.env o.config
    modify fun stage => { stage with files }
    return .file (← orFail path)

/-! ## The whole -/

/-- Goes on in the background: `again` runs the program once more, with the text that is at hand to
read. -/
def sendBack (again : Start → Stage → Ending × Stage) (s : Start) (buffer : Option Text) :
    Action Ending := do
  let child :=
    { s with args := backgroundArgs s.args, input := Text.Utf8.encode (buffer.getD []) }
  let (ending, stage) := again child (← get)
  set stage
  return .detached ending

/-- Does what the options ask for. -/
def perform (around : Surroundings) (again : Start → Stage → Ending × Stage) (s : Start)
    (o : Options) : Action Ending := do
  let given ← readInput s
  if let some name := o.edit then
    editFile around s name
    return .success
  if o.kill then
    signalInstances around s "-INT" "stopping"
    return .success
  if o.reload then
    signalInstances around s "-USR1" "reloading"
    return .success
  let buffer ←
    match given with
    | some t => pure (some t)
    | none => if o.interactive then some <$> writeBuffer around s else pure none
  if o.background then
    return ← sendBack again s buffer
  let source ← chooseSource s o buffer
  let policy := if o.lenient then Config.Policy.skip else .fatal
  let c ← orFail (Config.load (← get).files policy source).1
  if o.parseTime then print (timing s.elapsed c)
  if o.dryRun then print (listing o.json c)
  if o.dryRun || o.parseTime then return .success
  return .serving { source, policy, traced := s.env.isOn Engine.traceSwitch } c

/-- Runs the program; `depth` bounds how often it runs itself again. -/
def runIn (around : Surroundings) : (depth : Nat) → Start → Stage → Ending × Stage
  | 0, _, stage => (.success, stage)
  | depth + 1, s, stage =>
    match around.parse s.args with
    | .error stop =>
      match around.answer stop with
      | some t => (.success, { stage with output := stage.output ++ Text.Utf8.encode t })
      | none => (.misuse, stage)
    | .ok o =>
      match (perform around (runIn around depth) s o).run stage with
      | (.ok ending, stage) => (ending, stage)
      | (.error f, stage) => (.failure f, stage)

end Hotkeys.CommandLine
