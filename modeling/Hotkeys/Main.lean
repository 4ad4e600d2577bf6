import Hotkeys.CommandLine.Program
import Hotkeys.Engine.Display
import Hotkeys.Host.System

/-!
# The command line

Reads arguments, environment, input and the files that a run may look at, runs the program, and
puts what it changed and printed where it belongs.  There is no connection to a display here, so a
run that would go on as a daemon ends with the error of a missing server.
-/

set_option autoImplicit false

namespace Hotkeys.Main

open Hotkeys.CommandLine (Ending Failure Options Stage Start)
open Hotkeys.Host (Bytes Environment Files Node Place)

/-! ## Looking around -/

/-- The variables that a run looks at. -/
def variableNames : List String :=
  ["HOME", "XDG_CONFIG_HOME", "PATH", "EDITOR", "TMPDIR", "HOTKD_DEBUG", Engine.traceSwitch,
    "RUST_LOG"]

/-- The environment, as far as a run looks at it. -/
def environment : IO Environment := do
  let values ← variableNames.mapM fun name => do
    let value ← IO.getEnv name
    return value.toList.map fun v => (name.toList, v.toList)
  return values.flatten

/-- Everything that can be read, unless it would have to be typed. -/
def readAll : IO Bytes := do
  let input ← IO.getStdin
  if ← input.isTty then return []
  let rec collect (fuel : Nat) (sofar : ByteArray) : IO ByteArray := do
    match fuel with
    | 0 => return sofar
    | fuel + 1 =>
      let more ← input.read 65536
      if more.isEmpty then return sofar else collect fuel (sofar ++ more)
  return (← collect 100000 ByteArray.empty).toList

/-- A path and the paths of the directories that hold it, the outermost first. -/
def lineage : (depth : Nat) → Text → List Text
  | 0, _ => []
  | depth + 1, path =>
    match Host.Path.parent? path with
    | some parent => (if parent = [] then [] else lineage depth parent) ++ [path]
    | none => []

/-- What is at a path: the contents of a file, or a directory. -/
def look (path : Text) : IO (Option Node) := do
  try
    let content ← IO.FS.readBinFile (String.ofList path)
    return some (.file content.toList true)
  catch
    | .noFileOrDirectory .. => return none
    | _ => return some .directory

/-- The files with what is at a path. -/
def survey (files : Files) (path : Text) : IO Files := do
  match ← look path, files.locate path with
  | some node, .ok place => return if files.get? place = none then files.put place node else files
  | _, _ => return files

/-- The paths that a run may look at. -/
def reach (s : Start) : List Text :=
  let named :=
    match Options.ofArgs s.args with
    | .ok o => o.config.toList
    | .error _ => []
  let usual :=
    match Config.defaultPath s.env with
    | .ok path => [path]
    | .error _ => []
  CommandLine.spareDirectory s.env :: named ++ usual

/-- The files that a run may look at. -/
def filesFor (s : Start) : IO Files := do
  let here := (← IO.currentDir).toString.toList
  let start := Host.systemFiles (Host.Path.segments here)
  let paths := (here :: reach s).flatMap fun path => lineage (path.length + 1) path
  paths.foldlM survey start

/-! ## Leaving traces -/

/-- The path of a place. -/
def pathOf (place : Place) : String :=
  String.ofList (place.flatMap fun name => '/' :: name)

/-- Puts what a run changed where it belongs. -/
def apply (before after : Files) : IO Unit := do
  for (place, node) in after.nodes do
    if before.get? place != some node then
      match node with
      | .directory => IO.FS.createDirAll (pathOf place)
      | .file content _ => IO.FS.writeBinFile (pathOf place) (ByteArray.mk content.toArray)
      | _ => pure ()
  for (place, node) in before.nodes do
    if node.isFile && (after.get? place).isNone then IO.FS.removeFile (pathOf place)

/-- Tells why a run failed; the answer is its code. -/
def report (f : Failure) : IO UInt32 := do
  (← IO.getStderr).putStrLn (String.ofList (Text.trimEnd f.pretty))
  return 1

/-- Tells how a run ended; the answer is its code. -/
def conclude (files : Files) : Ending → IO UInt32
  | .success => return 0
  | .misuse => do
    (← IO.getStderr).putStr (String.ofList CommandLine.usage)
    return 2
  | .failure f => report f
  | .detached child => do
    let _ ← conclude files child
    return 0
  | .serving d c =>
    match (d.start Engine.onDisplay files (some c) (Engine.Display.fresh none)).1 with
    | .ended (.error e) => report (.engine e)
    | _ => return 0

/-- One run of the program. -/
def runOnce (args : List String) : IO UInt32 := do
  let begun ← IO.monoMsNow
  let start : Start :=
    { args := args.map String.toList
      env := ← environment
      input := ← readAll
      spareName := "hotkd-".toList ++ Text.ofNat begun ++ ".sh".toList
      elapsed := [] }
  let files ← filesFor start
  let elapsed := Text.ofNat ((← IO.monoMsNow) - begun) ++ "ms".toList
  let (ending, stage) := CommandLine.runProgram { start with elapsed } files
  apply files stage.files
  (← IO.getStdout).write (ByteArray.mk stage.output.toArray)
  conclude stage.files ending

end Hotkeys.Main

/-- The entry point. -/
def main (args : List String) : IO UInt32 :=
  Hotkeys.Main.runOnce args
