import Hotkeys.Config.Source
import Hotkeys.Host.Environment

/-!
# Location

Where the configuration is found when none is named, and the file that is put there at first.
-/

set_option autoImplicit false

namespace Hotkeys.Config

open Hotkeys.Host (Environment Files)

/-- The name of the directory for the program's own files. -/
def directoryName : Text :=
  "hotkd".toList

/-- The name of the configuration file. -/
def fileName : Text :=
  "hotkd.sh".toList

/-- What is put into a new configuration file. -/
def firstContent : Text :=
  "#!/bin/sh\n\n## start defining your keybindings\n".toList

/-- The directory for the program's own files: below the directory for configurations if that is
given, or else below `.config` in the home directory.  An empty value is as good as none. -/
def directory? (configurations home : Option Text) : Option Text :=
  let given (value : Option Text) := value.filter fun v => !v.isEmpty
  let base :=
    match given configurations with
    | some base => some base
    | none => (given home).map fun h => Host.Path.join h ".config".toList
  base.map fun b => Host.Path.join b directoryName

/-- The path of the configuration when none is named. -/
def defaultPath (env : Environment) : Except Error Text :=
  match directory? (env.get? "XDG_CONFIG_HOME") (env.get? "HOME") with
  | some directory => .ok (Host.Path.join directory fileName)
  | none => .error (Error.ofFault (.read .noHome))

/-- The error that a fault about a path is told as. -/
def readError (path : Text) (fault : ReadFault) : Error :=
  (Error.ofFault (.read fault)).withPath path

/-- Checks that a path leads to a regular file. -/
def validate (files : Files) (path : Text) : Except Error Unit :=
  match files.lookUp path with
  | .error _ => .error (readError path .notFound)
  | .ok (_, node) => if node.isFile then .ok () else .error (readError path .notRegular)

/-- The report that a configuration file was made. -/
def creating (path : Text) : LogRecord :=
  { level := .info
    message := "created default config".toList
    fields := [("path".toList, path)] }

/-- Puts a first configuration at a path where there is nothing yet.  The answer tells whether it
was done. -/
def create (files : Files) (path : Text) : Except Error Bool × Files × Log :=
  if files.contains path then (.ok false, files, [])
  else
    let (made, files) :=
      match Host.Path.parent? path with
      | some directory => files.createDirectories directory
      | none => (.ok (), files)
    match made with
    | .error e => (.error (readError path (.system e)), files, [])
    | .ok () =>
      match files.write path (Text.Utf8.encode firstContent) with
      | .error e => (.error (readError path (.system e)), files, [])
      | .ok files => (.ok true, files, [creating path])

/-- The path of the configuration to use.  One that is named has to be there; otherwise a first
one is made if need be. -/
def resolvePath (files : Files) (env : Environment) :
    Option Text → Except Error Text × Files × Log
  | some path => ((validate files path).map fun _ => path, files, [])
  | none =>
    match defaultPath env with
    | .error e => (.error e, files, [])
    | .ok path =>
      match create files path with
      | (.error e, files, log) => (.error e, files, log)
      | (.ok _, files, log) => ((validate files path).map fun _ => path, files, log)

end Hotkeys.Config
