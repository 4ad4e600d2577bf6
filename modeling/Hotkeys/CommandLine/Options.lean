import Hotkeys.CommandLine.LogFilter
import Hotkeys.CommandLine.Switch

/-!
# Options

What the arguments of the program ask for, and which settings of switches ask for it.
-/

set_option autoImplicit false

namespace Hotkeys.CommandLine

/-! ## What is asked for -/

/-- The options of a run. -/
structure Options where
  /-- The configuration to use. -/
  config : Option Text
  /-- To print the bindings and stop. -/
  dryRun : Bool
  /-- To print them as structured data. -/
  json : Bool
  /-- To print the time that reading takes, and stop. -/
  parseTime : Bool
  /-- To run in the background. -/
  background : Bool
  /-- To write a configuration in an editor first. -/
  interactive : Bool
  /-- To stop the running instances. -/
  kill : Bool
  /-- To let the running instances reload. -/
  reload : Bool
  /-- The file to edit. -/
  edit : Option Text
  /-- To report more. -/
  verbose : Bool
  /-- To leave out bindings that cannot be expanded. -/
  lenient : Bool
  /-- The flags for reports. -/
  log : LogFlags
  deriving DecidableEq, Repr

/-- The flags for reports with `verbose` folded in, which gives way to stronger wishes. -/
def Options.logFlags (o : Options) : LogFlags :=
  if o.verbose && !o.log.trace && o.log.filter.isNone then { o.log with debug := true } else o.log

/-- Why the arguments lead to no options. -/
inductive Stop where
  /-- An argument means nothing. -/
  | unknownArgument
  /-- A value is missing or empty. -/
  | invalidValue
  /-- Two arguments exclude each other, or one is repeated. -/
  | conflict
  /-- A value is attached to a switch that takes none. -/
  | tooManyValues
  /-- An argument needs another one. -/
  | missingCompanion
  /-- The command line is to be explained. -/
  | help
  /-- The version is to be named. -/
  | version
  deriving DecidableEq, Repr

/-! ## Settings -/

/-- A switch with the value it was given; a bare one has the empty value. -/
abbrev Setting := Switch × Text

/-- Whether a switch is among the settings. -/
def gives (settled : List Setting) (s : Switch) : Bool :=
  settled.any fun setting => setting.1 == s

/-- The value that a switch has been given. -/
def valueOf (settled : List Setting) (s : Switch) : Option Text :=
  (settled.find? fun setting => setting.1 == s).map Prod.snd

/-- Whether two settings exclude each other. -/
def clashes (settled : List Setting) : Bool :=
  settled.any fun a => settled.any fun b => a.1.excludes b.1

/-- The options of settings. -/
def Options.ofSettings (settled : List Setting) : Options :=
  { config := valueOf settled .config
    dryRun := gives settled .dryRun
    json := gives settled .json
    parseTime := gives settled .parseTime
    background := gives settled .background
    interactive := gives settled .interactive
    kill := gives settled .kill
    reload := gives settled .reload
    edit := valueOf settled .edit
    verbose := gives settled .verbose
    lenient := gives settled .lenient
    log := {
      trace := gives settled .trace
      debug := gives settled .debug
      level := valueOf settled .logLevel
      filter := valueOf settled .logFilter } }

end Hotkeys.CommandLine
