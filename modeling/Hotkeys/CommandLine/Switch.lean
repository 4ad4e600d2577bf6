import Hotkeys.Config.Location

/-!
# Switches

The switches of the command line: how each is written, and whether a value follows.
-/

set_option autoImplicit false

namespace Hotkeys.CommandLine

/-- A switch. -/
inductive Switch where
  /-- The configuration to use. -/
  | config
  /-- Print the bindings and stop. -/
  | dryRun
  /-- Print them as structured data. -/
  | json
  /-- Print the time that reading the configuration takes, and stop. -/
  | parseTime
  /-- Run in the background. -/
  | background
  /-- Write a configuration in an editor first. -/
  | interactive
  /-- Stop the running instances. -/
  | kill
  /-- Let the running instances read their configurations again. -/
  | reload
  /-- Open a file of the configuration directory in an editor. -/
  | edit
  /-- Report more. -/
  | verbose
  /-- Leave out bindings that cannot be expanded. -/
  | lenient
  /-- Report everything. -/
  | trace
  /-- Report what helps to find mistakes. -/
  | debug
  /-- The level to report from. -/
  | logLevel
  /-- The filter directive for reports. -/
  | logFilter
  /-- Explain the command line. -/
  | help
  /-- Name the version. -/
  | version
  deriving DecidableEq, Repr

/-- Whether a value follows a switch. -/
inductive Arity where
  /-- No value may follow. -/
  | bare
  /-- A value has to follow. -/
  | valued
  /-- A value may follow; this one stands in for it. -/
  | optional (standIn : Text)
  deriving DecidableEq, Repr

namespace Switch

/-- Every switch. -/
def all : List Switch :=
  [config, dryRun, json, parseTime, background, interactive, kill, reload, edit, verbose, lenient,
    trace, debug, logLevel, logFilter, help, version]

/-- The word of a switch, written behind `--`. -/
def word : Switch → String
  | config => "config"
  | dryRun => "dry-run"
  | json => "json"
  | parseTime => "parse-time"
  | background => "background"
  | interactive => "interactive"
  | kill => "kill"
  | reload => "reload"
  | edit => "edit"
  | verbose => "verbose"
  | lenient => "lenient"
  | trace => "trace"
  | debug => "debug"
  | logLevel => "log-level"
  | logFilter => "log-filter"
  | help => "help"
  | version => "version"

/-- The letter of a switch, written behind `-`, if it has one. -/
def letter? : Switch → Option Char
  | config => some 'c'
  | dryRun => some 'd'
  | parseTime => some 'p'
  | background => some 'b'
  | interactive => some 'i'
  | kill => some 'k'
  | reload => some 'r'
  | edit => some 'e'
  | verbose => some 'v'
  | help => some 'h'
  | version => some 'V'
  | json | lenient | trace | debug | logLevel | logFilter => none

/-- Whether a value follows. -/
def arity : Switch → Arity
  | config | logLevel | logFilter => .valued
  | edit => .optional Config.fileName
  | _ => .bare

/-- The switch with this word. -/
def ofWord? (w : Text) : Option Switch :=
  all.find? fun s => s.word.toList == w

/-- The switch with this letter. -/
def ofLetter? (c : Char) : Option Switch :=
  all.find? fun s => s.letter? == some c

/-- Whether the value of a switch may be empty. -/
def mayBeEmpty (s : Switch) : Bool :=
  s != config

/-- Whether two switches exclude each other. -/
def excludes : Switch → Switch → Bool
  | interactive, config | config, interactive => true
  | kill, reload | reload, kill => true
  | trace, debug | debug, trace => true
  | trace, logLevel | logLevel, trace | trace, logFilter | logFilter, trace => true
  | debug, logLevel | logLevel, debug | debug, logFilter | logFilter, debug => true
  | _, _ => false

end Switch

end Hotkeys.CommandLine
