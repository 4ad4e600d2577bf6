import Hotkeys.Host.Environment

/-!
# Log filters

Which records are shown: a filter directive, chosen by the first of several settings that is given.
-/

set_option autoImplicit false

namespace Hotkeys.CommandLine

open Hotkeys.Host (Environment)

/-- The settings of the command line that bear on the filter. -/
structure LogFlags where
  /-- To show everything. -/
  trace : Bool
  /-- To show what helps to find mistakes. -/
  debug : Bool
  /-- The least serious level to show. -/
  level : Option Text
  /-- The directive itself. -/
  filter : Option Text
  deriving DecidableEq, Repr

/-- The parts of the program whose records a level applies to. -/
def logTargets : List Text :=
  ["hotkd", "hotkd_engine", "config", "x11_hotkey", "x11_keycode", "logging"].map String.toList

/-- The directive that shows every part of the program from one level on. -/
def levelSpec (level : Text) : Text :=
  Text.join [','] (logTargets.map fun target => target ++ '=' :: Text.asciiLower level)

/-- The directive in force.  A directive on the command line counts most, then the flags for a
level, then the switch `HOTKD_DEBUG`, then a directive from the environment. -/
def LogFlags.spec (flags : LogFlags) (env : Environment) : Text :=
  match flags.filter with
  | some directive => directive
  | none =>
    if flags.trace then levelSpec "trace".toList
    else if flags.debug then levelSpec "debug".toList
    else
      match flags.level with
      | some level => levelSpec level
      | none =>
        if env.isOn "HOTKD_DEBUG" then levelSpec "debug".toList
        else (env.get? "RUST_LOG").getD (levelSpec "info".toList)

end Hotkeys.CommandLine
