import Hotkeys.CommandLine.Json
import Hotkeys.Config.Configuration

/-!
# Listings

A configuration as it is printed: for people, or as structured data.
-/

set_option autoImplicit false

namespace Hotkeys.CommandLine

open Hotkeys.Config (Binding Configuration Interpreter)

/-- A binding for people. -/
def describeBinding (b : Binding) : Text :=
  "binding: ".toList ++ b.written ++ "\ncommand:\n".toList ++ b.command ++ ['\n']

/-- A configuration for people. -/
def describe (c : Configuration) : Text :=
  "hotkd dry run\n".toList ++ c.bindings.flatMap describeBinding ++ ['\n']

/-- An interpreter as structured data. -/
def interpreterData (i : Interpreter) : Json :=
  .record [("program".toList, .text i.program), ("args".toList, .list (i.args.map .text))]

/-- A binding as structured data. -/
def bindingData (b : Binding) : Json :=
  .record [("original".toList, .text b.written), ("normalized".toList, .text b.normalized),
    ("event".toList, .text b.event.tag.toList), ("command".toList, .text b.command)]

/-- A configuration as structured data. -/
def configurationData (c : Configuration) : Json :=
  .record [("shell".toList, interpreterData c.interpreter), ("globals".toList, .text c.globals),
    ("bindings".toList, .list (c.bindings.map bindingData))]

/-- What a dry run prints. -/
def listing (json : Bool) (c : Configuration) : Text :=
  if json then (configurationData c).write ++ ['\n'] else describe c

/-- What is printed about the time that reading a configuration took. -/
def timing (elapsed : Text) (c : Configuration) : Text :=
  "it took ".toList ++ elapsed ++ " to parse the config\n".toList ++
    Text.ofNat c.bindings.length ++
    " parsed keybindings (including expanded variants and ranges)\n".toList

end Hotkeys.CommandLine
