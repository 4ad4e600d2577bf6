import Hotkeys.CommandLine.Reading
import Hotkeys.CommandLine.Work
import Hotkeys.Tools.Launch

/-!
# The program

A run where the command line is read from left to right and the programs that it starts are those
of the system.
-/

set_option autoImplicit false

namespace Hotkeys.CommandLine

/-- The line that names the version. -/
def versionLine : Text :=
  programName ++ " 0.0.1\n".toList

/-- How a switch is written in the explanation of the command line. -/
def Switch.usage (s : Switch) : Text :=
  let letter :=
    match s.letter? with
    | some c => ['-', c, ',', ' ']
    | none => []
  let value :=
    match s.arity with
    | .bare => []
    | .valued => " VALUE".toList
    | .optional _ => " [VALUE]".toList
  "  ".toList ++ letter ++ "--".toList ++ s.word.toList ++ value ++ ['\n']

/-- The explanation of the command line. -/
def usage : Text :=
  "Usage: ".toList ++ programName ++ " [OPTIONS]\n".toList ++ Switch.all.flatMap Switch.usage

/-- What is printed where the command line asks for a text. -/
def answer : Stop → Option Text
  | .help => some usage
  | .version => some versionLine
  | _ => none

/-- Runs the program, which may run itself again once. -/
def runProgram (s : Start) (files : Host.Files) : Ending × Stage :=
  runIn { parse := Options.ofArgs, answer, launch := Tools.launch } 2 s { files, output := [] }

end Hotkeys.CommandLine
