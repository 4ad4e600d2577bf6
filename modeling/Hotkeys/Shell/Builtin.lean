import Hotkeys.Shell.Builtin.Flow

/-!
# The table of builtin commands

The commands that a script runs without starting a program, by their names.
-/

set_option autoImplicit false

namespace Hotkeys.Shell

/-- Does nothing well. -/
def runNothing : Builtin := fun _ _ st =>
  .ok (st.withStatus 0)

/-- The builtin command of a name in every dialect. -/
def plainBuiltin? (name : Text) : Option Builtin :=
  match String.ofList name with
  | ":" | "true" | "times" | "hash" | "jobs" => some runNothing
  | "false" => some fun _ _ st => .ok (st.withStatus 1)
  | "ulimit" => some fun line _ st => .ok (st.printText line "unlimited\n".toList)
  | "echo" => some runEcho
  | "printf" => some runPrintf
  | "pwd" => some runPwd
  | "test" => some runTest
  | "[" => some runBracket
  | "export" => some runExport
  | "readonly" => some runReadonly
  | "local" => some runLocal
  | "unset" => some runUnset
  | "set" => some runSet
  | "shift" => some runShift
  | "getopts" => some runGetopts
  | "read" => some runRead
  | "exit" => some runExit
  | "return" => some runReturn
  | "break" => some (runLeave false)
  | "continue" => some (runLeave true)
  | "cd" => some runCd
  | "wait" => some runWait
  | "trap" => some runTrap
  | "kill" => some runKill
  | "umask" => some runUmask
  | "alias" | "unalias" => some runAlias
  | _ => none

/-- The builtin command of a name in the dialect that has more to offer. -/
def bashBuiltin? (name : Text) : Option Builtin :=
  match String.ofList name with
  | "declare" | "typeset" => some runDeclare
  | "let" => some runLet
  | "mapfile" | "readarray" => some runMapfile
  | "shopt" | "enable" | "bind" | "complete" | "disown" | "history" => some runNothing
  | "logout" => some runExit
  | _ => none

/-- The builtin command of a name. -/
def builtin? (d : Dialect) (name : Text) : Option Builtin :=
  plainBuiltin? name <|> if d.isBash then bashBuiltin? name else none

/-- Lets something make its complaints under the name of a builtin command. -/
def speakingAs (name : Text) (work : State → State) (st : State) : State :=
  { work { st with speaker := name ++ ": ".toList } with speaker := st.speaker }

/-- Runs a builtin command; the failure of a `grave` one ends the script. -/
def runBuiltin (grave : Bool) (name : Text) (command : Builtin) (line : Nat) (args : List Text)
    (st : State) : State :=
  speakingAs name (fun st =>
    match command line args st with
    | .ok st => st
    | .error message => st.refuse grave line message) st

end Hotkeys.Shell
