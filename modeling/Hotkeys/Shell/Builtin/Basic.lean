import Hotkeys.Shell.CountedCondition
import Hotkeys.Shell.Expansion
import Hotkeys.Shell.Printing

/-!
# Builtin commands

What a builtin command is, how its arguments are read, and the commands that print and test.
-/

set_option autoImplicit false

namespace Hotkeys.Shell

open Hotkeys.Host (Bytes)

/-- What a builtin command on a line makes of its arguments and a state, or why it cannot. -/
abbrev Builtin := (line : Nat) → List Text → State → Except Text State

/-- The builtin commands whose failure ends the script and whose settings stay. -/
def isSpecialBuiltin (name : Text) : Bool :=
  [".", ":", "break", "continue", "eval", "exec", "exit", "export", "local", "readonly", "return",
    "set", "shift", "times", "trap", "unset"].any fun special => name == special.toList

/-- The builtin commands that take settings as their arguments. -/
def takesSettings (d : Dialect) (name : Text) : Bool :=
  ["export", "readonly", "local"].any (fun n => name == n.toList) ||
    d.isBash && ["declare", "typeset"].any fun n => name == n.toList

/-! ## Arguments -/

/-- The greatest number that an argument may be. -/
def greatestArgument : Nat := 2147483647

/-- The number that an argument is. -/
def readCount (t : Text) : Except Text Nat :=
  match wholeNumber? .plain t with
  | some (.ofNat n) =>
    if n ≤ greatestArgument then .ok n else .error ("Illegal number: ".toList ++ t)
  | _ => .error ("Illegal number: ".toList ++ t)

/-- The arguments behind the flags among them. -/
def withoutFlags : List Text → List Text
  | [] => []
  | arg :: args =>
    if arg = ['-', '-'] then args
    else if Text.beginsWith arg ['-'] && arg != ['-'] then withoutFlags args
    else arg :: args

/-- The letters of the flags among arguments, and the arguments behind them. -/
def takeFlags : List Text → Text × List Text
  | [] => ([], [])
  | arg :: args =>
    match arg with
    | ['-', '-'] => ([], args)
    | '-' :: c :: cs =>
      let (letters, rest) := takeFlags args
      (c :: cs ++ letters, rest)
    | _ => ([], arg :: args)

/-- How a builtin command is used, as it is said of a wrong flag. -/
def usageOf (name : Text) : String :=
  match String.ofList name with
  | "set" => "set: usage: set [-abefhkmnptuvxBCEHPT] [-o option-name] [--] [-] [arg ...]"
  | "export" => "export: usage: export [-fn] [name[=value] ...] or export -p"
  | "readonly" => "readonly: usage: readonly [-aAf] [name[=value] ...] or readonly -p"
  | "unset" => "unset: usage: unset [-f] [-v] [-n] [name ...]"
  | "read" =>
    "read: usage: read [-ers] [-a array] [-d delim] [-i text] [-n nchars] [-N nchars] " ++
      "[-p prompt] [-t timeout] [-u fd] [name ...]"
  | "cd" => "cd: usage: cd [-L|[-P [-e]] [-@]] [dir]"
  | "pwd" => "pwd: usage: pwd [-LP]"
  | "printf" => "printf: usage: printf [-v var] format [arguments]"
  | "kill" =>
    "kill: usage: kill [-s sigspec | -n signum | -sigspec] pid | jobspec ... or kill -l [sigspec]"
  | "getopts" => "getopts: usage: getopts optstring name [arg ...]"
  | "." => ".: usage: . filename [arguments]"
  | "source" => "source: usage: source filename [arguments]"
  | _ => ""

/-- What becomes of a flag that a builtin command does not have. -/
def refuseFlag (name : String) (line : Nat) (c : Char) (st : State) : Except Text State :=
  match st.dialect with
  | .plain => .error ("Illegal option -".toList ++ [c])
  | .bash =>
    let st := st.complain line (['-', c] ++ ": invalid option".toList)
    .ok ((st.say (usageOf name.toList).toList).withStatus 2)

/-- Runs a command with the flags among its arguments, if it has all of them. -/
def withFlags (name : String) (plain bash : String)
    (command : (line : Nat) → Text → List Text → State → Except Text State) : Builtin :=
  fun line args st =>
    let (letters, rest) := takeFlags args
    let known := (if st.dialect.isBash then bash else plain).toList
    match letters.find? fun c => !known.contains c with
    | some c => refuseFlag name line c st
    | none => command line letters rest st

/-! ## Output -/

/-- The state after a builtin command has printed. -/
def State.print (st : State) (line : Nat) (bytes : Bytes) : State :=
  if !st.canWrite 1 && !bytes.isEmpty then
    let message :=
      match st.dialect with
      | .plain => st.speaker ++ "I/O error".toList
      | .bash =>
        "write error: ".toList ++
          if (st.channelOf? 1).isNone then "Bad file descriptor".toList
          else Host.SystemError.noSpace.describe.toList
    (st.complain line message).withStatus 1
  else (st.write 1 bytes).withStatus 0

/-- The state after a builtin command has printed a text. -/
def State.printText (st : State) (line : Nat) (t : Text) : State :=
  st.print line (Text.Utf8.encode t)

/-- Prints its arguments. -/
def runEcho : Builtin := fun line args st =>
  .ok (st.print line (printLine st.dialect .zeroed args))

/-- Prints its arguments as a format says, or makes a name stand for that. -/
def runPrintf : Builtin := fun line args st =>
  let d := st.dialect
  let usage : Except Text State :=
    match d with
    | .plain => .error "usage: printf format [arg ...]".toList
    | .bash => .ok ((st.say (usageOf "printf".toList).toList).withStatus 2)
  let print (target : Option Text) (format : Text) (args : List Text) : Except Text State :=
    let printed := printFormat d.isBash format args
    let complain (st : State) (fault : PrintFault) : State := st.complain line (fault.message d)
    let st :=
      match target, d with
      | some name, _ =>
        let st := printed.faults.foldl complain st
        (st.set name (Text.Utf8.decodeLossy printed.bytes)).withStatus 0
      | none, .plain => (printed.faults.foldl complain st).print line printed.bytes
      | none, .bash =>
        let (st, held) := printed.parts.foldl (fun (s : State × Bytes) part =>
          match part with
          | .bytes b =>
            let bytes := s.2 ++ b
            let held := (bytes.reverse.takeWhile (· != 10)).reverse
            (s.1.write 1 (bytes.take (bytes.length - held.length)), held)
          | .fault f => (complain s.1 f, s.2)) (st, [])
        if st.canWrite 1 then st.print line held else st.print line printed.bytes
    match printed.stopped with
    | some fault => .ok ((st.complain line (fault.message d)).withStatus d.misuse)
    | none => .ok (if printed.faults.isEmpty then st else st.withStatus 1)
  match args with
  | [] => usage
  | ['-', '-'] :: [] => usage
  | ['-', '-'] :: format :: rest => print none format rest
  | ['-', 'v'] :: name :: format :: rest =>
    if d.isBash then print (some name) format rest else refuseFlag "printf" line 'v' st
  | ('-' :: c :: _) :: _ => refuseFlag "printf" line c st
  | format :: rest => print none format rest

/-- Prints the directory. -/
def runPwd : Builtin :=
  withFlags "pwd" "LP" "LP" fun line letters _ st =>
    let path := if letters.contains 'P' then State.pathOf st.files.here else st.directory
    .ok (st.printText line (path ++ ['\n']))

/-! ## Conditions -/

/-- Decides a condition. -/
def State.decide (st : State) (args : List Text) : Except ConditionFault Bool :=
  match st.dialect with
  | .plain => decideCondition st.files args
  | .bash =>
    Ground.decide { files := st.files, isSet := some fun name => (st.get? name).isSome } true args

/-- The state after a condition. -/
def State.test (st : State) (line : Nat) (args : List Text) : State :=
  match st.decide args with
  | .ok answer => st.withStatus (if answer then 0 else 1)
  | .error fault => (st.complain line (fault.message st.dialect)).withStatus 2

/-- Decides a condition. -/
def runTest : Builtin := fun line args st =>
  .ok (st.test line args)

/-- Decides a condition in brackets. -/
def runBracket : Builtin := fun line args st =>
  if args.getLast? = some [']'] then runTest line args.dropLast st
  else
    let message := if st.dialect.isBash then "missing \x60]'" else "missing ]"
    .ok ((st.complain line message.toList).withStatus 2)

end Hotkeys.Shell
