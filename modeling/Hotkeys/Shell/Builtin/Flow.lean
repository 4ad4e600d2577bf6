import Hotkeys.Shell.Builtin.Reading

/-!
# Builtin commands about the way of a script

The commands that end scripts, calls and loops, and those about the surroundings: the directory,
commands in the background, and what happens at the end.
-/

set_option autoImplicit false

namespace Hotkeys.Shell

/-! ## Ways out -/

/-- The number that an argument is where any whole number will do. -/
def codeOf? (t : Text) : Option Nat :=
  (wholeNumber? .bash t).map fun n => (n % 256).toNat

/-- Ends the script, with the status of the last command if none is given. -/
def runExit : Builtin := fun line args st => do
  match st.dialect, args with
  | _, [] => return st.finish st.status
  | .plain, arg :: _ => return st.finish ((← readCount arg) % 256)
  | .bash, arg :: rest =>
    match codeOf? arg with
    | none => return (st.complain line (arg ++ ": numeric argument required".toList)).finish 2
    | some code =>
      if rest.isEmpty then return st.finish code
      else
        let st := st.complain line "too many arguments".toList
        return { st with status := 1, flow := .skipping }

/-- Ends the call that the script is in. -/
def runReturn : Builtin := fun line args st => do
  match st.dialect with
  | .plain =>
    let status ← args.head?.elim (.ok st.status) readCount
    return { st with status := status % 256, flow := .returning }
  | .bash =>
    let (status, st) : Nat × State :=
      match args with
      | [] => (st.status, st)
      | arg :: _ =>
        match codeOf? arg with
        | some code => (code, st)
        | none => (2, st.complain line (arg ++ ": numeric argument required".toList))
    if st.calls = 0 && !st.sourcing then
      let message := "can only \x60return' from a function or sourced script"
      return (st.complain line message.toList).withStatus 2
    else return { st with status, flow := .returning }

/-- Leaves the loop that the script is in, or goes on with its next turn. -/
def runLeave (again : Bool) : Builtin := fun line args st => do
  match st.dialect with
  | .plain =>
    let n ← args.head?.elim (.ok 1) readCount
    if n = 0 then .error ("Illegal number: ".toList ++ args.headD [])
    else if st.loops = 0 then return st.withStatus 0
    else return { st with status := 0, flow := .leaving (min n st.loops) again }
  | .bash =>
    if st.loops = 0 then
      let message := "only meaningful in a \x60for', \x60while', or \x60until' loop"
      return (st.complain line message.toList).withStatus 0
    else
      match args.head?.elim (some 1) (wholeNumber? .bash) with
      | none =>
        let message := args.headD [] ++ ": numeric argument required".toList
        return (st.complain line message).finish 128
      | some n =>
        if n ≤ 0 then
          let st := st.complain line (args.headD [] ++ ": loop count out of range".toList)
          return { st with status := 1, flow := .leaving st.loops false }
        else return { st with status := 0, flow := .leaving (min n.toNat st.loops) again }

/-! ## Directories -/

/-- The path of a directory behind a change: its segments, with those taken away that `..` leads
back from. -/
def logicalPath (base target : Text) : Text :=
  let start : List Text :=
    if Host.Path.isAbsolute target then [] else Host.Path.segments base
  let segments := (Host.Path.segments target).foldl (fun (path : List Text) s =>
    if s = ['.'] then path else if s = ['.', '.'] then path.dropLast else path ++ [s]) start
  '/' :: Text.join ['/'] segments

/-- The state in another directory. -/
def State.moveTo (st : State) (place : Host.Place) (path : Text) : State :=
  let moved := { st with files := { st.files with here := place }, directory := path }
  let known := (moved.set "OLDPWD".toList st.directory).set "PWD".toList path
  { known with exported := "PWD".toList :: "OLDPWD".toList :: known.exported, status := 0 }

/-- Changes the directory. -/
def runCd : Builtin :=
  withFlags "cd" "LP" "LPe@" fun line letters args st =>
    let unset (name : String) : Except Text Text :=
      match st.get? name.toList, st.dialect with
      | some value, _ => .ok value
      | none, .plain => .ok []
      | none, .bash => .error (name.toList ++ " not set".toList)
    let isBack := args.head? == some ['-']
    if st.dialect.isBash && 1 < args.length then .error "too many arguments".toList
    else do
      let target ←
        match args with
        | [] => unset "HOME"
        | ['-'] :: _ => unset "OLDPWD"
        | target :: _ => .ok target
      if target.isEmpty then return st.withStatus 0
      else
        match st.files.lookUp target with
        | .ok (place, .directory) =>
          let path :=
            if letters.contains 'P' then State.pathOf place else logicalPath st.directory target
          let st := st.moveTo place path
          return if isBack then st.printText line (path ++ ['\n']) else st
        | result =>
          match st.dialect, result with
          | .plain, _ => .error ("can't cd to ".toList ++ target)
          | .bash, .error e => .error (target ++ ": ".toList ++ e.describe.toList)
          | .bash, .ok _ => .error (target ++ ": Not a directory".toList)

/-! ## Other scripts -/

/-- Waits for the command in the background. -/
def runWait : Builtin := fun line args st =>
  match args, st.background with
  | [], _ => .ok (st.withStatus 0)
  | number :: _, background =>
    match background.filter fun _ => number == Text.ofNat backgroundNumber, st.dialect with
    | some status, _ => .ok (st.withStatus status)
    | none, .plain => .ok (st.withStatus 127)
    | none, .bash =>
      let message := "pid ".toList ++ number ++ " is not a child of this shell".toList
      .ok ((st.complain line message).withStatus 127)

/-- The names of signals, by their numbers. -/
def signalNames : List (String × Nat) :=
  [("EXIT", 0), ("HUP", 1), ("INT", 2), ("QUIT", 3), ("ILL", 4), ("TRAP", 5), ("ABRT", 6),
    ("BUS", 7), ("FPE", 8), ("KILL", 9), ("USR1", 10), ("SEGV", 11), ("USR2", 12), ("PIPE", 13),
    ("ALRM", 14), ("TERM", 15), ("STKFLT", 16), ("CHLD", 17), ("CONT", 18), ("STOP", 19),
    ("TSTP", 20), ("TTIN", 21), ("TTOU", 22), ("URG", 23), ("XCPU", 24), ("XFSZ", 25),
    ("VTALRM", 26), ("PROF", 27), ("WINCH", 28), ("IO", 29), ("PWR", 30), ("SYS", 31)]

/-- The number of a signal, by its name or its number. -/
def signalNumber? (d : Dialect) (t : Text) : Option Nat :=
  match Text.numeral? 10 t with
  | some n => if n ≤ 64 then some n else none
  | none =>
    let name := (Text.after? "SIG".toList t).filter fun _ => d.isBash
    let word := name.getD t
    if d.isBash && ["ERR", "DEBUG", "RETURN"].any (fun w => word == w.toList) then some 0
    else
      (signalNames.find? fun s => s.1.toList == word.map Char.toUpper).map Prod.snd

/-- Tells what to do at the end of the script. -/
def runTrap : Builtin := fun line args st =>
  let d := st.dialect
  let st := st.withStatus 0
  match withoutFlags args with
  | [] =>
    let shown :=
      match st.farewell with
      | some action => "trap -- ".toList ++ quotedValue action ++ " EXIT\n".toList
      | none => []
    .ok (if shown.isEmpty then st else st.printText line shown)
  | action :: signals =>
    let (action, signals) : Text × List Text :=
      if signals.isEmpty then (['-'], [action]) else (action, signals)
    match signals.find? fun s => (signalNumber? d s).isNone, d with
    | some s, .plain => .ok ((st.say (st.speaker ++ s ++ ": bad trap".toList)).withStatus 1)
    | some s, .bash => .error (s ++ ": invalid signal specification".toList)
    | none, _ =>
      if signals.any fun s => signalNumber? d s = some 0 && s.map Char.toUpper != "ERR".toList then
        .ok { st with farewell := if action = ['-'] then none else some action }
      else .ok st

/-- Sends a signal. -/
def runKill : Builtin := fun line args st =>
  let isSignal (arg : Text) : Bool := Text.beginsWith arg ['-'] && decide (1 < arg.length)
  let numbers := (args.dropWhile isSignal).filter fun arg => !isSignal arg
  let numbers :=
    match args with
    | ['-', 's'] :: _ :: rest | ['-', 'n'] :: _ :: rest => rest
    | _ => numbers
  match numbers with
  | [] =>
    match st.dialect with
    | .plain =>
      let usage := "Usage: kill [-s sigspec | -signum | -sigspec] [pid | job]... or\n" ++
        "kill -l [exitstatus]"
      .error usage.toList
    | .bash => .ok ((st.say (usageOf "kill".toList).toList).withStatus 2)
  | number :: _ =>
    if number = ['1'] then .ok (st.withStatus 0)
    else if st.background.isSome && number = Text.ofNat backgroundNumber then
      .ok { st with status := 0, background := some 143 }
    else
      let message :=
        match st.dialect with
        | .plain => "No such process\n".toList
        | .bash => '(' :: number ++ ") - No such process".toList
      .ok ((st.complain line message).withStatus 1)

/-- Tells what new files may be used for. -/
def runUmask : Builtin := fun line args st =>
  match args with
  | [] => .ok (st.printText line "0022\n".toList)
  | arg :: _ =>
    if arg.all fun c => c.isDigit && c != '8' && c != '9' then .ok (st.withStatus 0)
    else
      match st.dialect with
      | .plain => .error ("Illegal number: ".toList ++ arg)
      | .bash => .error (arg ++ ": octal number out of range".toList)

/-- Gives words other meanings, which scripts do without. -/
def runAlias : Builtin := fun line args st =>
  match args.find? fun arg => !arg.contains '=' with
  | none => .ok (st.withStatus 0)
  | some arg =>
    match st.dialect with
    | .plain => .ok ((st.say (st.speaker ++ arg ++ " not found".toList)).withStatus 1)
    | .bash => .ok ((st.complain line (arg ++ ": not found".toList)).withStatus 1)

end Hotkeys.Shell
