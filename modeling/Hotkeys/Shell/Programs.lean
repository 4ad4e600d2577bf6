import Hotkeys.Shell.Builtin
import Hotkeys.Shell.Script

/-!
# Programs

How a script runs programs and what it says of those that cannot be run, and how it tells what the
command of a name is.  Programs are run by a `Launch` that is handed in.
-/

set_option autoImplicit false

namespace Hotkeys.Shell

open Hotkeys.Host (Launch Node Outcome SystemError)

/-! ## Looking for programs -/

/-- The paths where the program of a name may be. -/
def candidates (st : State) (name : Text) : List Text :=
  if Host.Path.hasPlace name then [name]
  else
    let directories := Host.Path.searchList ((st.get? "PATH".toList).getD Host.standardSearch)
    directories.map fun directory =>
      Host.Path.join (if directory.isEmpty then ['.'] else directory) name

/-- Whether a node can be run. -/
def isRunnable : Node → Bool
  | .tool _ | .file _ true => true
  | _ => false

/-- The first path of some where something of a kind is. -/
def pathWhere? (st : State) (fits : Node → Bool) (paths : List Text) : Option Text :=
  paths.find? fun path =>
    match st.files.lookUp path with
    | .ok (_, node) => fits node
    | .error _ => false

/-- The path of the program that a name stands for. -/
def programPath? (st : State) (name : Text) : Option Text :=
  pathWhere? st isRunnable (candidates st name)

/-! ## Complaints -/

/-- What is said of a program that cannot be run, and the status then. -/
structure Refusal where
  /-- What is said. -/
  message : Text
  /-- The status. -/
  status : Nat
  deriving DecidableEq, Repr

/-- The refusal of a program by the standard interpreter. -/
def plainRefusal (name : Text) (e : SystemError) : Refusal :=
  { message := name ++ ": ".toList ++ openFault e "not found".toList
    status :=
      match e with
      | .noEntry | .notDirectory | .tooManyLevels | .nameTooLong => 127
      | _ => 126 }

/-- The interpreter that the file at a path names. -/
def interpreterAt? (st : State) (path : Text) : Option Text :=
  match st.files.lookUp path with
  | .ok (_, .file content _) => (Host.interpreterOf? content).map Prod.fst
  | _ => none

/-- The refusal of the program at a path by the interpreter that has more to offer. -/
def placedRefusal (st : State) (path : Text) (e : SystemError) : Refusal :=
  let refusal (what : Text) (status : Nat) : Refusal :=
    { message := path ++ ": ".toList ++ what, status }
  match st.files.lookUp path, e with
  | .ok (_, .directory), _ => refusal "Is a directory".toList 126
  | .ok _, .noEntry | .ok _, .notDirectory =>
    refusal "cannot execute: required file not found".toList 127
  | .ok (_, .file _ true), .accessDenied =>
    match interpreterAt? st path with
    | some interpreter =>
      refusal (interpreter ++ ": bad interpreter: Permission denied".toList) 126
    | none => refusal "Permission denied".toList 126
  | _, .noEntry => refusal "No such file or directory".toList 127
  | _, e => refusal e.describe.toList 126

/-- The refusal of the program of a name. -/
def refusalOf (st : State) (name : Text) (e : SystemError) : Refusal :=
  match st.dialect with
  | .plain => plainRefusal name e
  | .bash =>
    if Host.Path.hasPlace name then placedRefusal st name e
    else
      match programPath? st name <|> pathWhere? st Node.isFile (candidates st name) with
      | some path => placedRefusal st path e
      | none => { message := name ++ ": command not found".toList, status := 127 }

/-! ## Running -/

/-- The state after a program that was run has ended. -/
def absorb (st : State) (o : Outcome) : State :=
  let st := st.readUpTo 0 o.rest
  let st := { st with files := { o.files with here := st.files.here }, status := o.code }
  o.written.foldl (fun st w =>
    match w.1 with
    | .output => st.write 1 w.2
    | .errors => st.write 2 w.2) st

/-- The interpreter of scripts that name none. -/
def standardInterpreter : Dialect → Text
  | .plain => "/bin/sh".toList
  | .bash => "/bin/bash".toList

/-- Starts a program.  A file that holds no program is read as a script. -/
def State.startProgram (launch : Launch) (name : Text) (args : List Text) (st : State) :
    Except SystemError Outcome :=
  let attempt (program : Text) (args : List Text) : Except SystemError Outcome :=
    launch { program, args, env := st.environment, input := st.input } st.files
  match attempt name args with
  | .error .notExecutable =>
    attempt (standardInterpreter st.dialect) ((programPath? st name).getD name :: args)
  | result => result

/-- Runs a program. -/
def runProgram (launch : Launch) (line : Nat) (name : Text) (args : List Text) (st : State) :
    State :=
  let st := { st with known := name :: st.known }
  match st.startProgram launch name args with
  | .ok outcome => absorb st outcome
  | .error e =>
    let refusal := refusalOf st name e
    (st.complain line refusal.message).withStatus refusal.status

/-- Runs a program in the place of the script. -/
def runInstead (launch : Launch) (line : Nat) (name : Text) (args : List Text) (st : State) :
    State :=
  match st.startProgram launch name args, st.dialect with
  | .ok outcome, _ =>
    let st := absorb { st with farewell := none } outcome
    st.finish st.status
  | .error e, .plain =>
    let refusal := plainRefusal name e
    (st.complain line ("exec: ".toList ++ refusal.message)).finish refusal.status
  | .error e, .bash =>
    let path := if Host.Path.hasPlace name then some name else programPath? st name
    match path with
    | none => (st.complain line ("exec: ".toList ++ name ++ ": not found".toList)).finish 127
    | some path =>
      let whole := Host.Path.join st.directory (logicalName path)
      let refusal := placedRefusal st whole e
      let said := st.complain line refusal.message
      let said :=
        if refusal.status = 126 then
          said.complain line ("exec: ".toList ++ whole ++ ": cannot execute: ".toList ++
            (refusal.message.drop (whole.length + 2)))
        else said
      said.finish refusal.status
where
  /-- A path without a `.` in front. -/
  logicalName (path : Text) : Text :=
    (Text.after? "./".toList path).getD path

/-! ## What a name stands for -/

/-- What the command of a name is. -/
inductive NameKind where
  /-- A word of the language. -/
  | keyword
  /-- A command that was given the name. -/
  | function
  /-- A builtin command. -/
  | builtin
  /-- The program at a path. -/
  | program (path : Text)
  deriving DecidableEq, Repr

/-- What a name stands for. -/
def kindOf? (st : State) (name : Text) : Option NameKind :=
  if reservedWords.contains name || st.dialect.isBash && bashWords.contains name then
    some .keyword
  else if st.commands.any fun c => c.1 == name then some .function
  else if (builtin? st.dialect name).isSome || isEvaluated st.dialect name then some .builtin
  else if Host.Path.hasPlace name && !st.dialect.isBash then
    if st.files.contains name then some (.program name) else none
  else (programPath? st name).map NameKind.program
where
  /-- Whether the evaluation itself takes care of the command of a name. -/
  isEvaluated (d : Dialect) (name : Text) : Bool :=
    ["eval", "exec", ".", "command", "type"].any (fun n => name == n.toList) ||
      d.isBash && ["source", "builtin"].any fun n => name == n.toList

/-- What a name stands for, in a sentence. -/
def sentenceOf (st : State) (name : Text) (kind : NameKind) : Text :=
  let be (what : Text) : Text := name ++ " is ".toList ++ what
  match st.dialect, kind with
  | _, .keyword => be "a shell keyword".toList
  | .plain, .function => be "a shell function".toList
  | .bash, .function => be "a function".toList
  | .plain, .builtin =>
    be (if isSpecialBuiltin name then "a special shell builtin" else "a shell builtin").toList
  | .bash, .builtin => be "a shell builtin".toList
  | .plain, .program path =>
    let isKnown := st.known.contains name && !Host.Path.hasPlace name
    be (if isKnown then "a tracked alias for ".toList ++ path else path)
  | .bash, .program path =>
    let isKnown := st.known.contains name && !Host.Path.hasPlace name
    be (if isKnown then "hashed (".toList ++ path ++ [')'] else path)

/-- How names are described. -/
inductive Describing where
  /-- In sentences. -/
  | sentences
  /-- By the words to run them with. -/
  | words
  /-- By their kinds. -/
  | kinds
  /-- By the paths of programs. -/
  | paths
  deriving DecidableEq, Repr

/-- A name that stands for something, described. -/
def describe (how : Describing) (st : State) (name : Text) (kind : NameKind) : Text :=
  match how, kind with
  | .sentences, kind => sentenceOf st name kind ++ ['\n']
  | .words, .program path | .paths, .program path => path ++ ['\n']
  | .words, _ => name ++ ['\n']
  | .paths, _ => []
  | .kinds, .keyword => "keyword\n".toList
  | .kinds, .function => "function\n".toList
  | .kinds, .builtin => "builtin\n".toList
  | .kinds, .program _ => "file\n".toList

/-- Tells what names stand for.  In the end, `missed` says whether one of them stands for nothing,
and `met` whether one of them stands for something. -/
def describeNames (how : Describing) (line : Nat) (speaker : Text) : (missed met : Bool) →
    List Text → State → (Bool × Bool) × State
  | missed, met, [], st => ((missed, met), st)
  | missed, met, name :: names, st =>
    match kindOf? st name with
    | some kind =>
      let st := st.printText line (describe how st name kind)
      let st := if st.dialect.isBash then st else { st with known := name :: st.known }
      describeNames how line speaker missed true names st
    | none =>
      let st :=
        match how, st.dialect with
        | .sentences, .plain => st.printText line (name ++ ": not found\n".toList)
        | .sentences, .bash =>
          st.complain line (speaker ++ ": ".toList ++ name ++ ": not found".toList)
        | _, _ => st
      describeNames how line speaker true met names st

/-- Tells what names stand for, in sentences unless flags say otherwise. -/
def runType (line : Nat) (args : List Text) (st : State) : State :=
  let (letters, names) := if st.dialect.isBash then takeFlags args else ([], args)
  let how : Describing :=
    if letters.contains 't' then .kinds
    else if letters.contains 'p' || letters.contains 'P' then .paths
    else .sentences
  let ((missed, _), st) := describeNames how line "type".toList false false names st
  st.withStatus (if !missed then 0 else if st.dialect.isBash then 1 else 127)

/-- Tells what names stand for, as the command that keeps names from having other meanings does: in
sentences or not. -/
def runDescribe (sentences : Bool) (line : Nat) (args : List Text) (st : State) : State :=
  let names := if st.dialect.isBash then args else args.take 1
  let how : Describing := if sentences then .sentences else .words
  let ((missed, met), st) := describeNames how line "command".toList false false names st
  match st.dialect with
  | .plain => st.withStatus (if missed then 127 else 0)
  | .bash => st.withStatus (if met then 0 else 1)

end Hotkeys.Shell
