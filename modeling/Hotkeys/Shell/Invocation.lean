import Hotkeys.Shell.Evaluation

/-!
# Invocation

How the command interpreter is started: with a script in its arguments, in a file or in what it
reads.
-/

set_option autoImplicit false

namespace Hotkeys.Shell

open Hotkeys.Host (Bytes Environment Files Launch Outcome SystemError)

/-- What is left when a script has ended. -/
def outcomeOf (st : State) : Outcome :=
  { code := st.status, written := st.written.reverse, rest := st.input, files := st.files }

/-- How the interpreter is used, as it is said of a wrong flag. -/
def startUsage (name : Text) : Text :=
  let line (t : String) : Text := '\n' :: '\t' :: t.toList
  let words := (Flags.longWords.map fun w => line ("--" ++ w.1)).flatten
  "Usage:\t".toList ++ name ++ " [GNU long option] [option] ...\n\t".toList ++ name ++
    " [GNU long option] [option] script-file ...\nGNU long options:".toList ++ words ++
    "\nShell options:".toList ++
    line "-ilrsD or -c command or -O shopt_option\t\t(invocation only)" ++
    line "-abefhkmnptuvxBCEHPT or -o option"

/-- A start of the interpreter. -/
structure Start where
  /-- The dialect. -/
  dialect : Dialect
  /-- The name that the interpreter is started by. -/
  name : Text
  /-- The environment. -/
  env : Environment
  /-- What can be read. -/
  input : Bytes
  /-- The files. -/
  files : Files

namespace Start

/-- The state in the beginning. -/
def state (s : Start) (settings : Settings) (name : Text) (params : List Text) : State :=
  State.start s.dialect settings name params s.env s.input s.files

/-- The end of a start that cannot go on. -/
def refuse (s : Start) (message : Text) (code : Nat) : Outcome :=
  let st := s.state Settings.none s.name []
  match s.dialect with
  | .plain => outcomeOf (st.fail 0 message)
  | .bash => outcomeOf ((st.say (s.name ++ ": ".toList ++ message)).finish code)

/-- The end of a start with wrong flags. -/
def refuseFlags (s : Start) (fault : FlagFault) : Outcome :=
  let message := fault.message s.dialect
  match s.dialect, fault with
  | .plain, _ => s.refuse message 2
  | .bash, .word _ => s.refuse ("line 0: ".toList ++ s.name ++ ": ".toList ++ message) 2
  | .bash, _ => s.refuse (message ++ '\n' :: startUsage s.name) 2

/-- Runs a script that is an argument. -/
def runArgument (s : Start) (launch : Launch) (f : Flags) : Outcome :=
  match f.rest with
  | [] =>
    match s.dialect with
    | .plain => s.refuse "-c requires an argument".toList 2
    | .bash => s.refuse "-c: option requires an argument".toList 2
  | script :: given =>
    let src : ScriptSource :=
      { label := "-c: ".toList, first := 1, visible := s.dialect.isBash, isWhole := true }
    let st := s.state f.settings (given.headD s.name) (given.drop 1)
    let st :=
      match s.dialect with
      | .plain => st
      | .bash => { st with innerOrigin := "environment".toList, collapse := 127 }
    outcomeOf (runScript launch src script st)

/-- The source of a script that is read. -/
def reading : ScriptSource :=
  { label := [], first := 1, visible := true, isWhole := true }

/-- Runs what can be read as a script. -/
def runRead (s : Start) (launch : Launch) (f : Flags) (name : Text) (params : List Text) :
    Outcome :=
  let st := s.state { f.settings with fromInput := true } name params
  let st := if s.dialect.isBash then { st with innerOrigin := "main".toList } else st
  outcomeOf (runReadScript launch reading st)

/-- The path of a script in a file. -/
def scriptFile (s : Start) (path : Text) : Text :=
  if s.dialect.isBash && !Host.Path.hasPlace path && !s.files.contains path then
    (scriptPath? (s.state Settings.none s.name []) path).getD path
  else path

/-- The end of a start with a file that holds no script. -/
def refuseFile (s : Start) (path : Text) (what : String) : Outcome :=
  { s with name := path }.refuse (path ++ ": ".toList ++ what.toList) 126

/-- Runs the script in a file. -/
def runFileAt (s : Start) (launch : Launch) (f : Flags) (path : Text) (params : List Text) :
    Outcome :=
  let path := s.scriptFile path
  if s.files.streamAt? path = some 0 then
    let st := s.state f.settings path params
    outcomeOf (runReadScript launch reading st)
  else
    match s.dialect, s.files.lookUp path with
    | .bash, .ok (_, .directory) => s.refuseFile path "Is a directory"
    | .bash, .ok (_, .tool _) => s.refuseFile path "cannot execute binary file"
    | _, _ =>
      match s.files.read path, s.dialect with
      | .ok content, _ =>
        outcomeOf (runScript launch reading (scriptText content) (s.state f.settings path params))
      | .error .isDirectory, _ =>
        outcomeOf (runScript launch reading [] (s.state f.settings path params))
      | .error e, .plain =>
        let reason := openFault e "No such file".toList
        s.refuse ("cannot open ".toList ++ path ++ ": ".toList ++ reason) 2
      | .error e, .bash => s.refuse (path ++ ": ".toList ++ e.describe.toList) 127

/-- Runs the interpreter with arguments. -/
def run (s : Start) (launch : Launch) (args : List Text) : Outcome :=
  match Flags.ofStart s.dialect args with
  | .error fault => s.refuseFlags fault
  | .ok f =>
    if f.telling then outcomeOf (s.state Settings.none s.name [])
    else if f.inArgument then s.runArgument launch f
    else
      match f.rest with
      | [] => s.runRead launch f s.name []
      | path :: params =>
        if f.inInput then s.runRead launch f s.name (path :: params)
        else s.runFileAt launch f path params

end Start

end Hotkeys.Shell
