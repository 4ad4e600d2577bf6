import Hotkeys.Shell.Programs

/-!
# Commands by name

What a field in the first place of a command stands for: a command that was given the name, a
builtin command, a script in an argument or a file, or a program.
-/

set_option autoImplicit false

namespace Hotkeys.Shell

open Hotkeys.Host (Launch Node)

/-! ## Calls -/

/-- How many calls there may be inside of each other. -/
def deepestCall : Nat := 1000

/-- Runs a command that was given a name.  The arguments of the script are those of the call
meanwhile, and values that it hid come back. -/
def callCommand (run : Run) (tested : Bool) (line : Nat) (body : Command) (args : List Text)
    (st : State) : State :=
  if deepestCall ≤ st.calls then
    st.fail line ("Maximum function recursion depth (".toList ++ Text.ofNat deepestCall ++
      ") reached".toList)
  else
    let after := run tested body
      { st with
        params := args, loops := 0, calls := st.calls + 1, hidden := []
        origin := if st.dialect.isBash then st.innerOrigin else st.origin }
    { after with
      values := after.hidden.foldl (fun (values : Values) old =>
        match old.2 with
        | some value => values.set old.1 value
        | none => values.erase old.1) after.values
      params := st.params
      loops := st.loops
      calls := st.calls
      hidden := st.hidden
      origin := st.origin
      flow := if after.flow = .returning then .onward else after.flow }

/-! ## Scripts in arguments and files -/

/-- Runs arguments as a script. -/
def runArguments (run : Run) (tested : Bool) (line : Nat) (args : List Text) (st : State) :
    State :=
  let args :=
    match st.dialect, args with
    | .bash, ['-', '-'] :: rest => rest
    | _, args => args
  let src : ScriptSource :=
    match st.dialect with
    | .plain => ScriptSource.inside 1
    | .bash => { label := "eval: ".toList, first := line, visible := true, isWhole := false }
  let work (st : State) : State :=
    let after := runText (run tested) src (Text.join [' '] args) { st with level := st.level + 1 }
    { after with level := st.level, reached := st.reached }
  match st.dialect with
  | .plain => speakingAs "eval".toList work st
  | .bash => work st

/-- The path of a file that is to be run as a script. -/
def scriptPath? (st : State) (name : Text) : Option Text :=
  if Host.Path.hasPlace name then some name
  else
    pathWhere? st Node.isFile (candidates st name) <|>
      if st.dialect.isBash && st.files.contains name then some name else none

/-- Runs the script in a file. -/
def runFile (run : Run) (tested grave : Bool) (line : Nat) (word name : Text) (args : List Text)
    (st : State) : State :=
  let refuse (st : State) (message : Text) : State := st.refuse grave line message
  match st.dialect with
  | .plain =>
    speakingAs word (fun st =>
      match scriptPath? st name with
      | none => refuse st (name ++ ": not found".toList)
      | some path =>
        match st.files.read path with
        | .error e =>
          refuse st
            ("cannot open ".toList ++ path ++ ": ".toList ++ openFault e "No such file".toList)
        | .ok content =>
          let src := { ScriptSource.inside 1 with visible := true }
          let after := runText (run tested) src (scriptText content) st
          { after with
            reached := st.reached
            flow := if after.flow = .returning then .onward else after.flow }) st
  | .bash =>
    match scriptPath? st name with
    | none => (st.complain line (name ++ ": No such file or directory".toList)).withStatus 1
    | some path =>
      match st.files.read path with
      | .error .isDirectory =>
        let message := word ++ ": ".toList ++ path ++ ": is a directory".toList
        (st.complain line message).withStatus 1
      | .error e =>
        (st.complain line (path ++ ": ".toList ++ e.describe.toList)).withStatus 1
      | .ok content =>
        let src := { ScriptSource.inside 1 with visible := true }
        let after := runText (run tested) src (scriptText content)
          { st with
            origin := path, sourcing := true, level := st.level + 1
            params := if args.isEmpty then st.params else args }
        { after with
          origin := st.origin, sourcing := st.sourcing, level := st.level
          reached := st.reached
          params := if args.isEmpty then after.params else st.params
          flow := if after.flow = .returning then .onward else after.flow }

/-! ## Names -/

/-- The fields behind the word that keeps names from having other meanings, and whether it is
there. -/
def stripCommandWord : (bare : Bool) → List Text → Bool × List Text
  | bare, [] => (bare, [])
  | bare, field :: fields =>
    if field = "command".toList || bare && (field = "-p".toList || field = "--".toList) then
      stripCommandWord true fields
    else (bare, field :: fields)

/-- The command that a name was given to.  In the standard interpreter, builtin commands that are
special come first. -/
def givenCommand? (st : State) (bare : Bool) (name : Text) : Option Command :=
  if bare || !st.dialect.isBash && isSpecialBuiltin name then none
  else (st.commands.find? fun c => c.1 == name).map Prod.snd

/-- Runs the command of some fields that is part of the interpreter, or a program.  One that is
`bare` does not end the script when it fails. -/
def runBare (launch : Launch) (run : Run) (tested bare : Bool) (line : Nat) (name : Text)
    (args : List Text) (st : State) : State :=
  match String.ofList name, args, st.dialect with
  | "eval", args, _ => runArguments run tested line args st
  | ".", file :: rest, _ | "source", file :: rest, .bash =>
    runFile run tested (!bare) line name file rest st
  | ".", [], .bash | "source", [], .bash =>
    let said := st.complain line (name ++ ": filename argument required".toList)
    (said.say (usageOf name).toList).withStatus 2
  | "type", args, _ => runType line args st
  | "exec", program :: args, _ => runInstead launch line program args st
  | "exec", [], _ => st.withStatus 0
  | _, args, _ =>
    if bare && name = "-v".toList then runDescribe false line args st
    else if bare && name = "-V".toList then runDescribe true line args st
    else
      match builtin? st.dialect name with
      | some command => runBuiltin (isSpecialBuiltin name && !bare) name command line args st
      | none => runProgram launch line name args st

/-- Runs the command of some fields. -/
def runNamed (launch : Launch) (run : Run) (tested : Bool) (line : Nat) (fields : List Text)
    (st : State) : State :=
  match stripCommandWord false fields with
  | (_, []) => st.withStatus 0
  | (bare, name :: args) =>
    match givenCommand? st bare name with
    | some body => callCommand run tested line body args st
    | none =>
      match st.dialect.isBash && name = "builtin".toList, args with
      | true, name :: args =>
        match builtin? .bash name with
        | some _ => runBare launch run tested true line name args st
        | none =>
          let message := "builtin: ".toList ++ name ++ ": not a shell builtin".toList
          (st.complain line message).withStatus 1
      | _, _ => runBare launch run tested bare line name args st

end Hotkeys.Shell
