import Hotkeys.Host.Environment
import Hotkeys.Host.Files

/-!
# Processes

What a program is started with and what is left when it has ended, and how the program of a name
is found: by its place or along the search list, through the interpreter line of a script.
-/

set_option autoImplicit false

namespace Hotkeys.Host

/-- What a program is started with. -/
structure Process where
  /-- The program, by its place or by a name to search for. -/
  program : Text
  /-- Its arguments. -/
  args : List Text
  /-- Its environment. -/
  env : Environment
  /-- What it can read. -/
  input : Bytes
  deriving DecidableEq, Repr

/-- A stream that a program writes to. -/
inductive Stream where
  /-- What it has to say. -/
  | output
  /-- What it has to complain about. -/
  | errors
  deriving DecidableEq, Repr

/-- What is left when a program has ended. -/
structure Outcome where
  /-- Its code; zero means success. -/
  code : Nat
  /-- What it wrote, in order. -/
  written : List (Stream × Bytes)
  /-- What it did not read. -/
  rest : Bytes
  /-- The files as it left them. -/
  files : Files
  deriving DecidableEq, Repr

namespace Outcome

/-- What a program wrote to a stream. -/
def writtenTo (o : Outcome) (s : Stream) : Bytes :=
  o.written.flatMap fun w => if w.1 = s then w.2 else []

/-- What a program wrote. -/
def output (o : Outcome) : Bytes :=
  o.writtenTo .output

/-- What a program wrote to its error stream. -/
def errors (o : Outcome) : Bytes :=
  o.writtenTo .errors

end Outcome

/-- Starts a program and waits for its end. -/
abbrev Launch := Process → Files → Except SystemError Outcome

/-! ## Finding a program -/

/-- A program that can be run as it is. -/
structure Plan where
  /-- The program. -/
  tool : Tool
  /-- The name it is started by. -/
  name : Text
  /-- Its arguments. -/
  args : List Text
  deriving DecidableEq, Repr

/-- How much of a script is looked at to find its interpreter, in bytes. -/
def headSize : Nat := 256

/-- Whether a byte separates the words of an interpreter line. -/
def isLineBlank (b : UInt8) : Bool :=
  b == 32 || b == 9

/-- Bytes without the blanks at their end. -/
def trimLine (line : Bytes) : Bytes :=
  (line.reverse.dropWhile isLineBlank).reverse

/-- The interpreter that the beginning of a script names, and the one argument behind it.  A name
that may go on where the beginning ends counts for nothing; an argument is cut there. -/
def interpreterOf? (content : Bytes) : Option (Text × List Text) :=
  match content.take headSize with
  | 35 :: 33 :: start =>
    let line := start.takeWhile (· != 10)
    let isCut := line.length + 2 = headSize
    let named := line.dropWhile isLineBlank
    let name := named.takeWhile fun b => !(isLineBlank b || b == 0)
    let kept := if isCut then line.dropLast else line
    let kept := if start.contains 10 || isCut then trimLine kept else kept
    let behind := ((kept.dropWhile isLineBlank).drop name.length).takeWhile (· != 0)
    let argument := behind.dropWhile isLineBlank
    if name.isEmpty || isCut && name.length = named.length then none
    else
      some (Text.Utf8.decodeLossy name,
        if argument.isEmpty then [] else [Text.Utf8.decodeLossy argument])
  | _ => none

/-- How often a script may lead to another file. -/
def scriptDepth : Nat := 5

/-- What at a path can be run. -/
def programAt (files : Files) (path : Text) : Except SystemError Node := do
  match (← files.lookUp path).2 with
  | .tool tool => return .tool tool
  | .file content true => return .file content true
  | _ => .error .accessDenied

/-- How a program is run under a name that was found at a path: itself, or by the interpreter that
it names.  `depth` says how often a script may still lead to another file. -/
def planIn (files : Files) (name : Text) :
    (depth : Nat) → (path : Text) → List Text → Node → Except SystemError Plan
  | _, _, args, .tool tool => .ok { tool, name, args }
  | depth, path, args, .file content _ => do
    match interpreterOf? content with
    | none => .error .notExecutable
    | some (interpreter, given) =>
      let next ← programAt files interpreter
      match depth with
      | 0 => .error .tooManyLevels
      | depth + 1 => planIn files interpreter depth interpreter (given ++ path :: args) next
  | _, _, _, _ => .error .accessDenied

/-- How the program at a path is run under a name. -/
def planAt (files : Files) (path name : Text) (args : List Text) : Except SystemError Plan := do
  planIn files name scriptDepth path args (← programAt files path)

/-- How the first of some paths that can be run is run.  A path where there is nothing is passed
over; so is one that may not be run, but then that is what is said in the end. -/
def planFirst (files : Files) (name : Text) (args : List Text) (refused : SystemError) :
    List Text → Except SystemError Plan
  | [] => .error refused
  | path :: paths =>
    match planAt files path name args with
    | .ok plan => .ok plan
    | .error .noEntry | .error .notDirectory => planFirst files name args refused paths
    | .error .accessDenied => planFirst files name args .accessDenied paths
    | .error e => .error e

/-- The search list of an environment that has none. -/
def standardSearch : Text :=
  "/bin:/usr/bin".toList

/-- How a process is run. -/
def plan (files : Files) (p : Process) : Except SystemError Plan :=
  if (p.program :: p.args).any fun t => t.contains '\x00' then .error .nulInArgument
  else if p.program = [] then .error .noEntry
  else if Path.hasPlace p.program then planAt files p.program p.program p.args
  else
    let directories := Path.searchList ((p.env.get? "PATH").getD standardSearch)
    planFirst files p.program p.args .noEntry
      (directories.map fun directory => Path.join directory p.program)

end Hotkeys.Host
