import Hotkeys.Config.Configuration
import Hotkeys.Host.Process

/-!
# Jobs

What a binding runs, and how a run can fail.  What an interpreter does with a script is not part of
this: a job is run by whatever starts processes.
-/

set_option autoImplicit false

namespace Hotkeys.Engine

open Hotkeys.Config (Configuration Interpreter)
open Hotkeys.Host (Environment Files SystemError)

/-- A script and the interpreter that reads it. -/
structure Job where
  /-- The interpreter. -/
  interpreter : Interpreter
  /-- What it reads. -/
  script : Text
  deriving DecidableEq, Repr

/-- The job of a command under a configuration. -/
def jobOf (c : Configuration) (command : Text) : Job :=
  { interpreter := c.interpreter, script := c.script command }

/-- Why a command did not succeed. -/
inductive CommandError where
  /-- Its interpreter could not be started. -/
  | spawn (program : Text) (reason : SystemError)
  /-- It ended with a code other than zero and wrote this to its error stream. -/
  | exit (code : Nat) (errors : Text)
  deriving DecidableEq, Repr

/-- The error in words: what the command wrote, or its code if that was nothing but blanks. -/
def CommandError.message : CommandError → Text
  | .spawn program reason => "failed to run ".toList ++ program ++ ": ".toList ++ reason.message
  | .exit code errors =>
    if Text.trimEnd errors = [] then "exit status: ".toList ++ Text.ofNat code
    else Text.trimEnd errors

/-- What an interpreter wrote to its error stream, without its own name in front. -/
def withoutProgram (program errors : Text) : Text :=
  ((Text.after? program errors).bind (Text.after? ": ".toList)).getD errors

/-- How a started job ended: an error unless the code is zero. -/
def Job.failure? (job : Job) (code : Nat) (errors : Text) : Option CommandError :=
  if code = 0 then none
  else some (.exit code (withoutProgram job.interpreter.program errors))

/-- What is started for a job: its interpreter, with the script to read. -/
def Job.process (job : Job) (env : Environment) : Host.Process :=
  { program := job.interpreter.program
    args := job.interpreter.args
    env
    input := Text.Utf8.encode job.script }

/-- Runs a job to its end by what starts processes: how it failed, if it did, and the files as it
left them.  What it prints is nobody's concern; its code and its error stream tell how it ended. -/
def Job.runBy (launch : Host.Launch) (job : Job) (env : Environment) (files : Files) :
    Option CommandError × Files :=
  match launch (job.process env) files with
  | .error e => (some (.spawn job.interpreter.program e), files)
  | .ok outcome =>
    (job.failure? outcome.code (Text.Utf8.decodeLossy outcome.errors), outcome.files)

end Hotkeys.Engine
