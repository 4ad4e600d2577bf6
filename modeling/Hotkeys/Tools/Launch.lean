import Hotkeys.Shell.Invocation
import Hotkeys.Tools.Lines
import Hotkeys.Tools.Finding
import Hotkeys.Tools.Values

/-!
# Launching

How a program is started by its name: it is looked for, and what is found is one of the tools, or a
script that one of them reads.
-/

set_option autoImplicit false

namespace Hotkeys.Tools

open Hotkeys.Host (Bytes Environment Files Launch Outcome Plan Tool)

/-- What a tool does, if it is not an interpreter of commands. -/
def bodyOf (launch : Launch) : Tool → Body
  | .env => env launch
  | .printenv => printenv
  | .timeout => timeout launch
  | .nice => nice launch
  | .nohup => nohup launch
  | .setsid => setsid launch
  | .xargs => xargs launch
  | .cat => cat
  | .tac => tac
  | .tee => tee
  | .head => head
  | .tail => tail
  | .rev => rev
  | .nl => nl
  | .wc => wc
  | .sort => sort
  | .uniq => uniq
  | .cut => cut
  | .paste => paste
  | .tr => tr
  | .sed => sed
  | .grep => grep
  | .egrep => egrep
  | .fgrep => fgrep
  | .cmp => cmp
  | .find => find launch
  | .ls => ls
  | .cp => cp
  | .mv => mv
  | .ln => ln
  | .rm => rm
  | .mkdir => mkdir
  | .rmdir => rmdir
  | .mktemp => mktemp
  | .touch => touch
  | .truncate => truncate
  | .chmod => chmod
  | .basename => basename
  | .dirname => dirname
  | .realpath => realpath
  | .readlink => readlink
  | .which => which
  | .pwd => pwd
  | .seq => seq
  | .expr => expr
  | .echo => echo
  | .printf => printf
  | .yes => yes
  | .whoami => constant "root"
  | .id => id
  | .test => test
  | .bracket => bracket
  | .true => fun _ w => w
  | .false => fun _ w => w.withCode 1
  | .sleep => sleep
  | .shell | .bash => fun _ w => w

/-- Runs a tool as a plan says. -/
def runTool (launch : Launch) (plan : Plan) (env : Environment) (input : Bytes)
    (files : Files) : Outcome :=
  let interpret (dialect : Shell.Dialect) : Outcome :=
    let start : Shell.Start := { dialect, name := plan.name, env, input, files }
    start.run launch plan.args
  match plan.tool with
  | .shell => interpret .plain
  | .bash => interpret .bash
  | tool =>
    let work : Work := { name := plan.name, env, rest := input, files, written := [], code := 0 }
    (bodyOf launch tool plan.args work).outcome

/-- How deep programs may start programs. -/
def launchDepth : Nat := 64

/-- Starts a program, which may start programs in turn until `depth` is used up. -/
def launchIn : (depth : Nat) → Launch
  | 0, _, _ => .error .accessDenied
  | depth + 1, p, files => do
    let plan ← Host.plan files p
    return runTool (launchIn depth) plan p.env p.input files

/-- Starts a program. -/
def launch : Launch :=
  launchIn launchDepth

end Hotkeys.Tools
