import Hotkeys.Config.Outline

/-!
# Configurations

A configuration in force: the interpreter, the preamble of its commands, and the bindings, unique
by chord text.
-/

set_option autoImplicit false

namespace Hotkeys.Config

/-- What becomes of a binding that cannot be expanded. -/
inductive Policy where
  /-- The whole configuration fails. -/
  | fatal
  /-- The binding is reported and left out. -/
  | skip
  deriving DecidableEq, Repr

/-- A configuration in force. -/
structure Configuration where
  /-- The program that runs the commands. -/
  interpreter : Interpreter
  /-- The preamble of every command. -/
  globals : Text
  /-- The bindings in order, the first of each chord text. -/
  bindings : List Binding
  deriving DecidableEq, Repr

/-- What the interpreter reads to run `command`: the preamble, if there is one, and the command. -/
def Configuration.script (c : Configuration) (command : Text) : Text :=
  if c.globals = [] then command else c.globals ++ '\n' :: command

/-- The error of a pair that cannot be expanded. -/
def expansionFault (p : Pair) (e : ExpansionError) : Error :=
  Error.ofFault (.expand p.line p.binding e)

/-- The report that a pair was left out. -/
def skipping (p : Pair) (e : ExpansionError) : LogRecord :=
  { level := .warn
    message := (expansionFault p e).message
    fields := [("line".toList, Text.ofNat p.line)] }

/-- The pairs that the pairs of an outline stand for, in order.  Under `fatal` the first pair that
cannot be expanded ends the list with an error; under `skip` it is reported and contributes
nothing. -/
def expandAll (policy : Policy) : List Pair → Except Error (List Pair) × Log
  | [] => (.ok [], [])
  | p :: ps =>
    match expand p, policy with
    | .error e, .fatal => (.error (expansionFault p e), [])
    | .error e, .skip =>
      let rest := expandAll policy ps
      (rest.1, skipping p e :: rest.2)
    | .ok expanded, _ =>
      let rest := expandAll policy ps
      (rest.1.map (expanded ++ ·), rest.2)

/-- The configuration of an outline whose pairs are expanded: the first binding of each chord text,
of which there has to be one. -/
def Configuration.ofPairs (o : Outline) (expanded : List Pair) : Except Error Configuration :=
  let bindings := firsts Binding.normalized (expanded.map Binding.ofPair)
  if bindings = [] then .error (Error.ofFault .empty)
  else .ok { interpreter := o.interpreter, globals := o.globals, bindings }

/-- The configuration of a text and what was reported on the way. -/
def compile (policy : Policy) (source : Text) : Except Error Configuration × Log :=
  match outline source with
  | (.error e, log) => (.error e, log)
  | (.ok o, log) =>
    let expanded := expandAll policy o.pairs
    (expanded.1.bind (Configuration.ofPairs o), log ++ expanded.2)

end Hotkeys.Config
