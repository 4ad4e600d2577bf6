import Hotkeys.Shell.Simple
import Hotkeys.Shell.Trying

/-!
# Evaluation

How commands change the state of the script that they are part of.  Programs are run by a `Launch`
that is handed in.  Every part below takes the evaluation of commands as an argument; the knot is
tied by `run`, which counts how far it goes.
-/

set_option autoImplicit false

namespace Hotkeys.Shell

open Hotkeys.Host (Launch)

/-! ## Loops -/

/-- The state behind a turn of a loop, and whether there may be another one. -/
def State.endTurn (st : State) : State × Bool :=
  match st.flow with
  | .onward => (st, true)
  | .leaving 0 again | .leaving 1 again => ({ st with flow := .onward }, again)
  | .leaving (n + 2) again => ({ st with flow := .leaving (n + 1) again }, false)
  | .returning | .skipping | .ended => (st, false)

/-- Runs a body as long as a condition succeeds, or as long as it fails; `status` is that of the
last turn, and `bound` limits the turns. -/
def runLoop (condition body : State → State) (untilSuccess : Bool) :
    (bound status : Nat) → State → State
  | 0, _, st => st.finish 2
  | bound + 1, status, st =>
    let st := condition st
    if st.goesOn then
      if (st.status == 0) == untilSuccess then st.withStatus status
      else
        match (body st).endTurn with
        | (st, true) => runLoop condition body untilSuccess bound st.status st
        | (st, false) => st
    else
      match st.flow, st.endTurn with
      | .leaving .., (ended, goesOn) =>
        if st.dialect.isBash && untilSuccess then ended.withStatus status
        else if goesOn then runLoop condition body untilSuccess bound status ended
        else ended
      | _, (ended, _) => ended

/-- Runs a body with a name for each of some values; `before` comes before every turn. -/
def runEach (before body : State → State) (name : Text) : List Text → State → State
  | [], st => st
  | value :: rest, st =>
    match (body ((before st).set name value)).endTurn with
    | (st, true) => runEach before body name rest st
    | (st, false) => st

/-- Runs something as the inside of a loop. -/
def insideLoop (work : State → State) (st : State) : State :=
  { work { st with loops := st.loops + 1 } with loops := st.loops }

/-! ## Choices -/

/-- Whether a text has the form of one of some patterns. -/
def fitsOne (r : WordReader) (subject : Text) : List Word → Reading Bool
  | [], st => (false, st)
  | w :: ws, st =>
    let (pattern, st) := r.pattern w st
    if !st.goesOn then (false, st)
    else if pattern.fits subject then (true, st)
    else fitsOne r subject ws st

/-- The command of the first branch whose patterns fit. -/
def chooseBranch (r : WordReader) (subject : Text) :
    List (List Word × Command) → Reading (Option Command)
  | [], st => (none, st)
  | (patterns, body) :: rest, st =>
    match fitsOne r subject patterns st with
    | (true, st) => (some body, st)
    | (false, st) => if st.goesOn then chooseBranch r subject rest st else (none, st)

/-! ## Expressions -/

/-- The state after an arithmetic expression, which succeeds unless its value is zero. -/
def reckon (r : WordReader) (expression : Text) (st : State) : State :=
  let shown := "(( ".toList ++ expression ++ " ))".toList
  let (segments, st) := r.inside .quotes expression (traceWords r shown st)
  if !st.goesOn then st
  else
    let source := textOf segments
    match st.worth source with
    | .ok (n, st) => st.withStatus (if n = 0 then 1 else 0)
    | .error fault =>
      let message := fault.message st.dialect source
      if fault.endsScript then st.fail r.line message
      else (st.complain r.line ("((: ".toList ++ message)).withStatus 1

/-- The state after a trial. -/
def tryOut (r : WordReader) (t : Trial) (st : State) : State :=
  let (holds, st) := t.holds r st
  if !st.goesOn then st
  else
    match holds with
    | some holds => st.withStatus (if holds then 0 else 1)
    | none => st.withStatus 2

/-! ## Pipes -/

/-- The state in which the commands in a part that runs apart begin.  Where there is more to offer,
they are not inside of the loops around it. -/
def State.unlooped (st : State) : State :=
  if st.dialect.isBash then { st with loops := 0 } else st

/-- Runs a command that runs apart without parentheses of its own.  A simple one stays inside of the
loops around it. -/
def runAlone (run : Run) (tested : Bool) (c : Command) (st : State) : State :=
  match c with
  | .simple _ => run tested c st
  | _ => run tested c st.unlooped

/-- Runs two commands, the second of which reads what the first writes.  It fails as the second
one does, or as the first one does if only that fails and pipes are to fail so. -/
def runPipe (run : Run) (left right : State → State) (st : State) : State :=
  let (number, inner) := st.opened (.kept [])
  let after := runApart run left (inner.connect 1 (some number))
  let first := after.status
  let content := after.keptOf number
  let back := State.reconnect st { after with status := st.status } [1]
  let inner := back.connectNew 0 (.source content)
  let after := runApart run right inner
  let status := if after.status = 0 && st.settings.piping then first else after.status
  State.reconnect st { after with status } [0]

/-! ## Commands -/

/-- The state after a command, whose failure ends a strict script unless it is tested. -/
def State.checked (tested : Bool) (st : State) : State :=
  if st.settings.strict && !tested && st.status != 0 && st.flow != .ended then
    st.finish st.status
  else st

/-- The words of a loop as they are written. -/
def writtenLoop (name : Text) (items : Option (List Word)) : Text :=
  match items with
  | some words => "for ".toList ++ name ++ " in ".toList ++ Text.join [' '] (words.map writtenWord)
  | none => "for ".toList ++ name ++ " in \"$@\"".toList

/-- Runs a command.  `budget` limits how deep commands stand inside of commands, and how often
loops turn. -/
def run (launch : Launch) : (budget : Nat) → Run
  | 0, _, _, st => st.finish 2
  | budget + 1, tested, command, st =>
    let again : Run := run launch budget
    match command with
    | .nothing => st
    | .simple c => (runSimple launch again tested c st).checked tested
    | .sequence first second =>
      let st := again tested first st
      if st.goesOn then again tested second st else st
    | .background c =>
      let after := runApart again (runAlone again false c) (st.connectNew 0 (.source []))
      State.reconnect st { after with status := 0, background := some after.status } [0]
    | .both first second =>
      let st := again true first st
      if st.goesOn && st.status == 0 then again tested second st else st
    | .either first second =>
      let st := again true first st
      if st.goesOn && st.status != 0 then again tested second st else st
    | .negated c =>
      let st := again true c st
      if st.goesOn then st.withStatus (if st.status = 0 then 1 else 0) else st
    | .pipe first second =>
      (runPipe again (runAlone again tested first) (runAlone again tested second) st).checked tested
    | .apart body =>
      (runApart again (fun st => again tested body st.unlooped) st).checked tested
    | .redirected body line redirects =>
      withStreams (readerAt again line) false redirects (again tested body) st
    | .choice condition yes no =>
      let st := again true condition st
      if !st.goesOn then st
      else if st.status = 0 then again tested yes st
      else
        match no with
        | .nothing => st.withStatus 0
        | no => again tested no st
    | .loop untilSuccess condition body =>
      insideLoop (runLoop (again true condition) (again tested body) untilSuccess budget 0) st
    | .each name items line body =>
      let r := readerAt again line
      let (values, st) :=
        match items with
        | none => (st.params, st)
        | some words => r.fields words st
      if !st.goesOn then st
      else if values.isEmpty then st.withStatus 0
      else
        insideLoop (runEach (traceWords r (writtenLoop name items)) (again tested body) name values)
          st
    | .cases subject line branches =>
      let r := readerAt again line
      let st := traceWords r ("case ".toList ++ writtenWord subject ++ " in".toList) st
      let (text, st) := r.text subject st
      if !st.goesOn then st
      else
        match chooseBranch r text branches st with
        | (some .nothing, st) | (none, st) => if st.goesOn then st.withStatus 0 else st
        | (some body, st) => again tested body st
    | .define name body =>
      { st with
        status := 0
        commands := (name, body) :: st.commands.filter fun c => c.1 != name }
    | .reckon line expression => (reckon (readerAt again line) expression st).checked tested
    | .trial line t => (tryOut (readerAt again line) t st).checked tested
    | .steps line before condition behind body =>
      let r := readerAt again line
      let step (expression : Text) (st : State) : State :=
        if expression.all fun c => c == ' ' then st.withStatus 0
        else reckon r expression st
      let turn (st : State) : State :=
        let st := again tested body st
        match st.flow with
        | .onward => step behind st
        | .leaving 0 true | .leaving 1 true =>
          { step behind { st with flow := .onward } with flow := st.flow }
        | _ => st
      let st := step before st
      if st.goesOn then insideLoop (runLoop (step condition) turn false budget 0) st else st

/-- How far an evaluation goes. -/
def evaluationBudget : Nat := 1000000

/-- Runs a script to its end. -/
def runScript (launch : Launch) (src : ScriptSource) (script : Text) (st : State) : State :=
  let again := run launch evaluationBudget
  (runText (again false) src script st).depart again

/-- Runs what can be read to its end, as a script. -/
def runReadScript (launch : Launch) (src : ScriptSource) (st : State) : State :=
  let again := run launch evaluationBudget
  (runInput (again false) src evaluationBudget st).depart again

end Hotkeys.Shell
