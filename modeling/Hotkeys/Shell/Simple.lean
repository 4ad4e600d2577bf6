import Hotkeys.Shell.Assignment
import Hotkeys.Shell.Calls

/-!
# Simple commands

How a command without parts is run: its words become fields, its streams are redirected, its names
get their values, and then its first field tells what is run.
-/

set_option autoImplicit false

namespace Hotkeys.Shell

open Hotkeys.Host (Launch)

/-- The fields of the words of a command.  Arguments of a command that takes settings are not cut
where they are such. -/
def commandFields (r : WordReader) (words : List Word) : Reading (List Text) := fun st =>
  match words with
  | [.literal false name] :: args =>
    if takesSettings st.dialect name then
      args.foldl (fun (read : List Text × State) w =>
        let (fields, st) := read
        if (setting? st.dialect w).isSome then
          let (t, st) := r.text w st
          (fields ++ [t], st)
        else
          let (more, st) := r.fields [w] st
          (fields ++ more, st)) ([name], st)
    else r.fields words st
  | _ => r.fields words st

/-- Gives names their values and runs the command of some fields.  Commands are shown on a
channel. -/
def runFields (launch : Launch) (run : Run) (tested : Bool) (c : Simple) (channel : Option Nat)
    (fields : List Text) (st : State) : State :=
  let r := readerAt run c.line
  let (given, assigned) := assignAll r channel fields.isEmpty c.settings st
  let shown := given.map fun g => g.name ++ '=' :: g.value
  let assigned :=
    traceFields r channel fields (tracePlain r channel shown fields assigned)
  let names := given.map Given.name
  let handing := { assigned with exported := names ++ assigned.exported }
  if !assigned.goesOn then assigned
  else
    match fields with
    | [] => assigned.withStatus assigned.answer
    | name :: _ =>
      if name = "exec".toList then runNamed launch run tested c.line fields handing
      else if isSpecialBuiltin name && !st.dialect.isBash then
        runNamed launch run tested c.line fields assigned
      else
        let keeps := st.dialect.isBash && (name = "export".toList || name = "readonly".toList)
        restoreValues st (runNamed launch run tested c.line fields handing)
          (if keeps then names.filter fun n => !fields.contains n else names)

/-- Runs a simple command. -/
def runSimple (launch : Launch) (run : Run) (tested : Bool) (c : Simple) (st : State) : State :=
  let r := readerAt run c.line
  let (fields, st) := commandFields r c.words { st with answer := 0 }
  if !st.goesOn then st
  else
    let channel := st.channelOf? 2
    if fields = ["exec".toList] then
      match redirectAll r c.redirects st with
      | (.ok (), st) => runFields launch run tested c channel fields st
      | (.error fault, st) => st.refuseRedirect true c.line fault
    else
      withStreams r (fields.head?.any isSpecialBuiltin) c.redirects
        (runFields launch run tested c channel fields) st

end Hotkeys.Shell
