import Hotkeys.CommandLine.Options

/-!
# Reading arguments

A reader of the command line that says why it stops.  Arguments are read from left to right.  A
switch whose value may be the next argument stays open until something else is read; only then is it
checked, so an argument that is wrong in itself is noticed before a value that is missing.
-/

set_option autoImplicit false

namespace Hotkeys.CommandLine

/-! ## Settling switches -/

/-- A switch that is not settled yet. -/
structure OpenSwitch where
  /-- The switch. -/
  switch : Switch
  /-- Its value, once there is one. -/
  value : Option Text
  deriving DecidableEq, Repr

/-- How far reading has come. -/
structure Progress where
  /-- What is settled, in order. -/
  settled : List Setting
  /-- The switch that is not settled yet. -/
  pending : Option OpenSwitch
  deriving DecidableEq, Repr

/-- The settings with one more, which must not be there yet. -/
def addSetting (settled : List Setting) (s : Switch) (value : Text) :
    Except Stop (List Setting) :=
  if gives settled s then .error .conflict
  else if value = [] && !s.mayBeEmpty then .error .invalidValue
  else .ok (settled ++ [(s, value)])

/-- The settings once a switch that takes a value has the given one. -/
def settleSwitch (settled : List Setting) (s : Switch) :
    Option Text → Except Stop (List Setting)
  | some value => addSetting settled s value
  | none =>
    match s.arity with
    | .optional standIn => addSetting settled s standIn
    | _ => .error .invalidValue

namespace Progress

/-- Before the first argument. -/
def start : Progress :=
  { settled := [], pending := none }

/-- The settings once the open switch is settled. -/
def settle (p : Progress) : Except Stop (List Setting) :=
  match p.pending with
  | none => .ok p.settled
  | some o => settleSwitch p.settled o.switch o.value

/-- Reads a bare switch. -/
def addBare (p : Progress) (s : Switch) : Except Stop Progress := do
  let settled ← p.settle
  match s with
  | .help => .error .help
  | .version => .error .version
  | _ =>
    if gives settled s then .error .conflict
    else return { settled := settled ++ [(s, [])], pending := none }

/-- Reads a switch with the value that is attached to it. -/
def addValued (p : Progress) (s : Switch) (value : Text) : Except Stop Progress := do
  let settled ← settleSwitch (← p.settle) s (some value)
  return { settled, pending := none }

/-- Reads a switch whose value may follow. -/
def addOpen (p : Progress) (s : Switch) : Except Stop Progress := do
  return { settled := ← p.settle, pending := some { switch := s, value := none } }

/-- Reads the text behind `--`: a word, or a word, `=` and a value. -/
def readWord (p : Progress) (body : Text) : Except Stop Progress :=
  let (word, value) :=
    match Text.splitFirst '=' body with
    | some (word, value) => (word, some value)
    | none => (body, none)
  match Switch.ofWord? word with
  | none => .error .unknownArgument
  | some s =>
    match s.arity, value with
    | .bare, none => p.addBare s
    | .bare, some _ => .error .tooManyValues
    | _, none => p.addOpen s
    | _, some v => p.addValued s v

/-- Reads the letters behind `-`.  A letter that takes a value takes all that follows it, less one
`=` at the beginning. -/
def readLetters (p : Progress) : Text → Except Stop Progress
  | [] => .ok p
  | c :: rest =>
    match Switch.ofLetter? c with
    | none => .error .unknownArgument
    | some s =>
      match s.arity with
      | .bare => do readLetters (← p.addBare s) rest
      | _ =>
        if rest = [] then p.addOpen s
        else p.addValued s ((Text.after? ['='] rest).getD rest)

/-- Reads an argument that is no switch: the value of a switch that waits for one. -/
def readValue (p : Progress) (arg : Text) : Except Stop Progress :=
  match p.pending with
  | some { switch, value := none } => .ok { p with pending := some { switch, value := some arg } }
  | _ => .error .unknownArgument

/-- Reads one argument. -/
def read (p : Progress) (arg : Text) : Except Stop Progress :=
  match arg with
  | '-' :: '-' :: body => p.readWord body
  | '-' :: c :: rest => p.readLetters (c :: rest)
  | _ => p.readValue arg

/-- Reads arguments up to the end, where `--` may stand. -/
def readAll (p : Progress) : List Text → Except Stop (List Setting)
  | [] => p.settle
  | arg :: rest =>
    if arg = "--".toList then
      if rest = [] then p.settle else .error .unknownArgument
    else do readAll (← p.read arg) rest

end Progress

/-- The options that the arguments ask for. -/
def Options.ofArgs (args : List Text) : Except Stop Options := do
  let settled ← Progress.start.readAll args
  if clashes settled then .error .conflict
  else if gives settled .json && !gives settled .dryRun then .error .missingCompanion
  else return Options.ofSettings settled

end Hotkeys.CommandLine
