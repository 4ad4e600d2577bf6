import Hotkeys.Shell.State

/-!
# Flags

The arguments that turn settings on and off: those that the interpreter is started with, and those
of the command that changes settings on the way.
-/

set_option autoImplicit false

namespace Hotkeys.Shell

/-- Why flags cannot be read. -/
inductive FlagFault where
  /-- No setting has the letter. -/
  | letter (on : Bool) (c : Char)
  /-- No setting has the name. -/
  | word (name : Text)
  /-- Nothing is known by a long word. -/
  | long (arg : Text)
  deriving DecidableEq, Repr

/-- What is wrong with flags. -/
def FlagFault.message (d : Dialect) (f : FlagFault) : Text :=
  match d, f with
  | .plain, .letter on c => "Illegal option ".toList ++ [if on then '-' else '+', c]
  | .plain, .word name => "Illegal option -o ".toList ++ name
  | .bash, .letter on c => [if on then '-' else '+', c] ++ ": invalid option".toList
  | .bash, .word name => name ++ ": invalid option name".toList
  | .plain, .long arg => "Illegal option ".toList ++ arg
  | .bash, .long arg => arg ++ ": invalid option".toList

/-- What flags have said so far. -/
structure Flags where
  /-- What the script is told to do on its way. -/
  settings : Settings
  /-- Whether the script is an argument. -/
  inArgument : Bool
  /-- Whether the script is what the interpreter reads. -/
  inInput : Bool
  /-- Whether a sign has closed the flags. -/
  closed : Bool
  /-- Whether the settings are to be listed, and whether as commands. -/
  listed : Option Bool
  /-- Whether there is nothing to do but to tell about the interpreter. -/
  telling : Bool
  /-- The arguments that are left. -/
  rest : List Text
  deriving DecidableEq, Repr

namespace Flags

/-- Nothing said yet. -/
def start (settings : Settings) (args : List Text) : Flags :=
  { settings, inArgument := false, inInput := false, closed := false, listed := none
    telling := false, rest := args }

/-- Reads the letters of a flag.  Some have a meaning only where the interpreter is started. -/
def readLetters (d : Dialect) (starting on : Bool) : Text → Flags → Except FlagFault Flags
  | [], f => .ok f
  | c :: cs, f =>
    if c = 'o' then
      match f.rest with
      | [] => readLetters d starting on cs { f with listed := some !on }
      | word :: rest =>
        match f.settings.turnNamed? d word on with
        | some settings => readLetters d starting on cs { f with settings, rest }
        | none => .error (.word word)
    else if c = 'c' && starting then readLetters d starting on cs { f with inArgument := true }
    else if c = 'l' && starting then readLetters d starting on cs f
    else if "iDr".toList.contains c && starting && d.isBash then readLetters d starting on cs f
    else if c = 's' && (starting || !d.isBash) then
      readLetters d starting on cs { f with inInput := on }
    else if c = 'O' && starting && d.isBash then
      readLetters d starting on cs { f with rest := f.rest.drop 1 }
    else
      match f.settings.turn? d c on with
      | some settings => readLetters d starting on cs { f with settings }
      | none => .error (.letter on c)

/-- Reads flags up to the first argument that is none; `bound` is at least the number of
arguments. -/
def read (d : Dialect) (starting : Bool) : (bound : Nat) → Flags → Except FlagFault Flags
  | 0, f => .ok f
  | bound + 1, f =>
    match f.rest with
    | ['-'] :: rest => .ok { f with rest }
    | ['-', '-'] :: rest => .ok { f with rest, closed := true }
    | ('-' :: letters) :: rest => do
      read d starting bound (← readLetters d starting true letters { f with rest })
    | ('+' :: letters) :: rest => do
      read d starting bound (← readLetters d starting false letters { f with rest })
    | _ => .ok f

/-- The long words that the other interpreter may be started with, and whether a value follows. -/
def longWords : List (String × Bool) :=
  [("debug", false), ("debugger", false), ("dump-po-strings", false), ("dump-strings", false),
    ("help", false), ("init-file", true), ("login", false), ("noediting", false),
    ("noprofile", false), ("norc", false), ("posix", false), ("pretty-print", false),
    ("rcfile", true), ("restricted", false), ("verbose", false), ("version", false)]

/-- Reads long words up to the first argument that is none; `bound` is at least the number of
arguments. -/
def readLong : (bound : Nat) → Flags → Except FlagFault Flags
  | 0, f => .ok f
  | bound + 1, f =>
    match f.rest with
    | ('-' :: arg) :: rest =>
      let word := if Text.beginsWith arg ['-'] then arg.drop 1 else arg
      match longWords.find? fun w => w.1.toList == word with
      | some (name, valued) =>
        let settings :=
          if name = "verbose" then { f.settings with echoed := true } else f.settings
        let telling := f.telling || name == "help" || name == "version"
        readLong bound { f with settings, telling, rest := if valued then rest.drop 1 else rest }
      | none =>
        if arg.length ≤ 1 || !Text.beginsWith arg ['-'] then .ok f
        else .error (.long ('-' :: arg))
    | _ => .ok f

/-- What the arguments say that an interpreter is started with. -/
def ofStart (d : Dialect) (args : List Text) : Except FlagFault Flags := do
  let f := start Settings.none args
  let f ← if d.isBash then readLong (args.length + 1) f else .ok f
  read d true (args.length + 1) f

/-- What the arguments of the command say that changes settings. -/
def ofArgs (d : Dialect) (settings : Settings) (args : List Text) : Except FlagFault Flags :=
  read d false (args.length + 1) (start settings args)

end Flags

/-- A text filled up with blanks to a width. -/
def padded (width : Nat) (t : Text) : Text :=
  t ++ List.replicate (width - t.length) ' '

/-- The settings as they are listed, as commands or not. -/
def Settings.listing (d : Dialect) (s : Settings) (asCommands : Bool) : Text :=
  let isOn (n : String × Char) : Bool :=
    s.isOn n.2 || n.1 == "pipefail" && s.piping ||
      d.isBash && ["braceexpand", "hashall", "interactive-comments"].contains n.1
  let row (n : String × Char) : Text :=
    if asCommands then
      "set ".toList ++ [if isOn n then '-' else '+'] ++ "o ".toList ++ n.1.toList ++ ['\n']
    else
      padded (if d.isBash then 15 else 16) n.1.toList ++ (if d.isBash then ['\t'] else []) ++
        (if isOn n then "on\n" else "off\n").toList
  (if d.isBash || asCommands then [] else "Current option settings\n".toList) ++
    (Settings.named d).flatMap row

end Hotkeys.Shell
