import Hotkeys.Text.Blank

/-!
# Interpreters

The program that runs the commands of a configuration, as its first line names it.
-/

set_option autoImplicit false

namespace Hotkeys.Config

/-- A program and the arguments it is started with. -/
structure Interpreter where
  /-- The program. -/
  program : Text
  /-- Its arguments. -/
  args : List Text
  deriving DecidableEq, Repr

namespace Interpreter

/-- The interpreter of a configuration that names none. -/
def standard : Interpreter :=
  { program := "/bin/sh".toList, args := [] }

/-- A text without the marks `#!` at its beginning, however many there are. -/
def dropMarks : Text → Text
  | '#' :: '!' :: rest => dropMarks rest
  | t => t

/-- The interpreter that an interpreter line names: its words after the marks. -/
def ofShebang (line : Text) : Interpreter :=
  match Text.words (dropMarks (Text.trim line)) with
  | [] => standard
  | program :: args => { program, args }

/-- The interpreter on one line. -/
def text (i : Interpreter) : Text :=
  Text.join [' '] (i.program :: i.args)

end Interpreter

end Hotkeys.Config
