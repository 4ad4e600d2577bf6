import Hotkeys.Host.Process
import Hotkeys.Host.System
import Hotkeys.Tools.Arguments

/-!
# The work of tools

What a tool has done so far, and the steps that all tools are made of: printing, complaining and
reading files.
-/

set_option autoImplicit false

namespace Hotkeys.Tools

open Hotkeys.Host (Bytes Environment Files Launch Outcome Stream SystemError)

/-- What a tool has done so far. -/
structure Work where
  /-- The name that the tool was started by. -/
  name : Text
  /-- Its environment. -/
  env : Environment
  /-- What it can still read. -/
  rest : Bytes
  /-- The files. -/
  files : Files
  /-- What it has written, the last part first. -/
  written : List (Stream × Bytes)
  /-- The code that it will end with. -/
  code : Nat
  deriving DecidableEq, Repr

/-- What a tool makes of its arguments. -/
abbrev Body := List Text → Work → Work

namespace Work

/-- What is left when a tool has ended. -/
def outcome (w : Work) : Outcome :=
  { code := w.code, written := w.written.reverse, rest := w.rest, files := w.files }

/-- The work after bytes were written. -/
def put (w : Work) (bytes : Bytes) : Work :=
  if bytes.isEmpty then w else { w with written := (.output, bytes) :: w.written }

/-- The work after a text was written. -/
def print (w : Work) (t : Text) : Work :=
  w.put (Text.Utf8.encode t)

/-- The work after a text was written to the error stream. -/
def say (w : Work) (t : Text) : Work :=
  { w with written := (.errors, Text.Utf8.encode t) :: w.written }

/-- The work with a code. -/
def withCode (w : Work) (code : Nat) : Work :=
  { w with code }

/-- The work after a complaint, which is going to end with a code. -/
def complain (w : Work) (code : Nat) (message : Text) : Work :=
  (w.say (w.name ++ ": ".toList ++ message ++ ['\n'])).withCode code

/-- The work after a complaint about how the tool was started. -/
def misuse (w : Work) (code : Nat) (message : Text) : Work :=
  (w.complain code message).say
    ("Try '".toList ++ w.name ++ " --help' for more information.\n".toList)

/-- The work after a complaint about something that the system refused. -/
def refuse (w : Work) (code : Nat) (about : Text) (e : SystemError) : Work :=
  w.complain code (about ++ ": ".toList ++ e.describe.toList)

end Work

/-! ## Quoting names -/

/-- Whether a name can be shown as it is. -/
def isPlainName (t : Text) : Bool :=
  !t.isEmpty &&
    (t.all fun c =>
      !(" \t\n'\"\\|&;()<>!*[?$\x60^=:".toList.contains c) && ' ' < c && c != '\x7f') &&
    !Text.beginsWith t ['~'] && !Text.beginsWith t ['#']

/-- A name in quotes. -/
def quoted (t : Text) : Text :=
  if t.contains '\'' && t.all fun c => !"\"$\x60\\!".toList.contains c then '"' :: t ++ ['"']
  else
    '\'' :: t.flatMap (fun c =>
      if c = '\'' then "'\\''".toList
      else if c = '\n' then "'$'\\n''".toList
      else if c = '\t' then "'$'\\t''".toList
      else [c]) ++ ['\'']

/-- A name, in quotes if it cannot be shown as it is. -/
def named (t : Text) : Text :=
  if isPlainName t then t else quoted t

/-! ## Arguments -/

/-- Reads the options among arguments and goes on with them; a wrong one ends the tool with a
code. -/
def withOptions (o : Options) (code : Nat) (work : Arguments → Work → Work) : Body :=
  fun args w =>
    match o.read args with
    | .error fault => w.misuse code fault.message
    | .ok a => if a.has '-' then w else work a w

/-- The complaint about an operand that is missing. -/
def Work.lackOperand (w : Work) (code : Nat) : Work :=
  w.misuse code "missing operand".toList

/-- The complaint about one operand too many. -/
def Work.extraOperand (w : Work) (code : Nat) (operand : Text) : Work :=
  w.misuse code ("extra operand ".toList ++ quoted operand)

/-! ## Reading -/

/-- Whether a path stands for what can be read. -/
def isInput (files : Files) (path : Text) : Bool :=
  files.streamAt? path = some 0

/-- Reads the file at a path. -/
def Work.read (w : Work) (path : Text) : Except SystemError Bytes × Work :=
  if isInput w.files path then (.ok w.rest, { w with rest := [] }) else (w.files.read path, w)

/-- Reads the file that an operand stands for; a dash stands for what can be read. -/
def Work.readOperand (w : Work) (operand : Text) : Except SystemError Bytes × Work :=
  if operand = ['-'] then (.ok w.rest, { w with rest := [] }) else w.read operand

/-- Goes through the contents of files.  Without operands, that is what can be read.  A file that
cannot be read makes the tool end with a code. -/
def overFiles (code : Nat) (operands : List Text) (each : Text → Bytes → Work → Work) (w : Work) :
    Work :=
  (if operands.isEmpty then [['-']] else operands).foldl (fun w operand =>
    match w.readOperand operand with
    | (.ok content, w) => each operand content w
    | (.error e, w) => w.refuse code (named operand) e) w

/-- The contents of files, one behind the other. -/
def contents (code : Nat) (operands : List Text) (w : Work) : Bytes × Work :=
  (if operands.isEmpty then [['-']] else operands).foldl (fun read operand =>
    match read.2.readOperand operand with
    | (.ok content, w) => (read.1 ++ content, w)
    | (.error e, w) => (read.1, w.refuse code (named operand) e)) ([], w)

/-! ## Lines of bytes -/

/-- Bytes cut at a byte.  What stands behind the last one is a part only if there is anything. -/
def cutAt (sep : UInt8) : Bytes → List Bytes
  | [] => []
  | b :: bs =>
    if b = sep then [] :: cutAt sep bs
    else
      match cutAt sep bs with
      | [] => [[b]]
      | part :: parts => (b :: part) :: parts

/-- The lines of bytes, without their ends. -/
def byteLines (bytes : Bytes) : List Bytes :=
  cutAt 10 bytes

/-- The lines of a text, without their ends. -/
def textLines (bytes : Bytes) : List Text :=
  (byteLines bytes).map Text.Utf8.decodeLossy

/-- Whether the last line has an end. -/
def endsLine (bytes : Bytes) : Bool :=
  bytes.isEmpty || bytes.getLast? == some 10

end Hotkeys.Tools
