import Hotkeys.Config.Error
import Hotkeys.Config.Interpreter
import Hotkeys.Config.Scan
import Hotkeys.Log

/-!
# Outlines

The outline of a configuration: its interpreter, its preamble, and its keybindings each with the
command below it.  A keybinding line that does not begin with a chord is passed over, and what
follows it belongs to the command above; a keybinding without a command gives way to the next.
-/

set_option autoImplicit false

namespace Hotkeys.Config

/-! ## Lines that carry nothing -/

/-- Whether a line carries nothing: it is blank or a comment. -/
def isFiller (line : Text) : Bool :=
  let trimmed := Text.trim line
  trimmed.isEmpty || Text.beginsWith trimmed "##".toList

/-- Whether a line holds nothing but blanks. -/
def isBlankLine (line : Text) : Bool :=
  (Text.trim line).isEmpty

/-- The lines of a text that carry something, each with a newline. -/
def preamble (t : Text) : Text :=
  ((Text.lines t).filter fun line => !isFiller line).flatMap fun line => line ++ ['\n']

/-- Lines without the blank ones at both ends. -/
def trimLines (lines : List Text) : List Text :=
  ((lines.dropWhile isBlankLine).reverse.dropWhile isBlankLine).reverse

/-- The command in a body: empty if no line carries anything, or else the lines from the first to
the last that is not blank. -/
def commandOf (body : Text) : Text :=
  let lines := Text.lines body
  if lines.all isFiller then [] else Text.join ['\n'] (trimLines lines)

/-! ## Chords -/

/-- Whether a text begins with a part of a chord: a word character or a closed group. -/
def beginsPart : Text → Bool
  | [] => false
  | c :: cs => Text.isAsciiWord c || (c == '{' && cs.contains '}')

/-- Whether a text begins with a chord; markers may stand before the first part. -/
def isChord (t : Text) : Bool :=
  ["", "!", "@", "!@", "@!"].any fun markers =>
    match Text.after? markers.toList t with
    | some rest => beginsPart rest
    | none => false

/-- The binding of a keybinding line: the line without blanks and without its `#`. -/
def bindingOf (line : Text) : Text :=
  let stripped := Text.strip line
  (Text.after? ['#'] stripped).getD stripped

/-! ## Outlines -/

/-- The outline of a configuration. -/
structure Outline where
  /-- The program that runs the commands. -/
  interpreter : Interpreter
  /-- The preamble of every command, line by line. -/
  globals : Text
  /-- The keybindings with their commands, in order. -/
  pairs : List Pair
  deriving DecidableEq, Repr

/-- A keybinding whose command body is being collected. -/
structure OpenPair where
  /-- The binding. -/
  binding : Text
  /-- The line of the keybinding. -/
  line : Nat
  /-- The body so far. -/
  body : Text
  deriving DecidableEq, Repr

/-- The pair of an open keybinding, unless its command is empty. -/
def OpenPair.pair? (p : OpenPair) : Option Pair :=
  let command := commandOf p.body
  if command = [] then none else some { binding := p.binding, command, line := p.line }

/-- An outline in the making. -/
structure Draft where
  /-- What is settled. -/
  outline : Outline
  /-- The keybinding that still collects its command. -/
  pending : Option OpenPair
  /-- What was reported. -/
  log : Log
  deriving DecidableEq, Repr

namespace Draft

/-- The draft before the first token. -/
def empty : Draft :=
  { outline := { interpreter := Interpreter.standard, globals := [], pairs := [] }
    pending := none
    log := [] }

/-- The draft with more preamble. -/
def addGlobals (d : Draft) (t : Text) : Draft :=
  { d with outline := { d.outline with globals := d.outline.globals ++ preamble t } }

/-- The report that a keybinding took the place of one without a command. -/
def overwriting (line : Nat) : LogRecord :=
  { level := .info
    message := "overwriting keybinding".toList
    fields := [("line".toList, Text.ofNat line)] }

/-- The draft in which the keybinding on `line` is open and the one before it is settled. -/
def openPair (d : Draft) (binding : Text) (line : Nat) : Draft :=
  let next : OpenPair := { binding, line, body := [] }
  match d.pending with
  | none => { d with pending := some next }
  | some last =>
    match last.pair? with
    | some pair =>
      { d with
        outline := { d.outline with pairs := d.outline.pairs ++ [pair] }
        pending := some next }
    | none => { d with pending := some next, log := d.log ++ [overwriting line] }

/-- The draft after one more token. -/
def add (d : Draft) (token : Token) : Draft :=
  match token.kind with
  | .shebang =>
    { d with outline := { d.outline with interpreter := Interpreter.ofShebang token.text } }
  | .globals => d.addGlobals token.text
  | .action =>
    match d.pending with
    | some p => { d with pending := some { p with body := p.body ++ token.text } }
    | none => d.addGlobals token.text
  | .keybinding =>
    let binding := bindingOf token.text
    if isChord binding then d.openPair binding token.line else d

/-- The report that the last keybinding has no command. -/
def dropping (p : OpenPair) : LogRecord :=
  { level := .warn
    message := "dropping keybinding without a command".toList
    fields := [("binding".toList, p.binding), ("line".toList, Text.ofNat p.line)] }

/-- The outline after the last token.  There has to be a pair; a last keybinding without a command
is dropped. -/
def finish (d : Draft) : Except Error Outline × Log :=
  let last := d.pending.bind OpenPair.pair?
  let outline := { d.outline with pairs := d.outline.pairs ++ last.toList }
  if outline.pairs = [] then (.error (Error.ofFault .empty), d.log)
  else
    match d.pending, last with
    | some p, none => (.ok outline, d.log ++ [dropping p])
    | _, _ => (.ok outline, d.log)

end Draft

/-- The outline of a configuration and what was reported on the way. -/
def outline (source : Text) : Except Error Outline × Log :=
  let lexed := tokens source
  let draft := lexed.tokens.foldl Draft.add Draft.empty
  match lexed.error with
  | some error => (.error (Error.ofFault (.braces error (excerpt source error.place))), draft.log)
  | none => draft.finish

end Hotkeys.Config
