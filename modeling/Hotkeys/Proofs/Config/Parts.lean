import Hotkeys.Config.Token
import Hotkeys.Proofs.Text.Lines

/-!
# The parts of a configuration, line by line

A reference for the scanner.  It does not look at bytes and keeps no state: a configuration is cut
into lines, and the lines go into parts by how they begin.
-/

set_option autoImplicit false

namespace Hotkeys.Config

/-- Whether a line opens a keybinding: it begins with `#`, and what follows is neither another `#`
nor the end of the line. -/
def isOpener : Text → Bool
  | '#' :: c :: _ => c ≠ '#' ∧ c ≠ '\n'
  | _ => false

theorem exists_of_isOpener {line : Text} (h : isOpener line = true) :
    ∃ c cs, line = '#' :: c :: cs := by
  unfold isOpener at h
  split at h
  case h_1 c cs => exact ⟨c, cs, rfl⟩
  case h_2 => exact absurd h Bool.false_ne_true

theorem isOpener_of_ne {c : Char} (hc : c ≠ '#') (cs : Text) : isOpener (c :: cs) = false := by
  unfold isOpener
  split
  case h_1 heq => exact absurd (List.cons.inj heq).1 hc
  case h_2 => rfl

/-- What is left of lines from the first opener on begins with it. -/
theorem isOpener_dropWhile (lines : List Text) :
    ∀ line ∈ (lines.dropWhile (!isOpener ·)).head?, isOpener line = true := by
  intro line hline
  have hnot := List.head?_dropWhile_not (!isOpener ·) lines
  rw [Option.mem_def.mp hline] at hnot
  simpa using hnot

/-- Lines that belong together. -/
structure Part where
  /-- What they hold. -/
  kind : TokenKind
  /-- The lines, each with its newline. -/
  lines : List Text
  deriving DecidableEq, Repr

namespace Part

/-- The text of a part. -/
def text (p : Part) : Text :=
  p.lines.flatten

/-- The newlines of a part. -/
def newlines (p : Part) : Nat :=
  p.text.count '\n'

/-- A keybinding line. -/
def keybinding (line : Text) : Part :=
  { kind := .keybinding, lines := [line] }

/-- The lines below a keybinding line, which may be none. -/
def action (lines : List Text) : Part :=
  { kind := .action, lines }

theorem text_keybinding (line : Text) : (keybinding line).text = line :=
  List.flatten_singleton

end Part

/-- The parts of lines of which the first opens a keybinding: each opener by itself, and the lines
from there to the next opener or the end. -/
def keybindingParts : List Text → List Part
  | [] => []
  | opener :: rest =>
    .keybinding opener :: .action (rest.takeWhile (!isOpener ·)) ::
      keybindingParts (rest.dropWhile (!isOpener ·))
  termination_by lines => lines.length
  decreasing_by
    rw [List.length_cons]
    exact Nat.lt_succ_of_le (List.dropWhile_suffix _).length_le

/-- The parts of lines none of which is an interpreter line: those up to the first opener, if there
are any, and the parts of the rest. -/
def partsBelow (lines : List Text) : List Part :=
  let globals := lines.takeWhile (!isOpener ·)
  (if globals = [] then [] else [{ kind := .globals, lines := globals }]) ++
    keybindingParts (lines.dropWhile (!isOpener ·))

/-- Whether a configuration begins with an interpreter line. -/
def hasShebang (source : Text) : Bool :=
  Text.beginsWith source "#!".toList

/-- The parts of a configuration. -/
def parts (source : Text) : List Part :=
  let lines := Text.terminatedLines source
  if hasShebang source then
    { kind := .shebang, lines := lines.take 1 } :: partsBelow (lines.drop 1)
  else partsBelow lines

/-- The tokens of parts that stand below some newlines: each part is a token and begins on the line
after the newlines before it. -/
def tokensBelow (newlines : Nat) : List Part → List Token
  | [] => []
  | p :: ps =>
    { kind := p.kind, text := p.text, line := newlines + 1 } ::
      tokensBelow (newlines + p.newlines) ps

end Hotkeys.Config
