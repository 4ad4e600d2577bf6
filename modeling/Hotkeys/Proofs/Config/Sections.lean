import Hotkeys.Config.Outline
import Hotkeys.Proofs.Config.Parts
import Hotkeys.Proofs.Text.Pieces
import Hotkeys.Proofs.Text.Trimming

/-!
# Sections of a configuration

A reference for the outline.  It collects nothing token by token: the tokens are cut at those that
open a section, and each section is looked at as a whole (`sections`, `Section.Makes`).  The lines
of a configuration that carry something are read off the text itself (`carriedLines`), and those of
an outline off its texts (`Outline.carriedLines`).
-/

set_option autoImplicit false

namespace Hotkeys.Config

/-- The lines that carry something. -/
def carrying (lines : List Text) : List Text :=
  lines.filter fun line => !isFiller line

theorem carrying_append (above below : List Text) :
    carrying (above ++ below) = carrying above ++ carrying below :=
  List.filter_append _ _

/-! ## Spans of lines -/

/-- Whether `span` reaches from the first to the last of the lines that is not blank. -/
structure IsSpan (lines span : List Text) : Prop where
  /-- The lines around the span are blank. -/
  around : ∃ above below, (∀ line ∈ above, isBlankLine line = true) ∧
    (∀ line ∈ below, isBlankLine line = true) ∧ lines = above ++ (span ++ below)
  /-- The span begins with a line that is not. -/
  first : ∀ line ∈ span.head?, isBlankLine line = false
  /-- The span ends with a line that is not. -/
  last : ∀ line ∈ span.getLast?, isBlankLine line = false

theorem isSpan_trimLines (lines : List Text) : IsSpan lines (trimLines lines) where
  around := Text.exists_dropEnds isBlankLine lines
  first := fun _ hline => Text.head_dropEnds hline
  last := fun _ hline => Text.getLast_dropEnds hline

/-- Blank lines carry nothing. -/
theorem isFiller_of_isBlankLine {line : Text} (h : isBlankLine line = true) :
    isFiller line = true := by
  rw [isFiller, show (Text.trim line).isEmpty = true from h, Bool.true_or]

theorem carrying_of_blank {lines : List Text} (h : ∀ line ∈ lines, isBlankLine line = true) :
    carrying lines = [] := by
  refine List.filter_eq_nil_iff.mpr fun line hline => ?_
  rw [isFiller_of_isBlankLine (h line hline)]
  exact Bool.false_ne_true

/-- A span carries what its lines carry. -/
theorem IsSpan.carrying_eq {lines span : List Text} (h : IsSpan lines span) :
    carrying span = carrying lines := by
  obtain ⟨above, below, habove, hbelow, rfl⟩ := h.around
  rw [carrying_append, carrying_append, carrying_of_blank habove, carrying_of_blank hbelow,
    List.nil_append, List.append_nil]

theorem IsSpan.mem {lines span : List Text} (h : IsSpan lines span) {line : Text}
    (hline : line ∈ span) : line ∈ lines := by
  obtain ⟨above, below, -, -, rfl⟩ := h.around
  exact List.mem_append_right _ (List.mem_append_left _ hline)

/-! ## Sections -/

/-- Whether a token opens a section: it is a keybinding line with a chord behind its `#`. -/
def Token.opensSection (t : Token) : Bool :=
  t.kind == .keybinding && isChord (bindingOf t.text)

/-- A token that opens a section, and the tokens from there to the next such token. -/
structure Section where
  /-- The token that opens the section. -/
  opener : Token
  /-- The tokens below it. -/
  body : List Token
  deriving DecidableEq, Repr

/-- The sections of tokens.  Those above the first section belong to none. -/
def sections : List Token → List Section
  | [] => []
  | t :: ts =>
    if t.opensSection then ⟨t, ts.takeWhile (!·.opensSection)⟩ :: sections ts else sections ts

/-- The command text among tokens. -/
def actionText (ts : List Token) : Text :=
  (ts.filter (·.kind == .action)).flatMap Token.text

namespace Section

/-- The lines of the command text of a section. -/
def lines (s : Section) : List Text :=
  Text.lines (actionText s.body)

/-- Whether a section has a line that carries something. -/
def carries (s : Section) : Bool :=
  s.lines.any fun line => !isFiller line

/-- Whether a section makes a pair: the pair has the binding and the line of the opener, and its
command is the lines of the section from the first to the last that is not blank. -/
structure Makes (s : Section) (p : Pair) : Prop where
  /-- The binding is that of the opener. -/
  binding : p.binding = bindingOf s.opener.text
  /-- The line is that of the opener. -/
  line : p.line = s.opener.line
  /-- The command is a span of the lines. -/
  command : ∃ span, IsSpan s.lines span ∧ p.command = Text.join ['\n'] span

end Section

/-- The lines above the first section that carry something, in the preamble and in command text. -/
def linesAbove (ts : List Token) : List Text :=
  carrying (((ts.takeWhile (!·.opensSection)).filter fun t =>
    t.kind == .globals || t.kind == .action).flatMap fun t => Text.lines t.text)

/-! ## Lines that carry something -/

/-- The lines that carry something, each with the number of the nearest section opener above it; the
opener nearest to the first line is on line `nearest`.  Lines that open a keybinding but no section
count for nothing. -/
def carriedBelow (nearest : Option Nat) : List (Text × Nat) → List (Option Nat × Text)
  | [] => []
  | (line, n) :: rest =>
    if isOpener line then
      carriedBelow (if isChord (bindingOf line) then some n else nearest) rest
    else if isFiller (Text.chomp line) then carriedBelow nearest rest
    else (nearest, Text.chomp line) :: carriedBelow nearest rest

/-- The lines of a configuration that carry something, the interpreter line apart, each with the
number of the nearest section opener above it. -/
def carriedLines (source : Text) : List (Option Nat × Text) :=
  let numbered := (Text.terminatedLines source).zipIdx 1
  carriedBelow none (if hasShebang source then numbered.drop 1 else numbered)

/-- The lines of a pair that carry something, with its line number. -/
def Pair.carriedLines (p : Pair) : List (Option Nat × Text) :=
  (carrying (Text.splitOn (· == '\n') p.command)).map (some p.line, ·)

/-- The lines of an outline that carry something, first those of the preamble. -/
def Outline.carriedLines (o : Outline) : List (Option Nat × Text) :=
  (carrying (Text.splitOn (· == '\n') o.globals)).map (none, ·) ++
    o.pairs.flatMap Pair.carriedLines

end Hotkeys.Config
