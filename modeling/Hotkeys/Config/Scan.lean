import Hotkeys.Config.Token
import Hotkeys.Text.Utf8

/-!
# Scanning

The scanner reads a configuration one byte at a time.  It keeps the bytes of the unfinished token,
the place of the next byte and, inside keybinding lines and command bodies, the state of the brace
check.  A token is cut only at a line start or at the end of the input, so every cut falls between
characters although the scan itself moves by bytes and an escape covers a single byte.
-/

set_option autoImplicit false

namespace Hotkeys.Config

/-! ## Bytes with a meaning -/

namespace Byte

/-- The end of a line. -/
abbrev newline : UInt8 := 0x0a

/-- The mark of an interpreter line, after a `#`. -/
abbrev bang : UInt8 := 0x21

/-- The mark of a keybinding line. -/
abbrev hash : UInt8 := 0x23

/-- The escape. -/
abbrev backslash : UInt8 := 0x5c

/-- The brace that opens a group. -/
abbrev opening : UInt8 := 0x7b

/-- The brace that closes a group. -/
abbrev closing : UInt8 := 0x7d

end Byte

/-! ## The brace check -/

/-- Where the brace check stands within a line. -/
inductive BraceState where
  /-- Outside of any group. -/
  | outside
  /-- Outside of any group, after a backslash. -/
  | escaped
  /-- Inside the group that opens at the given place. -/
  | inGroup (opened : Position)
  /-- Inside a group, after a backslash. -/
  | inGroupEscaped (opened : Position)
  deriving DecidableEq, Repr

namespace BraceState

/-- The state after byte `b`, which stands at `here`.  A backslash makes the next byte of the same
line an ordinary one; an open group must close before its line ends. -/
def step (here : Position) (b : UInt8) : BraceState → Except BraceError BraceState
  | .outside =>
    if b = Byte.backslash then .ok .escaped
    else if b = Byte.opening then .ok (.inGroup here)
    else if b = Byte.closing then .error ⟨.strayClosing, here⟩
    else .ok .outside
  | .escaped => .ok .outside
  | .inGroup opened =>
    if b = Byte.newline then .error ⟨.unclosedGroup, opened⟩
    else if b = Byte.backslash then .ok (.inGroupEscaped opened)
    else if b = Byte.opening then .error ⟨.nestedOpening, here⟩
    else if b = Byte.closing then .ok .outside
    else .ok (.inGroup opened)
  | .inGroupEscaped opened =>
    if b = Byte.newline then .error ⟨.unclosedGroup, opened⟩
    else .ok (.inGroup opened)

/-- The fault that the end of the input makes of a state. -/
def atEnd : BraceState → Option BraceError
  | .outside | .escaped => none
  | .inGroup opened | .inGroupEscaped opened => some ⟨.unclosedGroup, opened⟩

end BraceState

/-! ## The scanner -/

/-- A token as it is cut from the input. -/
structure Piece where
  /-- What the token holds. -/
  kind : TokenKind
  /-- Its bytes. -/
  bytes : List UInt8
  /-- The line that it begins on. -/
  line : Nat
  deriving DecidableEq, Repr

/-- The token of a piece. -/
def Piece.token (p : Piece) : Token :=
  { kind := p.kind, text := Text.Utf8.decodeLossy p.bytes, line := p.line }

/-- Whether a byte at a line start, followed by `next`, opens a keybinding line: a `#` with
something behind it that is neither another `#` nor the line end. -/
def opensKeybinding (b : UInt8) (next : Option UInt8) : Bool :=
  b == Byte.hash &&
    match next with
    | none => false
    | some n => n != Byte.hash && n != Byte.newline

/-- The state of a scan between two bytes. -/
structure Scanner where
  /-- The kind of the unfinished token. -/
  kind : TokenKind
  /-- The brace check of the current line. -/
  braces : BraceState
  /-- The bytes of the unfinished token, latest first. -/
  taken : List UInt8
  /-- The line that the unfinished token begins on. -/
  line : Nat
  /-- The place of the next byte. -/
  here : Position
  deriving DecidableEq, Repr

namespace Scanner

/-- The scanner at the start of the input, about to read a token of the given kind. -/
def start (kind : TokenKind) : Scanner :=
  { kind, braces := .outside, taken := [], line := 1, here := ⟨1, 1⟩ }

/-- The unfinished token as a piece. -/
def piece (s : Scanner) : Piece :=
  { kind := s.kind, bytes := s.taken.reverse, line := s.line }

/-- The pieces that end before the next byte: an empty preamble is no token. -/
def closed (s : Scanner) : List Piece :=
  if s.kind = .globals ∧ s.taken = [] then [] else [s.piece]

/-- The scanner about to read a token of another kind from the next byte on. -/
def begin (s : Scanner) (kind : TokenKind) : Scanner :=
  { s with kind, braces := .outside, taken := [], line := s.here.line }

/-- Whether byte `b`, followed by `next`, ends the current token because it opens a keybinding
line. -/
def endsBefore (s : Scanner) (b : UInt8) (next : Option UInt8) : Bool :=
  (s.kind == .globals || s.kind == .action) && s.here.column == 1 && opensKeybinding b next

/-- Whether braces are checked in the current token. -/
def checksBraces (s : Scanner) : Bool :=
  s.kind == .keybinding || s.kind == .action

/-- The scanner after byte `b`, which goes into the current token. -/
def take (s : Scanner) (b : UInt8) : Except BraceError Scanner := do
  let braces ← if s.checksBraces then s.braces.step s.here b else .ok s.braces
  let here : Position :=
    if b = Byte.newline then ⟨s.here.line + 1, 1⟩ else ⟨s.here.line, s.here.column + 1⟩
  return { s with braces, here, taken := b :: s.taken }

/-- The kind of the token after a line end, for the two kinds that end with their line. -/
def kindAfterLine : TokenKind → Option TokenKind
  | .shebang => some .globals
  | .keybinding => some .action
  | .globals | .action => none

/-- The pieces that byte `b`, followed by `next`, completes, and the scanner after it. -/
def feed (s : Scanner) (b : UInt8) (next : Option UInt8) :
    List Piece × Except BraceError Scanner :=
  let before := if s.endsBefore b next then s.closed else []
  let s := if s.endsBefore b next then s.begin .keybinding else s
  match s.take b with
  | .error e => (before, .error e)
  | .ok taken =>
    match kindAfterLine taken.kind with
    | some kind =>
      if b = Byte.newline then (before ++ [taken.piece], .ok (taken.begin kind))
      else (before, .ok taken)
    | none => (before, .ok taken)

/-- The pieces at the end of the input.  A keybinding line without a newline still has an empty
command body. -/
def finish (s : Scanner) : List Piece × Option BraceError :=
  match s.braces.atEnd with
  | some e => ([], some e)
  | none =>
    match s.kind with
    | .keybinding => ([s.piece, (s.begin .action).piece], none)
    | _ => (s.closed, none)

/-- The pieces of the bytes from a scanner on. -/
def run (s : Scanner) : List UInt8 → List Piece × Option BraceError
  | [] => s.finish
  | b :: bs =>
    match s.feed b bs.head? with
    | (pieces, .error e) => (pieces, some e)
    | (pieces, .ok next) =>
      let rest := next.run bs
      (pieces ++ rest.1, rest.2)

end Scanner

/-- The pieces of an input. -/
def pieces (bytes : List UInt8) : List Piece × Option BraceError :=
  if [Byte.hash, Byte.bang].isPrefixOf bytes then (Scanner.start .shebang).run bytes
  else (Scanner.start .globals).run bytes

/-- The tokens of a configuration. -/
def tokens (source : Text) : Lexed :=
  let cut := pieces (Text.Utf8.encode source)
  { tokens := cut.1.map Piece.token, error := cut.2 }

end Hotkeys.Config
