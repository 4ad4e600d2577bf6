import Hotkeys.Text.Basic

/-!
# Tokens of a configuration

A configuration is cut into an interpreter line, a preamble, and then keybinding lines that
alternate with command bodies.  Braces are checked while cutting; the first fault ends the
sequence.
-/

set_option autoImplicit false

namespace Hotkeys.Config

/-- What a token holds. -/
inductive TokenKind where
  /-- The interpreter line. -/
  | shebang
  /-- Everything before the first keybinding line. -/
  | globals
  /-- One keybinding line with its newline. -/
  | keybinding
  /-- The command body below a keybinding line; it may be empty. -/
  | action
  deriving DecidableEq, Repr

/-- A piece of the configuration. -/
structure Token where
  /-- What the piece holds. -/
  kind : TokenKind
  /-- The characters of the piece. -/
  text : Text
  /-- The line that the piece begins on, counted from one. -/
  line : Nat
  deriving DecidableEq, Repr

/-- A place in a configuration. -/
structure Position where
  /-- The line, counted from one. -/
  line : Nat
  /-- The byte within the line, counted from one. -/
  column : Nat
  deriving DecidableEq, Repr

/-- How braces can fail to match. -/
inductive BraceFault where
  /-- A group is still open at the end of its line. -/
  | unclosedGroup
  /-- A brace opens inside an open group. -/
  | nestedOpening
  /-- A brace closes outside of any group. -/
  | strayClosing
  deriving DecidableEq, Repr

/-- The fault in words. -/
def BraceFault.message : BraceFault → Text
  | .unclosedGroup => "unclosed variant group".toList
  | .nestedOpening => "extra opening meta".toList
  | .strayClosing => "extra closing meta found".toList

/-- A brace fault and the place of the brace to blame. -/
structure BraceError where
  /-- What is wrong. -/
  fault : BraceFault
  /-- Where the brace stands. -/
  place : Position
  deriving DecidableEq, Repr

/-- The tokens of a configuration up to the first brace fault, if there is one. -/
structure Lexed where
  /-- The tokens, in order. -/
  tokens : List Token
  /-- The fault that ended the sequence. -/
  error : Option BraceError
  deriving DecidableEq, Repr

/-! ## The emitted sequence -/

/-- What an emitted item stands for. -/
inductive ItemKind where
  /-- A piece of the configuration. -/
  | piece (kind : TokenKind)
  /-- A brace fault. -/
  | error
  deriving DecidableEq, Repr

/-- What is emitted while a configuration is cut. -/
structure Item where
  /-- What the item stands for. -/
  kind : ItemKind
  /-- The characters of the piece, or the fault in words. -/
  text : Text
  /-- The line of the piece or of the brace. -/
  line : Nat
  /-- The byte within this line. -/
  column : Nat
  deriving DecidableEq, Repr

/-- A token as it is emitted; it begins with its line. -/
def Token.item (t : Token) : Item :=
  { kind := .piece t.kind, text := t.text, line := t.line, column := 1 }

/-- A brace fault as it is emitted. -/
def BraceError.item (e : BraceError) : Item :=
  { kind := .error, text := e.fault.message, line := e.place.line, column := e.place.column }

/-- What is emitted for a configuration: its tokens, and behind them the fault if there is one. -/
def Lexed.emitted (l : Lexed) : List Item :=
  l.tokens.map Token.item ++ l.error.toList.map BraceError.item

end Hotkeys.Config
