import Hotkeys.Shell.Token

/-!
# Positions

Positions in a script, and what is said where a text is no script.
-/

set_option autoImplicit false

namespace Hotkeys.Shell

/-! ## Positions -/

/-- A position in a script: the token there and what follows it. -/
structure Cursor where
  /-- The token. -/
  token : Token
  /-- The line that the token begins on. -/
  line : Nat
  /-- What follows the token. -/
  rest : Reader
  deriving DecidableEq, Repr

namespace Cursor

/-- The position at the first token of a text. -/
def ofReader (r : Reader) : Cursor :=
  let start := r.atToken
  let (token, rest) := nextToken start
  { token, line := start.line, rest }

/-- The position behind the token. -/
def next (c : Cursor) : Cursor :=
  ofReader c.rest

/-- The position behind newlines; `bound` is at least their number. -/
def skipNewlines : (bound : Nat) → Cursor → Cursor
  | 0, c => c
  | bound + 1, c => if c.token = .newline then skipNewlines bound c.next else c

/-- The reserved word at the position. -/
def reserved? (c : Cursor) : Option Text :=
  match c.token with
  | .word [.literal false t] =>
    if reservedWords.contains t || c.rest.dialect.isBash && bashWords.contains t then some t
    else none
  | _ => none

/-- Whether the token is a reserved word. -/
def isAt (c : Cursor) (w : String) : Bool :=
  c.reserved? == some w.toList

/-- Whether the token is an opening parenthesis with another one right behind it, which means an
arithmetic expression in the dialect that has more to offer. -/
def isAtExpression (c : Cursor) : Bool :=
  c.rest.dialect.isBash && c.token == .openParen && Text.beginsWith c.rest.text ['(']

/-- Whether each parenthesis that closes something stands behind one that opens it; `depth` of them
are open before. -/
def isBalanced : (depth : Nat) → Text → Bool
  | _, [] => true
  | depth, '(' :: cs => isBalanced (depth + 1) cs
  | 0, ')' :: _ => false
  | depth + 1, ')' :: cs => isBalanced depth cs
  | depth, _ :: cs => isBalanced depth cs

/-- The arithmetic expression behind two parentheses, and the position behind it. -/
def expression? (c : Cursor) : Option (Text × Cursor) :=
  let inside := c.rest.text.drop 1
  match readWord c.rest.dialect (.number false 0 []) Draft.empty c.rest.line inside with
  | (.ok (.number _ expression :: _), rest) =>
    if isBalanced 0 expression then some (expression, ofReader rest) else none
  | _ => none

end Cursor

/-! ## Complaints -/

/-- Where a text is no script, and what is wrong there. -/
structure Misfit where
  /-- The line. -/
  line : Nat
  /-- What is wrong. -/
  message : Text
  /-- Whether the line is shown, too. -/
  shown : Bool
  deriving DecidableEq, Repr

/-- A complaint on a line. -/
def Misfit.plain (line : Nat) (message : String) : Misfit :=
  { line, message := "Syntax error: ".toList ++ message.toList, shown := false }

/-- The complaint about a token; `wanted` is what could stand there. -/
def misfitAt (c : Cursor) (commandPosition : Bool) (wanted : Option Text) : Misfit :=
  let line := c.rest.line
  match c.rest.dialect, c.token with
  | .plain, .fault message =>
    { line, message := "Syntax error: ".toList ++ message, shown := false }
  | .plain, token =>
    let expecting :=
      match wanted with
      | some w => " (expecting \"".toList ++ w ++ "\")".toList
      | none => []
    { line
      message :=
        "Syntax error: ".toList ++ token.shown commandPosition ++ " unexpected".toList ++ expecting
      shown := false }
  | .bash, .fault message => { line, message, shown := false }
  | .bash, .finish =>
    { line, message := "syntax error: unexpected end of file".toList, shown := false }
  | .bash, token =>
    { line := if token = .newline then line - 1 else line
      message :=
        "syntax error near unexpected token \x60".toList ++ token.spelled ++ ['\'']
      shown := true }

/-- Fails with the complaint about a token. -/
def unexpected {α : Type} (c : Cursor) (commandPosition : Bool) (wanted : Option Text) :
    Except Misfit α :=
  .error (misfitAt c commandPosition wanted)

/-- Passes a reserved word. -/
def expectWord (w : String) (c : Cursor) : Except Misfit Cursor :=
  if c.isAt w then .ok c.next else unexpected c true (some w.toList)

end Hotkeys.Shell
