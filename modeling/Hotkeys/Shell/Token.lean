import Hotkeys.Shell.Word
import Hotkeys.Text.Numeral

/-!
# Tokens

The command language as words and operators.  Tokens are read one by one, as they are needed.
-/

set_option autoImplicit false

namespace Hotkeys.Shell

/-- What a redirection does with the stream. -/
inductive Direction where
  /-- It reads from a file. -/
  | read
  /-- It writes to a file from the beginning. -/
  | write
  /-- It writes to a file from the beginning, even where files are to be kept. -/
  | force
  /-- It writes to a file at the end. -/
  | append
  /-- It reads from a file and writes to it. -/
  | both
  /-- It writes to a file, at the end or from the beginning, together with the error stream. -/
  | joined (adding : Bool)
  /-- It becomes the same as another stream. -/
  | same
  /-- It reads lines of the script itself, without the tabs in front of them or with them. -/
  | document (untabbed : Bool)
  /-- It reads a word and the end of a line. -/
  | words
  deriving DecidableEq, Repr

/-- A token. -/
inductive Token where
  /-- A word. -/
  | word (w : Word)
  /-- A redirection of a stream. -/
  | redirect (stream : Nat) (direction : Direction)
  /-- The sign `;`. -/
  | semicolon
  /-- The sign `;;`. -/
  | doubleSemicolon
  /-- The sign `&`. -/
  | ampersand
  /-- The sign `&&`. -/
  | andThen
  /-- The sign `||`. -/
  | orElse
  /-- The sign `|`, or the one that takes the error stream along. -/
  | pipe (errors : Bool)
  /-- The sign `(`. -/
  | openParen
  /-- The sign `)`. -/
  | closeParen
  /-- The end of a line. -/
  | newline
  /-- The end of the text. -/
  | finish
  /-- A word that cannot be read. -/
  | fault (message : Text)
  deriving DecidableEq, Repr

/-- Words that have a meaning of their own where a command can begin, in every dialect. -/
def reservedWords : List Text :=
  ["!", "\x7b", "\x7d", "if", "then", "else", "elif", "fi", "while", "until", "for", "do", "done",
    "case", "in", "esac"].map String.toList

/-- Words that have such a meaning in the dialect with more to offer. -/
def bashWords : List Text :=
  ["[[", "function"].map String.toList

namespace Token

/-- The reserved word that a token is. -/
def reserved? : Token → Option Text
  | .word [.literal false t] => if reservedWords.contains t then some t else none
  | _ => none

/-- The token as it is named in complaints, where a command could begin or not. -/
def shown (commandPosition : Bool) (t : Token) : Text :=
  match t with
  | .word _ =>
    match t.reserved?, commandPosition with
    | some w, true => '"' :: w ++ ['"']
    | _, _ => "word".toList
  | .redirect .. => "redirection".toList
  | .semicolon => "\";\"".toList
  | .doubleSemicolon => "\";;\"".toList
  | .ampersand => "\"&\"".toList
  | .andThen => "\"&&\"".toList
  | .orElse => "\"||\"".toList
  | .pipe _ => "\"|\"".toList
  | .openParen => "\"(\"".toList
  | .closeParen => "\")\"".toList
  | .newline => "newline".toList
  | .finish => "end of file".toList
  | .fault message => message

end Token

/-- The token as the dialect with more to offer names it. -/
def Token.spelled (t : Token) : Text :=
  match t with
  | .word w =>
    w.flatMap fun p =>
      match p with
      | .literal _ t => t
      | _ => []
  | .redirect _ direction =>
    match direction with
    | .read => ['<']
    | .write => ['>']
    | .force => ">|".toList
    | .append => ">>".toList
    | .same => ">&".toList
    | .both => "<>".toList
    | .joined true => "&>>".toList
    | .joined false => "&>".toList
    | .document true => "<<-".toList
    | .document false => "<<".toList
    | .words => "<<<".toList
  | .semicolon => [';']
  | .doubleSemicolon => ";;".toList
  | .ampersand => ['&']
  | .andThen => "&&".toList
  | .orElse => "||".toList
  | .pipe true => "|&".toList
  | .pipe false => ['|']
  | .openParen => ['(']
  | .closeParen => [')']
  | .newline => "newline".toList
  | .finish => "end of file".toList
  | .fault message => message

/-- What is left behind blanks and, from a `#` on, the rest of the line; and the line there. -/
def skipBlanks (comment : Bool) (line : Nat) : Text → Text × Nat
  | [] => ([], line)
  | '\\' :: '\n' :: cs =>
    if comment then ('\n' :: cs, line) else skipBlanks false (line + 1) cs
  | c :: cs =>
    if comment then if c = '\n' then (c :: cs, line) else skipBlanks true line cs
    else if c = ' ' || c = '\t' then skipBlanks false line cs
    else if c = '#' then skipBlanks true line cs
    else (c :: cs, line)

/-- The reader behind blanks and comments. -/
def Reader.atToken (r : Reader) : Reader :=
  let (text, line) := skipBlanks false r.line r.text
  { r with text, line }

/-- The operator that a text begins with, and what follows it. -/
def operator? (d : Dialect) : Text → Option (Token × Text)
  | '\n' :: cs => some (.newline, cs)
  | ';' :: ';' :: cs => some (.doubleSemicolon, cs)
  | ';' :: cs => some (.semicolon, cs)
  | '&' :: '&' :: cs => some (.andThen, cs)
  | '&' :: '>' :: cs =>
    match d, cs with
    | .plain, _ => some (.ampersand, '>' :: cs)
    | .bash, '>' :: cs => some (.redirect 1 (.joined true), cs)
    | .bash, cs => some (.redirect 1 (.joined false), cs)
  | '&' :: cs => some (.ampersand, cs)
  | '|' :: '|' :: cs => some (.orElse, cs)
  | '|' :: '&' :: cs => if d.isBash then some (.pipe true, cs) else some (.pipe false, '&' :: cs)
  | '|' :: cs => some (.pipe false, cs)
  | '(' :: cs => some (.openParen, cs)
  | ')' :: cs => some (.closeParen, cs)
  | _ => none

/-- The redirection that a text begins with, of the stream in front of it or the usual one. -/
def redirection? (d : Dialect) (stream : Option Nat) : Text → Option (Token × Text)
  | '>' :: '>' :: cs => some (.redirect (stream.getD 1) .append, cs)
  | '>' :: '&' :: cs => some (.redirect (stream.getD 1) .same, cs)
  | '>' :: '|' :: cs => some (.redirect (stream.getD 1) .force, cs)
  | '>' :: cs => some (.redirect (stream.getD 1) .write, cs)
  | '<' :: '<' :: '-' :: cs => some (.redirect (stream.getD 0) (.document true), cs)
  | '<' :: '<' :: '<' :: cs =>
    if d.isBash then some (.redirect (stream.getD 0) .words, cs)
    else some (.redirect (stream.getD 0) (.document false), '<' :: cs)
  | '<' :: '<' :: cs => some (.redirect (stream.getD 0) (.document false), cs)
  | '<' :: '&' :: cs => some (.redirect (stream.getD 0) .same, cs)
  | '<' :: '>' :: cs => some (.redirect (stream.getD 0) .both, cs)
  | '<' :: cs => some (.redirect (stream.getD 0) .read, cs)
  | _ => none

/-- The number of the stream that a word in front of a redirection names. -/
def streamNumber? (d : Dialect) : Word → Option Nat
  | [.literal false t] => if d.isBash || t.length = 1 then Text.numeral? 10 t else none
  | _ => none

/-- The next token and what follows it. -/
def nextToken (r : Reader) : Token × Reader :=
  let r := r.atToken
  match r.text with
  | [] => (.finish, r)
  | c :: cs =>
    match operator? r.dialect (c :: cs), redirection? r.dialect none (c :: cs) with
    | some (token, text), _ => (token, { r with text, line := lineAfter r.line c })
    | none, some (token, text) => (token, { r with text })
    | none, none =>
      match readWord r.dialect .bare Draft.empty r.line (c :: cs) with
      | (.error message, after) =>
        (.fault message, { after with line := if r.dialect.isBash then r.line else after.line })
      | (.ok w, r) =>
        let redirected := (streamNumber? r.dialect w).bind fun n =>
          redirection? r.dialect (some n) r.text
        match redirected with
        | some (token, text) => (token, { r with text })
        | none => (.word w, r)

end Hotkeys.Shell
