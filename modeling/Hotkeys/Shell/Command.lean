import Hotkeys.Shell.Trial

/-!
# Commands

The commands of the command language and how they are read: one line at a time, so that what stands
behind a command that ends the script is never looked at.
-/

set_option autoImplicit false

namespace Hotkeys.Shell

/-! ## Commands -/

/-- A redirection of a stream. -/
structure Redirect where
  /-- The stream. -/
  stream : Nat
  /-- What happens to it. -/
  direction : Direction
  /-- The file, the other stream or the text to read. -/
  target : Word
  deriving DecidableEq, Repr

/-- What a name is set to. -/
inductive Content where
  /-- A value. -/
  | value (w : Word)
  /-- A list of values. -/
  | list (ws : List Word)
  deriving DecidableEq, Repr

/-- A name that is given a value, which may be added to the one that it has. -/
structure Setting where
  /-- The name. -/
  name : Text
  /-- Whether the value is added. -/
  adding : Bool
  /-- The value. -/
  content : Content
  deriving DecidableEq, Repr

/-- A command without parts. -/
structure Simple where
  /-- The line that it begins on. -/
  line : Nat
  /-- The values that it gives to names. -/
  settings : List Setting
  /-- The program and its arguments. -/
  words : List Word
  /-- The redirections, in order. -/
  redirects : List Redirect
  deriving DecidableEq, Repr

/-- A command. -/
inductive Command where
  /-- Does nothing. -/
  | nothing
  /-- Runs a program. -/
  | simple (c : Simple)
  /-- Runs two commands, one after the other. -/
  | sequence (first second : Command)
  /-- Runs a command without waiting for its end. -/
  | background (c : Command)
  /-- Runs the second command if the first succeeds. -/
  | both (first second : Command)
  /-- Runs the second command if the first fails. -/
  | either (first second : Command)
  /-- Succeeds if the command fails. -/
  | negated (c : Command)
  /-- Lets the second command read what the first writes. -/
  | pipe (first second : Command)
  /-- Runs a command on a copy of the values. -/
  | apart (body : Command)
  /-- Runs a command with redirections. -/
  | redirected (body : Command) (line : Nat) (redirects : List Redirect)
  /-- Runs one of two commands, as the condition succeeds or fails. -/
  | choice (condition yes no : Command)
  /-- Runs a command as long as the condition succeeds, or as long as it fails. -/
  | loop (untilSuccess : Bool) (condition body : Command)
  /-- Runs a command for each of some words, or for each argument. -/
  | each (name : Text) (items : Option (List Word)) (line : Nat) (body : Command)
  /-- Runs the first command one of whose patterns fits a word. -/
  | cases (subject : Word) (line : Nat) (branches : List (List Word × Command))
  /-- Gives a command a name. -/
  | define (name : Text) (body : Command)
  /-- Succeeds if the value of an arithmetic expression is not zero. -/
  | reckon (line : Nat) (expression : Text)
  /-- Succeeds if a condition holds. -/
  | trial (line : Nat) (t : Trial)
  /-- Runs a command as long as the value of an expression is not zero, with one expression in front
  of all turns and one behind each. -/
  | steps (line : Nat) (before condition behind : Text) (body : Command)
  deriving Repr

/-- Whether a token can end a list of commands inside of another command. -/
def closesList (c : Cursor) : Bool :=
  match c.token with
  | .closeParen | .doubleSemicolon | .finish => true
  | _ =>
    match c.reserved? with
    | some w =>
      ["\x7d", "then", "else", "elif", "fi", "do", "done", "esac"].any fun closer =>
        w == closer.toList
    | none => false

/-! ## Redirections -/

/-- The text of a word without its quotes, and whether there are none. -/
def plainText (w : Word) : Text × Bool :=
  (w.flatMap fun p =>
    match p with
    | .literal _ t => t
    | _ => [],
    w.all fun p =>
      match p with
      | .literal quoted _ => !quoted
      | _ => true)

/-- Whether a line goes on with the next one, because its end is hidden. -/
def isContinued (line : Text) : Bool :=
  line.getLast? == some '\n' &&
    (line.dropLast.reverse.takeWhile (· == '\\')).length % 2 == 1

/-- The lines up to one that is the delimiter, and the lines behind that one.  With `joining`, the
end of a line may be hidden; `joined` says whether that of the line before is. -/
def documentLines (untabbed joining : Bool) (delimiter : Text) :
    (joined : Bool) → List Text → List Text × List Text
  | _, [] => ([], [])
  | joined, line :: lines =>
    let line := if untabbed && !joined then line.dropWhile fun c => c == '\t' else line
    if Text.chomp line = delimiter && !joined then ([], lines)
    else
      let (inside, rest) :=
        documentLines untabbed joining delimiter (joining && isContinued line) lines
      (line :: inside, rest)

/-- Takes a document from the lines behind the current one. -/
def takeDocument (untabbed : Bool) (delimiter : Word) (r : Reader) : Word × Reader :=
  match Text.terminatedLines r.text with
  | [] => ([], r)
  | current :: lines =>
    let (name, open?) := plainText delimiter
    let (inside, rest) := documentLines untabbed open? name false lines
    let text := inside.flatten
    (if open? then wordInside r.dialect .document text else [.literal true text],
      { r with text := current ++ rest.flatten })

/-- Reads the word behind a redirection. -/
def parseTarget (stream : Nat) (direction : Direction) (c : Cursor) :
    Except Misfit (Redirect × Cursor) :=
  match c.token, direction with
  | .word delimiter, .document untabbed =>
    let (target, rest) := takeDocument untabbed delimiter c.rest
    .ok ({ stream, direction, target }, Cursor.ofReader rest)
  | .word target, _ => .ok ({ stream, direction, target }, c.next)
  | _, _ => unexpected c false none

/-- Reads redirections; `bound` is at least their number. -/
def parseRedirects : (bound : Nat) → Cursor → Except Misfit (List Redirect × Cursor)
  | 0, c => unexpected c false none
  | bound + 1, c =>
    match c.token with
    | .redirect stream direction => do
      let (r, c) ← parseTarget stream direction c.next
      let (rs, c) ← parseRedirects bound c
      return (r :: rs, c)
    | _ => .ok ([], c)

/-! ## Simple commands -/

/-- Whether a text names an element of a list, or is a name. -/
def isPlaceName (d : Dialect) (t : Text) : Bool :=
  isName t ||
    d.isBash && isName (t.takeWhile (· != '[')) && t.contains '[' && t.getLast? == some ']'

/-- The setting that a word gives, if it has the form of one. -/
def setting? (d : Dialect) : Word → Option Setting
  | .literal false t :: rest =>
    match Text.splitFirst '=' t with
    | some (name, value) =>
      let adding := d.isBash && name.getLast? == some '+'
      let name := if adding then name.dropLast else name
      if isPlaceName d name then
        some { name, adding
               content := .value (if value = [] then rest else .literal false value :: rest) }
      else none
    | none => none
  | _ => none

/-- Reads the words of a list up to the parenthesis behind it; `bound` is at least their number. -/
def parseElements : (bound : Nat) → Cursor → Except Misfit (List Word × Cursor)
  | 0, c => unexpected c false none
  | bound + 1, c =>
    match c.token with
    | .word w => do
      let (ws, c) ← parseElements bound c.next
      return (w :: ws, c)
    | .newline => parseElements bound c.next
    | .closeParen => .ok ([], c.next)
    | _ => unexpected c false none

/-- Reads the rest of a simple command; `bound` is at least the number of its tokens.  The lists
of `s` are kept backwards meanwhile. -/
def parseSimple : (bound : Nat) → Simple → Cursor → Except Misfit (Simple × Cursor)
  | 0, _, c => unexpected c false none
  | bound + 1, s, c =>
    match c.token with
    | .word w =>
      match s.words, setting? c.rest.dialect w with
      | [], some given =>
        if given.content = .value [] && c.rest.dialect.isBash && Text.beginsWith c.rest.text ['(']
        then do
          let (ws, c) ← parseElements bound c.next.next
          let given := { given with content := .list ws }
          parseSimple bound { s with settings := given :: s.settings } c
        else parseSimple bound { s with settings := given :: s.settings } c.next
      | _, _ => parseSimple bound { s with words := w :: s.words } c.next
    | .redirect stream direction => do
      let (r, c) ← parseTarget stream direction c.next
      parseSimple bound { s with redirects := r :: s.redirects } c
    | _ =>
      .ok ({ s with
        settings := s.settings.reverse
        words := s.words.reverse
        redirects := s.redirects.reverse }, c)

/-! ## Parts of other commands -/

/-- The text of a word that is a name as it stands. -/
def nameOf? : Word → Option Text
  | [.literal false t] => if isName t then some t else none
  | _ => none

/-- Reads the words of a list that ends with the line or at a semicolon; `bound` is at least their
number. -/
def parseItems : (bound : Nat) → Cursor → Except Misfit (List Word × Cursor)
  | 0, c => unexpected c false none
  | bound + 1, c =>
    match c.token with
    | .word w => do
      let (ws, c) ← parseItems bound c.next
      return (w :: ws, c)
    | .newline | .semicolon => .ok ([], c.next)
    | _ => unexpected c false none

/-- Reads patterns with `|` between them and the parenthesis behind them; `bound` is at least
their number. -/
def parsePatterns : (bound : Nat) → Cursor → Except Misfit (List Word × Cursor)
  | 0, c => unexpected c false none
  | bound + 1, c =>
    match c.token, c.next.token with
    | .word w, .pipe _ => do
      let (ws, c) ← parsePatterns bound c.next.next
      return (w :: ws, c)
    | .word w, .closeParen => .ok ([w], c.next.next)
    | .word _, _ | .finish, _ => unexpected c.next false (some [')'])
    | _, _ => unexpected c false (some "word".toList)

/-! ## Compound commands -/

/-- How a list of commands ends. -/
inductive Extent where
  /-- With the line. -/
  | line
  /-- At a token that closes it, behind at least one command, or at the end of the text. -/
  | part
  /-- At a token that closes it. -/
  | clause
  deriving DecidableEq, Repr

mutual

/-- Reads a list of commands. -/
def parseList : (bound : Nat) → Extent → Cursor → Except Misfit (Command × Cursor)
  | 0, _, c => unexpected c true none
  | bound + 1, extent, c => do
    let c := if extent = .line then c else c.skipNewlines bound
    if extent = .clause && closesList c || extent = .part && c.token = .finish then
      return (.nothing, c)
    let (first, c) ← parseConditional bound c
    let first := if c.token = .ampersand then .background first else first
    match c.token with
    | .semicolon | .ampersand =>
      let c := c.next
      if extent = .line && (c.token = .newline || c.token = .finish) then return (first, c)
      else
        let (second, c) ← parseList bound (if extent = .line then .line else .clause) c
        return (.sequence first second, c)
    | .newline =>
      if extent = .line then return (first, c)
      else
        let (second, c) ← parseList bound .clause c
        return (.sequence first second, c)
    | .finish => return (first, c)
    | _ => if extent = .line then unexpected c false none else return (first, c)

/-- Reads pipelines joined by `&&` and `||`. -/
def parseConditional : (bound : Nat) → Cursor → Except Misfit (Command × Cursor)
  | 0, c => unexpected c true none
  | bound + 1, c => do
    let (first, c) ← parsePipeline bound c
    parseAlternatives bound first c

/-- Reads the pipelines that follow another one behind `&&` and `||`. -/
def parseAlternatives : (bound : Nat) → Command → Cursor → Except Misfit (Command × Cursor)
  | 0, _, c => unexpected c true none
  | bound + 1, first, c => do
    match c.token with
    | .andThen =>
      let (second, c) ← parsePipeline bound (c.next.skipNewlines bound)
      parseAlternatives bound (.both first second) c
    | .orElse =>
      let (second, c) ← parsePipeline bound (c.next.skipNewlines bound)
      parseAlternatives bound (.either first second) c
    | _ => return (first, c)

/-- Reads commands joined by `|`, behind a `!` or not; where there is more to offer, there may be
several of them. -/
def parsePipeline : (bound : Nat) → Cursor → Except Misfit (Command × Cursor)
  | 0, c => unexpected c true none
  | bound + 1, c => do
    if c.isAt "!" then
      let (command, c) ←
        if c.rest.dialect.isBash then parsePipeline bound c.next else parsePipes bound c.next
      return (.negated command, c)
    else parsePipes bound c

/-- Reads commands joined by `|`. -/
def parsePipes : (bound : Nat) → Cursor → Except Misfit (Command × Cursor)
  | 0, c => unexpected c true none
  | bound + 1, c => do
    let (first, c) ← parseCommand bound c
    match c.token with
    | .pipe errors =>
      let (second, d) ← parsePipes bound (c.next.skipNewlines bound)
      let joining : Redirect :=
        { stream := 2, direction := .same, target := [.literal false ['1']] }
      return (.pipe (if errors then .redirected first c.line [joining] else first) second, d)
    | _ => return (first, c)

/-- Reads one command with its redirections. -/
def parseCommand : (bound : Nat) → Cursor → Except Misfit (Command × Cursor)
  | 0, c => unexpected c true none
  | bound + 1, c => do
    match c.reserved?, c.token with
    | none, .word _ | none, .redirect .. =>
      let line := if c.rest.dialect.isBash then c.rest.line else c.line
      let empty : Simple := { line, settings := [], words := [], redirects := [] }
      let (s, d) ← parseSimple bound empty c
      match s.words, s.settings, s.redirects, d.token with
      | [w], [], [], .openParen => parseDefinition bound w d.next
      | _, _, _, _ => return (.simple s, d)
    | _, _ =>
      let (command, d) ← parseCompound bound c
      let (redirects, d) ← parseRedirects bound d
      return (if redirects.isEmpty then command else .redirected command c.line redirects, d)

/-- Reads what follows the name of a command that is defined and the parenthesis behind it. -/
def parseDefinition : (bound : Nat) → Word → Cursor → Except Misfit (Command × Cursor)
  | 0, _, c => unexpected c true none
  | bound + 1, w, c => do
    if c.token ≠ .closeParen then unexpected c false (some [')'])
    else
      match nameOf? w with
      | none => .error (Misfit.plain c.rest.line "Bad function name")
      | some name =>
        let (body, c) ← parseCommand bound (c.next.skipNewlines bound)
        return (.define name body, c)

/-- Reads a command that begins with a reserved word or a parenthesis. -/
def parseCompound : (bound : Nat) → Cursor → Except Misfit (Command × Cursor)
  | 0, c => unexpected c true none
  | bound + 1, c => do
    if c.token = .openParen then
      match c.expression?.filter fun _ => c.isAtExpression with
      | some (expression, d) => return (.reckon c.line expression, d)
      | none =>
        let (body, d) ← parseList bound .part c.next
        if d.token = .closeParen then return (.apart body, d.next)
        else unexpected d true (some [')'])
    else if c.isAt "\x7b" then
      let (body, d) ← parseList bound .part c.next
      return (body, ← expectWord "\x7d" d)
    else if c.isAt "if" then parseChoice bound c.next
    else if c.isAt "while" || c.isAt "until" then
      let (condition, d) ← parseList bound .part c.next
      let (body, d) ← parseList bound .part (← expectWord "do" d)
      return (.loop (c.isAt "until") condition body, ← expectWord "done" d)
    else if c.isAt "for" then
      if c.next.isAtExpression then parseSteps bound c.next else parseEach bound c.next
    else if c.isAt "case" then parseCases bound c.next
    else if c.isAt "[[" then
      let (t, d) ← Trial.parse bound c.next
      return (.trial c.line t, d)
    else if c.isAt "function" then parseFunction bound c.next
    else unexpected c true none

/-- Reads what follows `if` or `elif`. -/
def parseChoice : (bound : Nat) → Cursor → Except Misfit (Command × Cursor)
  | 0, c => unexpected c true none
  | bound + 1, c => do
    let (condition, c) ← parseList bound .part c
    let c ← expectWord "then" c
    let (yes, c) ← parseList bound .part c
    if c.isAt "elif" then
      let (no, c) ← parseChoice bound c.next
      return (.choice condition yes no, c)
    else if c.isAt "else" then
      let (no, c) ← parseList bound .part c.next
      return (.choice condition yes no, ← expectWord "fi" c)
    else return (.choice condition yes .nothing, ← expectWord "fi" c)

/-- Reads what follows `for`. -/
def parseEach : (bound : Nat) → Cursor → Except Misfit (Command × Cursor)
  | 0, c => unexpected c true none
  | bound + 1, c => do
    let named :=
      match c.token with
      | .word w => nameOf? w
      | _ => none
    match named with
    | none => .error (Misfit.plain c.rest.line "Bad for loop variable")
    | some name =>
      let d := c.next.skipNewlines bound
      let (items, d) ←
        if d.isAt "in" then do
          let (items, d) ← parseItems bound d.next
          pure (some items, d)
        else pure (none, if d.token = .semicolon then d.next else d)
      let (body, d) ← parseList bound .part (← expectWord "do" (d.skipNewlines bound))
      return (.each name items c.line body, ← expectWord "done" d)

/-- Reads what follows `for` where turns are counted by expressions. -/
def parseSteps : (bound : Nat) → Cursor → Except Misfit (Command × Cursor)
  | 0, c => unexpected c true none
  | bound + 1, c => do
    match c.expression? with
    | some (expression, d) =>
      let d := if d.token = .semicolon then d.next else d
      let d := d.skipNewlines bound
      let (body, d) ←
        if d.isAt "\x7b" then do
          let (body, d) ← parseList bound .part d.next
          pure (body, ← expectWord "\x7d" d)
        else do
          let (body, d) ← parseList bound .part (← expectWord "do" d)
          pure (body, ← expectWord "done" d)
      match Text.splitOn (· == ';') expression with
      | [before, condition, behind] => return (.steps c.line before condition behind body, d)
      | _ => unexpected c true none
    | none => unexpected c true none

/-- Reads what follows `function`. -/
def parseFunction : (bound : Nat) → Cursor → Except Misfit (Command × Cursor)
  | 0, c => unexpected c true none
  | bound + 1, c => do
    match c.token with
    | .word w =>
      let d := c.next
      let d := if d.token = .openParen && d.next.token = .closeParen then d.next.next else d
      let (body, d) ← parseCommand bound (d.skipNewlines bound)
      return (.define (plainText w).1 body, d)
    | _ => unexpected c false none

/-- Reads what follows `case`. -/
def parseCases : (bound : Nat) → Cursor → Except Misfit (Command × Cursor)
  | 0, c => unexpected c true none
  | bound + 1, c => do
    match c.token with
    | .word subject =>
      let d ← expectWord "in" (c.next.skipNewlines bound)
      let (branches, d) ← parseBranches bound (d.skipNewlines bound)
      return (.cases subject c.line branches, d)
    | _ => unexpected c false (some "word".toList)

/-- Reads patterns with their commands up to `esac`. -/
def parseBranches : (bound : Nat) → Cursor →
    Except Misfit (List (List Word × Command) × Cursor)
  | 0, c => unexpected c true none
  | bound + 1, c => do
    if c.isAt "esac" then return ([], c.next)
    else
      let (patterns, c) ← parsePatterns bound (if c.token = .openParen then c.next else c)
      let (body, c) ← parseList bound .clause c
      if c.token = .doubleSemicolon then
        let (branches, c) ← parseBranches bound (c.next.skipNewlines bound)
        return ((patterns, body) :: branches, c)
      else if c.isAt "esac" then return ([(patterns, body)], c.next)
      else unexpected c true (some [';', ';'])

end

/-- Reads the commands of one line.  At the end of the script there are none. -/
def parseLine (bound : Nat) (c : Cursor) : Except Misfit (Option (Command × Cursor)) :=
  match c.token with
  | .finish => .ok none
  | .newline => .ok (some (.nothing, c))
  | _ => (parseList bound .line c).map some

end Hotkeys.Shell
