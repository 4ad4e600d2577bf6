import Hotkeys.Shell.Dialect
import Hotkeys.Text.Numeral

/-!
# Words

The words of the command language: letters, quoted or not, and the places where a value goes in.
A machine reads a word one character at a time.  What stands inside of braces or parentheses is
kept as it is written; it is read when its value is needed.
-/

set_option autoImplicit false

namespace Hotkeys.Shell

/-! ## Pieces -/

/-- What becomes of the value of a parameter.  Where there is an `ifEmpty`, an empty value counts
as none if it is set. -/
inductive Adjustment where
  /-- It stays, and there are no braces around the name. -/
  | bare
  /-- It stays. -/
  | plain
  /-- The number of its bytes takes its place. -/
  | length
  /-- Another text takes the place of no value. -/
  | fallback (ifEmpty : Bool)
  /-- Another text takes the place of no value and becomes the value. -/
  | assign (ifEmpty : Bool)
  /-- Without a value the script ends. -/
  | require (ifEmpty : Bool)
  /-- Another text takes the place of a value. -/
  | instead (ifEmpty : Bool)
  /-- It loses a beginning of a certain form. -/
  | dropFront (longest : Bool)
  /-- It loses an end of a certain form. -/
  | dropBack (longest : Bool)
  /-- A part of it takes its place, told by a position and a length. -/
  | part
  /-- Parts of a certain form are replaced. -/
  | replace (all : Bool)
  /-- Its letters become capitals or the opposite, the first one or all. -/
  | recase (capital all : Bool)
  /-- It is the name of the parameter whose value is meant. -/
  | indirect
  deriving DecidableEq, Repr

/-- A piece of a word.  What is quoted is not cut at blanks. -/
inductive Piece where
  /-- A text that stands for itself. -/
  | literal (quoted : Bool) (text : Text)
  /-- The value of a parameter; `other` is the text that its adjustment needs. -/
  | parameter (quoted : Bool) (name : Text) (adjustment : Adjustment) (other : Text)
  /-- What a script writes, whose first line is the given one. -/
  | output (quoted : Bool) (line : Nat) (script : Text)
  /-- The value of an arithmetic expression. -/
  | number (quoted : Bool) (expression : Text)
  /-- A parameter in braces that has no meaning. -/
  | meaningless (inner : Text)
  deriving DecidableEq, Repr

/-- A word, as its pieces. -/
abbrev Word := List Piece

/-- Whether a character can begin a name. -/
def beginsName (c : Char) : Bool :=
  c.isAlpha || c == '_'

/-- Whether a text is a name. -/
def isName (t : Text) : Bool :=
  match t with
  | [] => false
  | c :: cs => beginsName c && cs.all Text.isAsciiWord

/-- Whether a character is a parameter by itself. -/
def isSpecial (c : Char) : Bool :=
  c.isDigit || "#@*?$!-".toList.contains c

/-- Whether a character ends a word that is not quoted. -/
def endsWord (c : Char) : Bool :=
  " \t\n;&|<>()".toList.contains c

/-- The mark around a script whose output goes into a word. -/
def tick : Char := '\x60'

/-! ## Braces -/

/-- The adjustment that a text behind the name of a parameter asks for in every dialect, and what
follows it. -/
def plainAdjustment? : Text → Option (Adjustment × Text)
  | [] => some (.plain, [])
  | ':' :: '-' :: other => some (.fallback true, other)
  | '-' :: other => some (.fallback false, other)
  | ':' :: '=' :: other => some (.assign true, other)
  | '=' :: other => some (.assign false, other)
  | ':' :: '?' :: other => some (.require true, other)
  | '?' :: other => some (.require false, other)
  | ':' :: '+' :: other => some (.instead true, other)
  | '+' :: other => some (.instead false, other)
  | '#' :: '#' :: other => some (.dropFront true, other)
  | '#' :: other => some (.dropFront false, other)
  | '%' :: '%' :: other => some (.dropBack true, other)
  | '%' :: other => some (.dropBack false, other)
  | _ => none

/-- The adjustment that a text behind the name of a parameter asks for, and what follows it. -/
def adjustment? (d : Dialect) (t : Text) : Option (Adjustment × Text) :=
  plainAdjustment? t <|>
    match d, t with
    | .bash, ':' :: other => some (.part, other)
    | .bash, '/' :: '/' :: other => some (.replace true, other)
    | .bash, '/' :: other => some (.replace false, other)
    | .bash, '^' :: '^' :: other => some (.recase true true, other)
    | .bash, '^' :: other => some (.recase true false, other)
    | .bash, ',' :: ',' :: other => some (.recase false true, other)
    | .bash, ',' :: other => some (.recase false false, other)
    | _, _ => none

/-- The brackets behind the name of a list, and what follows them; `depth` counts brackets
inside. -/
def subscript? (depth : Nat) : Text → Option (Text × Text)
  | [] => none
  | c :: cs =>
    let add (r : Text × Text) : Text × Text := (c :: r.1, r.2)
    if c = '[' then (subscript? (depth + 1) cs).map add
    else if c = ']' then
      match depth with
      | 0 => none
      | 1 => some ([c], cs)
      | depth + 1 => (subscript? depth cs).map add
    else if depth = 0 then none
    else (subscript? depth cs).map add

/-- The name of a parameter at the beginning of a text, and what follows it. -/
def parameterName? (d : Dialect) : Text → Option (Text × Text)
  | [] => none
  | c :: cs =>
    if beginsName c then
      let name := c :: cs.takeWhile Text.isAsciiWord
      let rest := cs.dropWhile Text.isAsciiWord
      match (subscript? 0 rest).filter fun _ => d.isBash with
      | some (subscript, rest) => some (name ++ subscript, rest)
      | none => some (name, rest)
    else if c.isDigit then some (c :: cs.takeWhile Char.isDigit, cs.dropWhile Char.isDigit)
    else if isSpecial c then some ([c], cs)
    else none

/-- The piece of a parameter in braces. -/
def bracedPiece (d : Dialect) (quoted : Bool) (inner : Text) : Piece :=
  let named (t : Text) : Option Text :=
    match parameterName? d t with
    | some (name, []) => some name
    | _ => none
  match d, inner with
  | _, '#' :: c :: rest =>
    match named (c :: rest) with
    | some name => .parameter quoted name .length []
    | none =>
      match adjustment? d (c :: rest) with
      | some (adjustment, other) => .parameter quoted ['#'] adjustment other
      | none => .meaningless inner
  | .bash, '!' :: c :: rest =>
    match named (c :: rest) with
    | some name => .parameter quoted name .indirect []
    | none => .meaningless inner
  | _, _ =>
    match parameterName? d inner with
    | none => .meaningless inner
    | some (name, rest) =>
      match adjustment? d rest with
      | some (adjustment, other) => .parameter quoted name adjustment other
      | none => .meaningless inner

/-! ## Writing -/

/-- The sign of an adjustment behind the name of a parameter. -/
def Adjustment.sign : Adjustment → String
  | .bare | .plain | .length | .indirect => ""
  | .fallback ifEmpty => if ifEmpty then ":-" else "-"
  | .assign ifEmpty => if ifEmpty then ":=" else "="
  | .require ifEmpty => if ifEmpty then ":?" else "?"
  | .instead ifEmpty => if ifEmpty then ":+" else "+"
  | .dropFront longest => if longest then "##" else "#"
  | .dropBack longest => if longest then "%%" else "%"
  | .part => ":"
  | .replace all => if all then "//" else "/"
  | .recase capital all =>
    match capital, all with
    | true, true => "^^"
    | true, false => "^"
    | false, true => ",,"
    | false, false => ","

namespace Piece

/-- Whether a piece stands in quotes. -/
def isQuoted : Piece → Bool
  | .literal quoted _ | .parameter quoted .. | .output quoted .. | .number quoted _ => quoted
  | .meaningless _ => false

/-- A piece as it is written inside of quotes. -/
def written : Piece → Text
  | .literal _ t => t
  | .parameter _ name .bare _ => '$' :: name
  | .parameter _ name .length _ => "$\x7b#".toList ++ name ++ ['}']
  | .parameter _ name .indirect _ => "$\x7b!".toList ++ name ++ ['}']
  | .parameter _ name adjustment other =>
    "$\x7b".toList ++ name ++ adjustment.sign.toList ++ other ++ ['}']
  | .output _ _ script => "$(".toList ++ script ++ [')']
  | .number _ expression => "$((".toList ++ expression ++ "))".toList
  | .meaningless inner => "$\x7b".toList ++ inner ++ ['}']

end Piece

/-- A word as it is written behind a piece that is `quoted` or not. -/
def writtenBehind (quoted : Bool) : Word → Text
  | [] => if quoted then ['"'] else []
  | p :: ps =>
    (if quoted = p.isQuoted then [] else ['"']) ++ p.written ++ writtenBehind p.isQuoted ps

/-- A word as it is written, with one kind of quotes. -/
def writtenWord (w : Word) : Text :=
  writtenBehind false w

/-! ## Drafts -/

/-- A word in the making.  Everything is kept backwards. -/
structure Draft where
  /-- The pieces that are complete. -/
  pieces : List Piece
  /-- The literal that is still growing, and whether it is quoted. -/
  growing : Option (Bool × Text)
  deriving DecidableEq, Repr

namespace Draft

/-- Nothing yet. -/
def empty : Draft :=
  { pieces := [], growing := none }

/-- The draft with its literal complete. -/
def close (d : Draft) : Draft :=
  match d.growing with
  | none => d
  | some (quoted, t) => { pieces := .literal quoted t.reverse :: d.pieces, growing := none }

/-- The draft with one more character. -/
def add (d : Draft) (quoted : Bool) (c : Char) : Draft :=
  match d.growing with
  | some (q, t) =>
    if q = quoted then { d with growing := some (q, c :: t) }
    else { d.close with growing := some (quoted, [c]) }
  | none => { d with growing := some (quoted, [c]) }

/-- The draft with one more piece. -/
def push (d : Draft) (p : Piece) : Draft :=
  { pieces := p :: d.close.pieces, growing := none }

/-- The word. -/
def word (d : Draft) : Word :=
  d.close.pieces.reverse

end Draft

/-! ## Nested text -/

/-- Where the inside of braces is being read: how many more braces and parentheses are open, and in
which quotes it is. -/
structure BraceScan where
  /-- The braces. -/
  depth : Nat
  /-- The parentheses. -/
  parens : Nat
  /-- The quotes. -/
  quotes : Option Char
  deriving DecidableEq, Repr

namespace BraceScan

/-- At the beginning. -/
def start : BraceScan :=
  { depth := 0, parens := 0, quotes := none }

/-- Behind a character, with the one before it; `none` if it is the brace that closes the whole.
Single quotes are no quotes if the whole is `quoted`. -/
def next? (b : BraceScan) (quoted : Bool) (before : Option Char) (c : Char) : Option BraceScan :=
  match b.quotes with
  | some q => some { b with quotes := if c = q then none else b.quotes }
  | none =>
    if c = '"' || c = tick || c = '\'' && !quoted then some { b with quotes := some c }
    else if c = '(' && (before = some '$' || b.parens ≠ 0) then
      some { b with parens := b.parens + 1 }
    else if b.parens ≠ 0 then some { b with parens := if c = ')' then b.parens - 1 else b.parens }
    else if c = '{' && before = some '$' then some { b with depth := b.depth + 1 }
    else if c = '}' then if b.depth = 0 then none else some { b with depth := b.depth - 1 }
    else some b

end BraceScan

/-- Where a script in parentheses is being read.  Parentheses behind the patterns of a choice close
nothing, so choices are followed. -/
structure ScriptScan where
  /-- How many more parentheses are open. -/
  depth : Nat
  /-- The parentheses that were open where the choices around it began, innermost first. -/
  choices : List Nat
  /-- The quotes that it is in. -/
  quotes : Option Char
  /-- The word that it is in, kept backwards, as far as it is not quoted. -/
  word : Text
  /-- Whether a command can begin with the word. -/
  starts : Bool
  /-- Whether it is in a comment. -/
  comment : Bool
  deriving DecidableEq, Repr

namespace ScriptScan

/-- At the beginning. -/
def start : ScriptScan :=
  { depth := 0, choices := [], quotes := none, word := [], starts := true, comment := false }

/-- The words that another command may follow. -/
def openers : List Text :=
  ["then", "do", "else", "elif", "if", "while", "until", "!", "\x7b"].map String.toList

/-- Behind the word that it is in. -/
def endWord (s : ScriptScan) : ScriptScan :=
  let word := s.word.reverse
  if word.isEmpty then s
  else if s.starts && word = "case".toList then
    { s with choices := s.depth :: s.choices, word := [], starts := false }
  else if s.starts && word = "esac".toList then
    { s with choices := s.choices.drop 1, word := [], starts := true }
  else { s with word := [], starts := s.starts && openers.contains word || word = "in".toList }

/-- Behind a character that is not quoted; `none` if it is the parenthesis that closes the
whole. -/
def nextBare? (s : ScriptScan) (c : Char) : Option ScriptScan :=
  if s.comment then some { s with comment := c != '\n' }
  else if c = '#' && s.word.isEmpty then some { s with comment := true }
  else if endsWord c then
    let s := s.endWord
    if c = '(' then some { s with depth := s.depth + 1, starts := true }
    else if c = ')' then
      if s.choices.head? = some s.depth then some { s with starts := true }
      else if s.depth = 0 then none
      else some { s with depth := s.depth - 1, starts := true }
    else some { s with starts := s.starts || "\n;&|".toList.contains c }
  else if c = '"' || c = '\'' || c = tick then
    some { s with quotes := some c, word := c :: s.word }
  else some { s with word := c :: s.word }

/-- Behind a character; `none` if it is the parenthesis that closes the whole. -/
def next? (s : ScriptScan) (c : Char) : Option ScriptScan :=
  match s.quotes with
  | some q => some { s with quotes := if c = q then none else s.quotes }
  | none => s.nextBare? c

/-- Whether a backslash hides the next character. -/
def escapes (s : ScriptScan) : Bool :=
  s.quotes != some '\'' && !s.comment

end ScriptScan

namespace ScriptScan

/-- Behind a text; `none` if a parenthesis in it closes the whole. -/
def past (s : ScriptScan) : Text → Option ScriptScan
  | [] => some s
  | '\\' :: c :: cs =>
    if s.escapes then past { s with word := '\\' :: s.word } cs
    else (s.next? '\\').bind fun s => s.past (c :: cs)
  | c :: cs => (s.next? c).bind fun s => s.past cs

end ScriptScan

/-! ## Reading -/

/-- What the machine is inside of. -/
inductive Mode where
  /-- Nothing. -/
  | bare
  /-- Single quotes, with nothing in them yet or not. -/
  | single (fresh : Bool)
  /-- Double quotes, with nothing in them yet or not. -/
  | double (fresh : Bool)
  /-- Single quotes in which escapes have a meaning, with what they hold, kept backwards. -/
  | dressed (chars : Text)
  /-- The character behind a backslash in such quotes. -/
  | dressedEscape (chars : Text)
  /-- The character behind a backslash, in double quotes or not. -/
  | escape (quoted : Bool)
  /-- The character behind a dollar sign. -/
  | dollar (quoted : Bool)
  /-- The name of a parameter, kept backwards. -/
  | name (quoted : Bool) (chars : Text)
  /-- A parameter in braces, kept backwards. -/
  | braces (quoted : Bool) (scan : BraceScan) (chars : Text)
  /-- The character behind a backslash in braces. -/
  | bracesEscape (quoted : Bool) (scan : BraceScan) (chars : Text)
  /-- A script in parentheses that began on a line, kept backwards. -/
  | script (quoted : Bool) (line : Nat) (scan : ScriptScan) (chars : Text)
  /-- The character behind a backslash in a script. -/
  | scriptEscape (quoted : Bool) (line : Nat) (scan : ScriptScan) (chars : Text)
  /-- An arithmetic expression, kept backwards, inside of `depth` parentheses. -/
  | number (quoted : Bool) (depth : Nat) (chars : Text)
  /-- An arithmetic expression behind the first of its two closing parentheses. -/
  | numberEnd (quoted : Bool) (chars : Text)
  /-- A script between ticks, kept backwards. -/
  | ticks (quoted : Bool) (line : Nat) (chars : Text)
  /-- The character behind a backslash between ticks. -/
  | ticksEscape (quoted : Bool) (line : Nat) (chars : Text)
  deriving DecidableEq, Repr

/-- What becomes of a character. -/
inductive Step where
  /-- It belongs to the word. -/
  | goOn (mode : Mode) (draft : Draft)
  /-- The word ends before it. -/
  | stop (draft : Draft)
  deriving DecidableEq, Repr

/-- The mode around a value. -/
def outer (quoted : Bool) : Mode :=
  if quoted then .double false else .bare

/-- Reads a character outside of quotes. -/
def stepBare (line : Nat) (d : Draft) (c : Char) : Step :=
  if endsWord c then .stop d
  else if c = '\'' then .goOn (.single true) d
  else if c = '"' then .goOn (.double true) d
  else if c = '\\' then .goOn (.escape false) d
  else if c = '$' then .goOn (.dollar false) d
  else if c = tick then .goOn (.ticks false line []) d
  else .goOn .bare (d.add false c)

/-- The draft after quotes were closed; empty quotes leave an empty literal. -/
def closeQuotes (fresh : Bool) (d : Draft) : Draft :=
  if fresh then d.push (.literal true []) else d

/-- Reads a character in double quotes. -/
def stepDouble (fresh : Bool) (line : Nat) (d : Draft) (c : Char) : Step :=
  if c = '"' then .goOn .bare (closeQuotes fresh d)
  else if c = '\\' then .goOn (.escape true) d
  else if c = '$' then .goOn (.dollar true) d
  else if c = tick then .goOn (.ticks true line []) d
  else .goOn (.double false) (d.add true c)

/-- Reads a character that no value takes. -/
def stepOuter (quoted : Bool) (line : Nat) (d : Draft) (c : Char) : Step :=
  if quoted then stepDouble false line d c else stepBare line d c

/-- Reads a character behind a dollar sign. -/
def stepDollar (dialect : Dialect) (quoted : Bool) (line : Nat) (d : Draft) (c : Char) : Step :=
  if beginsName c then .goOn (.name quoted [c]) d
  else if isSpecial c then .goOn (outer quoted) (d.push (.parameter quoted [c] .bare []))
  else if c = '{' then .goOn (.braces quoted BraceScan.start []) d
  else if c = '(' then .goOn (.script quoted line ScriptScan.start []) d
  else if dialect.isBash && !quoted && c = '\'' then .goOn (.dressed []) d
  else if dialect.isBash && !quoted && c = '"' then .goOn (.double true) d
  else stepOuter quoted line (d.add quoted '$') c

/-- Reads a character of a script in parentheses.  A second parenthesis at its beginning makes it
an arithmetic expression. -/
def stepScript (quoted : Bool) (line : Nat) (scan : ScriptScan) (chars : Text) (d : Draft)
    (c : Char) : Step :=
  if c = '(' && chars.isEmpty then .goOn (.number quoted 0 []) d
  else if c = '\\' && scan.escapes then
    .goOn (.scriptEscape quoted line { scan with word := c :: scan.word } (c :: chars)) d
  else
    match scan.next? c with
    | some scan => .goOn (.script quoted line scan (c :: chars)) d
    | none => .goOn (outer quoted) (d.push (.output quoted line chars.reverse))

/-- Reads a character of a parameter in braces. -/
def stepBraces (dialect : Dialect) (quoted : Bool) (scan : BraceScan) (chars : Text) (d : Draft)
    (c : Char) : Step :=
  if c = '\\' && scan.quotes != some '\'' then .goOn (.bracesEscape quoted scan (c :: chars)) d
  else
    match scan.next? quoted chars.head? c with
    | some scan => .goOn (.braces quoted scan (c :: chars)) d
    | none => .goOn (outer quoted) (d.push (bracedPiece dialect quoted chars.reverse))

/-- Reads a character of an arithmetic expression. -/
def stepNumber (quoted : Bool) (depth : Nat) (chars : Text) (d : Draft) (c : Char) : Step :=
  if c = '(' then .goOn (.number quoted (depth + 1) (c :: chars)) d
  else if c = ')' then
    match depth with
    | 0 => .goOn (.numberEnd quoted chars) d
    | depth + 1 => .goOn (.number quoted depth (c :: chars)) d
  else .goOn (.number quoted depth (c :: chars)) d

/-- What the letters mean behind a backslash in quotes in which escapes have a meaning. -/
def dressedLetters : List (Char × Char) :=
  [('n', '\n'), ('t', '\t'), ('r', '\r'), ('a', '\x07'), ('b', '\x08'), ('e', '\x1b'),
    ('E', '\x1b'), ('f', '\x0c'), ('v', '\x0b'), ('\\', '\\'), ('\'', '\''), ('"', '"'),
    ('?', '?')]

/-- The text of quotes in which escapes have a meaning; `bound` is at least its length. -/
def undress : (bound : Nat) → Text → Text
  | 0, t => t
  | _, [] => []
  | bound + 1, '\\' :: c :: cs =>
    let coded (base most : Nat) (cs : Text) (isDigit : Char → Bool) (whole : Text) : Text :=
      let digits := (cs.take most).takeWhile isDigit
      match Text.numeral? base digits with
      | some n => Char.ofNat n :: undress bound (cs.drop digits.length)
      | none => whole ++ undress bound cs
    let isOctal (c : Char) : Bool := decide ('0' ≤ c) && decide (c ≤ '7')
    let isHex (c : Char) : Bool := c.isDigit || "abcdefABCDEF".toList.contains c
    match (dressedLetters.find? fun l => l.1 == c), c with
    | some (_, meant), _ => meant :: undress bound cs
    | none, 'x' => coded 16 2 cs isHex ['\\', 'x']
    | none, 'u' => coded 16 4 cs isHex ['\\', 'u']
    | none, 'U' => coded 16 8 cs isHex ['\\', 'U']
    | none, _ =>
      if isOctal c then coded 8 3 (c :: cs) isOctal ['\\'] else '\\' :: c :: undress bound cs
  | bound + 1, c :: cs => c :: undress bound cs

/-- Reads a character. -/
def step (dialect : Dialect) (m : Mode) (line : Nat) (d : Draft) (c : Char) : Step :=
  match m with
  | .bare => stepBare line d c
  | .single fresh =>
    if c = '\'' then .goOn .bare (closeQuotes fresh d) else .goOn (.single false) (d.add true c)
  | .double fresh => stepDouble fresh line d c
  | .dressed chars =>
    if c = '\'' then
      .goOn .bare (d.push (.literal true (undress (chars.length + 1) chars.reverse)))
    else if c = '\\' then .goOn (.dressedEscape (c :: chars)) d
    else .goOn (.dressed (c :: chars)) d
  | .dressedEscape chars => .goOn (.dressed (c :: chars)) d
  | .escape false => .goOn .bare (if c = '\n' then d else d.add true c)
  | .escape true =>
    if c = '\n' then .goOn (.double false) d
    else if "$\"\\".toList.contains c || c == tick then .goOn (.double false) (d.add true c)
    else .goOn (.double false) ((d.add true '\\').add true c)
  | .dollar quoted => stepDollar dialect quoted line d c
  | .name quoted chars =>
    if Text.isAsciiWord c then .goOn (.name quoted (c :: chars)) d
    else stepOuter quoted line (d.push (.parameter quoted chars.reverse .bare [])) c
  | .braces quoted scan chars => stepBraces dialect quoted scan chars d c
  | .bracesEscape quoted scan chars => .goOn (.braces quoted scan (c :: chars)) d
  | .script quoted first scan chars => stepScript quoted first scan chars d c
  | .scriptEscape quoted first scan chars => .goOn (.script quoted first scan (c :: chars)) d
  | .number quoted depth chars => stepNumber quoted depth chars d c
  | .numberEnd quoted chars =>
    if c = ')' then .goOn (outer quoted) (d.push (.number quoted chars.reverse))
    else
      match ScriptScan.start.past ('(' :: chars.reverse ++ [')']), dialect with
      | some scan, .bash => stepScript quoted line scan (')' :: chars ++ ['(']) d c
      | _, _ => .goOn (.number quoted 0 (c :: ')' :: chars)) d
  | .ticks quoted first chars =>
    if c = tick then
      .goOn (outer quoted)
        (d.push (.output quoted (if dialect.isBash then first else 1) chars.reverse))
    else if c = '\\' then .goOn (.ticksEscape quoted first chars) d
    else .goOn (.ticks quoted first (c :: chars)) d
  | .ticksEscape quoted first chars =>
    if "$\\".toList.contains c || c == tick then .goOn (.ticks quoted first (c :: chars)) d
    else .goOn (.ticks quoted first (c :: '\\' :: chars)) d

/-- The word at the end of the text, or what is missing there. -/
def finishWord (dialect : Dialect) (m : Mode) (d : Draft) : Except Text Word :=
  let missing (closer : Text) (complaint : String) : Except Text Word :=
    match dialect with
    | .plain => .error complaint.toList
    | .bash =>
      .error ("unexpected EOF while looking for matching \x60".toList ++ closer ++ ['\''])
  match m with
  | .bare => .ok d.word
  | .name false chars => .ok (d.push (.parameter false chars.reverse .bare [])).word
  | .dollar false => .ok (d.add false '$').word
  | .escape false => .ok (d.add true '\\').word
  | .braces .. | .bracesEscape .. => missing ['\x7d'] "Missing '\x7d'"
  | .script .. | .scriptEscape .. => missing [')'] "end of file unexpected (expecting \")\")"
  | .number .. | .numberEnd .. => missing [')'] "Missing '))'"
  | .ticks .. | .ticksEscape .. => missing [tick] "EOF in backquote substitution"
  | .single _ | .dressed _ | .dressedEscape _ => missing ['\''] "Unterminated quoted string"
  | _ => missing ['"'] "Unterminated quoted string"

/-- A text that is being read, and the line that it goes on with. -/
structure Reader where
  /-- The dialect that it is in. -/
  dialect : Dialect
  /-- What is left. -/
  text : Text
  /-- The line of its first character, counted from one. -/
  line : Nat
  deriving DecidableEq, Repr

/-- The line behind a character. -/
def lineAfter (line : Nat) (c : Char) : Nat :=
  if c = '\n' then line + 1 else line

/-- Reads a word to its end. -/
def readWord (dialect : Dialect) (m : Mode) (d : Draft) (line : Nat) :
    Text → Except Text Word × Reader
  | [] => (finishWord dialect m d, { dialect, text := [], line })
  | c :: cs =>
    match step dialect m line d c with
    | .goOn m d => readWord dialect m d (lineAfter line c) cs
    | .stop d => (.ok d.word, { dialect, text := c :: cs, line })

/-- What is around a text that is read as the inside of a word. -/
inductive Around where
  /-- Nothing. -/
  | nothing
  /-- Double quotes. -/
  | quotes
  /-- A document, in which double quotes stand for themselves. -/
  | document
  deriving DecidableEq, Repr

/-- What is around the inside of a word that is in double quotes or not. -/
def Around.ofQuoted (quoted : Bool) : Around :=
  if quoted then .quotes else .nothing

/-- Reads a double quote that stands for itself, if that is what one means in a mode. -/
def plainQuote? (m : Mode) (d : Draft) : Option Draft :=
  match m with
  | .double _ => some (d.add true '"')
  | .escape true => some ((d.add true '\\').add true '"')
  | .dollar true => some ((d.add true '$').add true '"')
  | .name true chars => some ((d.push (.parameter true chars.reverse .bare [])).add true '"')
  | _ => none

/-- Reads a text as the inside of a word.  Nothing ends the word early, quotes do not end double
quotes around the whole, and what is left open is closed. -/
def readInside (dialect : Dialect) (around : Around) (m : Mode) (d : Draft) : Text → Word
  | [] =>
    match m with
    | .name q chars => (d.push (.parameter q chars.reverse .bare [])).word
    | .dollar q => (d.add q '$').word
    | _ => d.word
  | c :: cs =>
    match (plainQuote? m d).filter fun _ => c = '"' && around = .document with
    | some d => readInside dialect around (.double false) d cs
    | none =>
      match step dialect m 1 d c with
      | .goOn .bare d => readInside dialect around (outer (around != .nothing)) d cs
      | .goOn m d => readInside dialect around m d cs
      | .stop d => readInside dialect around .bare (d.add false c) cs

/-- The word that a text is as the inside of another one. -/
def wordInside (dialect : Dialect) (around : Around) (t : Text) : Word :=
  readInside dialect around (outer (around != .nothing)) Draft.empty t

end Hotkeys.Shell
