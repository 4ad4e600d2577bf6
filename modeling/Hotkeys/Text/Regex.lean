import Hotkeys.Text.CharSet
import Hotkeys.Text.Numeral

/-!
# Regular expressions

The expressions that lines are searched for, in the basic and in the extended way of writing them.
A text is read into marks, marks into an expression, and the expression is looked for in a text:
the first place counts, and there the longest match.
-/

set_option autoImplicit false

namespace Hotkeys.Text

/-! ## Expressions -/

/-- A place between two letters, one of which may belong to a word. -/
inductive Edge where
  /-- A word begins. -/
  | opening
  /-- A word ends. -/
  | closing
  /-- A word begins or ends. -/
  | either
  /-- No word begins or ends. -/
  | none
  /-- No word goes on from before. -/
  | after
  /-- No word goes on. -/
  | before
  deriving DecidableEq, Repr

/-- Whether a place is between letters that belong to words or not. -/
def Edge.isBetween (e : Edge) (before behind : Bool) : Bool :=
  match e with
  | .opening => !before && behind
  | .closing => before && !behind
  | .either => before != behind
  | .none => before == behind
  | .after => !before
  | .before => !behind

/-- A regular expression. -/
inductive Regex where
  /-- Nothing. -/
  | nothing
  /-- A letter. -/
  | letter (c : Char)
  /-- Any letter. -/
  | any
  /-- Any letter of a set, or any letter outside of it. -/
  | oneOf (outside : Bool) (parts : List SetPart)
  /-- The beginning of the text. -/
  | start
  /-- The end of the text. -/
  | finish
  /-- A place where words begin or end, or where they do not. -/
  | edge (e : Edge)
  /-- One expression and then another one. -/
  | sequence (first second : Regex)
  /-- One of two expressions. -/
  | either (first second : Regex)
  /-- An expression several times. -/
  | repeated (r : Regex) (least : Nat) (most : Option Nat)
  /-- An expression whose match is remembered under a number. -/
  | group (number : Nat) (r : Regex)
  /-- What is remembered under a number. -/
  | again (number : Nat)
  deriving DecidableEq, Repr

/-- Why a text is no regular expression. -/
inductive RegexFault where
  /-- A bracket is not closed. -/
  | bracket
  /-- A parenthesis is not closed. -/
  | opened
  /-- A parenthesis closes nothing. -/
  | closed
  /-- A brace is not closed. -/
  | brace
  /-- The numbers in braces make no sense. -/
  | bounds
  /-- There is nothing to repeat. -/
  | preceding
  /-- A backslash stands at the end. -/
  | trailing
  /-- Nothing is remembered under the number. -/
  | number
  deriving DecidableEq, Repr

/-- What is wrong with a regular expression. -/
def RegexFault.message : RegexFault → String
  | .bracket => "Unmatched [, [^, [:, [., or [="
  | .opened => "Unmatched ( or \\("
  | .closed => "Unmatched ) or \\)"
  | .brace => "Unmatched \x7b or \\\x7b"
  | .bounds => "Invalid content of \\\x7b\\\x7d"
  | .preceding => "Invalid preceding regular expression"
  | .trailing => "Trailing backslash"
  | .number => "Invalid back reference"

namespace Regex

/-- A way of writing expressions. -/
inductive Way where
  /-- Operators stand behind a backslash, and what cannot be one is a letter. -/
  | basic
  /-- Operators stand by themselves and must have something to work on.  A parenthesis that closes
  nothing is a letter. -/
  | extended
  /-- As the extended one, but each parenthesis must close something. -/
  | strict
  /-- As the extended one, but an operator that has nothing to work on does not count. -/
  | patient
  deriving DecidableEq, Repr

/-- Whether operators stand by themselves. -/
def Way.isExtended (way : Way) : Bool :=
  way != .basic

/-! ## Marks -/

/-- A mark of a regular expression. -/
inductive Mark where
  /-- An expression without parts. -/
  | single (r : Regex)
  /-- The beginning of a group. -/
  | opening
  /-- The end of a group. -/
  | closing
  /-- The sign between two choices. -/
  | bar
  /-- How often the expression before it is repeated. -/
  | times (least : Nat) (most : Option Nat)
  deriving DecidableEq, Repr

/-- What a letter stands for behind a backslash, where it is neither an operator nor a number. -/
def escaped (c : Char) : Regex :=
  let word : List SetPart := [.ofClass "alnum".toList, .range '_' '_']
  let space : List SetPart := [.ofClass "space".toList]
  if c = 'w' then .oneOf false word
  else if c = 'W' then .oneOf true word
  else if c = 's' then .oneOf false space
  else if c = 'S' then .oneOf true space
  else if c = '<' then .edge .opening
  else if c = '>' then .edge .closing
  else if c = 'b' then .edge .either
  else if c = 'B' then .edge .none
  else if c = '\x60' then .start
  else if c = '\'' then .finish
  else .letter c

/-- The numbers between braces: at least and at most how often something is repeated. -/
def bounds? (t : Text) : Option (Nat × Option Nat) :=
  match splitFirst ',' t with
  | none => (numeral? 10 t).map fun n => (n, some n)
  | some (least, []) => (numeral? 10 least).map fun n => (n, none)
  | some (least, most) =>
    match if least.isEmpty then some 0 else numeral? 10 least, numeral? 10 most with
    | some least, some most => if most < least then none else some (least, some most)
    | _, _ => none

/-- The text up to a closing brace, as it is written, and what follows it. -/
def untilBrace (extended : Bool) : Text → Option (Text × Text)
  | [] => none
  | '\\' :: '\x7d' :: cs => if extended then none else some ([], cs)
  | c :: cs =>
    if c = '\x7d' && extended then some ([], cs)
    else (untilBrace extended cs).map fun r => (c :: r.1, r.2)

/-- The set behind an opening bracket, and what follows it. -/
def set? (t : Text) : Option (Regex × Text) :=
  let (outside, letters) : Bool × Text :=
    match t with
    | '^' :: cs => (true, cs)
    | cs => (false, cs)
  (setParts (letters.length + 1) true (letters.map fun c => (false, c))).map fun r =>
    (.oneOf outside r.1, r.2.map Prod.snd)

/-- Whether an expression can begin behind a mark: at the start, in a group or behind a bar. -/
def isFresh : Option Mark → Bool
  | none | some .opening | some .bar => true
  | _ => false

/-- Whether an expression ends in front of a basic text. -/
def endsBefore (t : Text) : Bool :=
  t.isEmpty || beginsWith t "\\)".toList || beginsWith t "\\|".toList

/-- The marks of a text, behind another mark; `bound` is at least its length. -/
def marks (way : Way) : (bound : Nat) → Option Mark → Text → Except RegexFault (List Mark)
  | 0, _, _ => .ok []
  | _, _, [] => .ok []
  | bound + 1, before, c :: cs => do
    let go (m : Mark) (rest : Text) : Except RegexFault (List Mark) := do
      return m :: (← marks way bound (some m) rest)
    let letter (c : Char) (rest : Text) := go (.single (.letter c)) rest
    let isUseless := isFresh before || before == some (.single .start) && way != .patient
    let repetition (m : Mark) (c : Char) (rest : Text) :=
      if !isUseless then go m rest
      else
        match way with
        | .basic => letter c rest
        | .patient => marks way bound before rest
        | _ => .error .preceding
    let braced (rest : Text) : Except RegexFault (List Mark) :=
      match untilBrace way.isExtended rest with
      | none => if way = .patient then letter '\x7b' rest else .error .brace
      | some (inside, behind) =>
        match bounds? inside with
        | some (least, most) => repetition (.times least most) '\x7b' behind
        | none => if way = .patient then letter '\x7b' rest else .error .bounds
    match way.isExtended, c, cs with
    | _, '[', _ =>
      match set? cs with
      | some (r, rest) => go (.single r) rest
      | none => .error .bracket
    | _, '.', _ => go (.single .any) cs
    | _, '*', _ => repetition (.times 0 none) '*' cs
    | true, '+', _ => repetition (.times 1 none) '+' cs
    | true, '?', _ => repetition (.times 0 (some 1)) '?' cs
    | true, '(', _ => go .opening cs
    | true, ')', _ => go .closing cs
    | true, '|', _ => go .bar cs
    | true, '\x7b', _ => braced cs
    | true, '^', _ => go (.single .start) cs
    | true, '$', _ => go (.single .finish) cs
    | false, '^', _ => if isFresh before then go (.single .start) cs else letter '^' cs
    | false, '$', _ => if endsBefore cs then go (.single .finish) cs else letter '$' cs
    | _, '\\', [] => .error .trailing
    | false, '\\', '(' :: rest => go .opening rest
    | false, '\\', ')' :: rest => go .closing rest
    | false, '\\', '|' :: rest => go .bar rest
    | false, '\\', '\x7b' :: rest => braced rest
    | false, '\\', '+' :: rest => repetition (.times 1 none) '+' rest
    | false, '\\', '?' :: rest => repetition (.times 0 (some 1)) '?' rest
    | _, '\\', 'n' :: rest => letter '\n' rest
    | _, '\\', 't' :: rest => letter '\t' rest
    | _, '\\', d :: rest =>
      if d.isDigit && d != '0' then go (.single (.again (d.toNat - '0'.toNat))) rest
      else go (.single (escaped d)) rest
    | _, c, _ => letter c cs

/-! ## Reading -/

mutual

/-- Reads choices, the first of whose groups has a number: the expression, the number of the next
group, and what follows. -/
def readChoices : (bound : Nat) → (number : Nat) → List Mark →
    Except RegexFault (Regex × Nat × List Mark)
  | 0, _, _ => .error .opened
  | bound + 1, number, ms => do
    let (first, number, ms) ← readSequence bound number ms
    match ms with
    | .bar :: rest =>
      let (second, number, rest) ← readChoices bound number rest
      return (.either first second, number, rest)
    | _ => return (first, number, ms)

/-- Reads expressions that follow each other. -/
def readSequence : (bound : Nat) → (number : Nat) → List Mark →
    Except RegexFault (Regex × Nat × List Mark)
  | 0, _, _ => .error .opened
  | bound + 1, number, ms => do
    match ms with
    | [] | .bar :: _ | .closing :: _ => return (.nothing, number, ms)
    | .times .. :: _ => .error .preceding
    | .single r :: rest => readRepeated bound number r rest
    | .opening :: rest =>
      let (r, next, rest) ← readChoices bound (number + 1) rest
      match rest with
      | .closing :: rest => readRepeated bound next (.group number r) rest
      | _ => .error .opened

/-- Reads how often an expression is repeated, and the expressions that follow. -/
def readRepeated : (bound : Nat) → (number : Nat) → Regex → List Mark →
    Except RegexFault (Regex × Nat × List Mark)
  | 0, _, _, _ => .error .opened
  | bound + 1, number, r, ms => do
    match ms with
    | .times least most :: rest => readRepeated bound number (.repeated r least most) rest
    | _ =>
      let (others, number, rest) ← readSequence bound number ms
      return (.sequence r others, number, rest)

end

/-- Marks where a parenthesis that closes nothing is a letter; `depth` groups are open. -/
def openMarks : (depth : Nat) → List Mark → List Mark
  | _, [] => []
  | depth, .opening :: ms => .opening :: openMarks (depth + 1) ms
  | 0, .closing :: ms => .single (.letter ')') :: openMarks 0 ms
  | depth + 1, .closing :: ms => .closing :: openMarks depth ms
  | depth, m :: ms => m :: openMarks depth ms

/-- The greatest number that an expression asks for. -/
def greatestAgain : Regex → Nat
  | .again n => n
  | .sequence a b | .either a b => max a.greatestAgain b.greatestAgain
  | .repeated r _ _ | .group _ r => r.greatestAgain
  | _ => 0

/-- The expression that a text is, and how many groups it has. -/
def parse (way : Way) (t : Text) : Except RegexFault (Regex × Nat) := do
  let ms ← marks way (t.length + 1) none t
  let ms := if way = .extended || way = .patient then openMarks 0 ms else ms
  let (r, next, rest) ← readChoices (4 * ms.length + 4) 1 ms
  if !rest.isEmpty then .error .closed
  else if next ≤ r.greatestAgain then .error .number
  else return (r, next - 1)

/-! ## Matching -/

/-- A place in a text, with what is remembered there. -/
structure Spot where
  /-- What stands before it, backwards. -/
  before : Text
  /-- What stands behind it. -/
  rest : Text
  /-- The matches of groups. -/
  groups : List (Nat × Text)
  deriving DecidableEq, Repr

/-- Whether a letter belongs to words. -/
def isInWord (c : Option Char) : Bool :=
  c.any isAsciiWord

/-- The place behind the next letter, if that is as it should be. -/
def Spot.past (s : Spot) (fits : Char → Bool) : List Spot :=
  match s.rest with
  | c :: cs => if fits c then [{ s with before := c :: s.before, rest := cs }] else []
  | [] => []

/-- The place behind a text, if that is what follows. -/
def Spot.pastText (s : Spot) (same : Char → Char → Bool) (t : Text) : List Spot :=
  t.foldl (fun spots c => spots.flatMap fun s => s.past (same c)) [s]

/-- The places that are reached by going on several times, the most often first. -/
def turns (go : Spot → List Spot) (least : Nat) (most : Option Nat) :
    (bound done : Nat) → List Spot → List Spot
  | 0, done, spots => if least ≤ done then spots else []
  | bound + 1, done, spots =>
    let further :=
      if most.any (· ≤ done) then []
      else
        (spots.flatMap fun s =>
          (go s).filter fun t => t.rest.length != s.rest.length || done < least).eraseDups
    let beyond := if further.isEmpty then [] else turns go least most bound (done + 1) further
    (beyond ++ if least ≤ done then spots else []).eraseDups

/-- The places behind a match of an expression, the better ones first. -/
def ends (same : Char → Char → Bool) : Regex → Spot → List Spot
  | .nothing, s => [s]
  | .letter c, s => s.past (same c)
  | .any, s => s.past fun _ => true
  | .oneOf outside parts, s =>
    s.past fun c => (parts.any fun p => p.holds c || same c c.toUpper && p.holds c.toUpper
      || same c c.toLower && p.holds c.toLower) != outside
  | .start, s => if s.before.isEmpty then [s] else []
  | .finish, s => if s.rest.isEmpty then [s] else []
  | .edge e, s =>
    if e.isBetween (isInWord s.before.head?) (isInWord s.rest.head?) then [s] else []
  | .sequence a b, s => ((a.ends same s).flatMap fun t => b.ends same t).eraseDups
  | .either a b, s => (a.ends same s ++ b.ends same s).eraseDups
  | .repeated r least most, s =>
    turns (r.ends same) least most (s.rest.length + least + 1) 0 [s]
  | .group n r, s =>
    (r.ends same s).map fun t =>
      let matched := (t.before.take (t.before.length - s.before.length)).reverse
      { t with groups := (n, matched) :: t.groups.filter fun g => g.1 != n }
  | .again n, s =>
    match s.groups.find? fun g => g.1 == n with
    | some g => s.pastText same g.2
    | none => []

/-- A match in a text. -/
structure Match where
  /-- What stands before it. -/
  before : Text
  /-- What matches. -/
  matched : Text
  /-- What stands behind it. -/
  behind : Text
  /-- The matches of groups. -/
  groups : List (Nat × Text)
  deriving DecidableEq, Repr

/-- The match of a group; the group of number zero is all of it. -/
def Match.group (m : Match) (n : Nat) : Text :=
  if n = 0 then m.matched
  else ((m.groups.find? fun g => g.1 == n).map Prod.snd).getD []

/-- The longest match at a place. -/
def matchAt (same : Char → Char → Bool) (r : Regex) (s : Spot) : Option Match :=
  let longest := (r.ends same s).foldl (fun (best : Option Spot) t =>
    match best with
    | some b => if t.rest.length < b.rest.length then some t else some b
    | none => some t) none
  longest.map fun t =>
    { before := s.before.reverse
      matched := (t.before.take (t.before.length - s.before.length)).reverse
      behind := t.rest
      groups := t.groups }

/-- The first match from a place on. -/
def searchFrom (same : Char → Char → Bool) (r : Regex) : (before rest : Text) → Option Match
  | before, [] => matchAt same r { before, rest := [], groups := [] }
  | before, c :: cs =>
    matchAt same r { before, rest := c :: cs, groups := [] } <|>
      searchFrom same r (c :: before) cs

/-- Whether two letters count as the same. -/
def sameLetter (ignoringCase : Bool) (a b : Char) : Bool :=
  a == b || ignoringCase && a.toLower == b.toLower

/-- The longest match at the beginning of a text. -/
def matchStart (ignoringCase : Bool) (r : Regex) (t : Text) : Option Match :=
  matchAt (sameLetter ignoringCase) r { before := [], rest := t, groups := [] }

/-- The first match in a text. -/
def search (ignoringCase : Bool) (r : Regex) (t : Text) : Option Match :=
  searchFrom (sameLetter ignoringCase) r [] t

end Regex

end Hotkeys.Text
