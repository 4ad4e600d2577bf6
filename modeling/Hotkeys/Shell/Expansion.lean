import Hotkeys.Shell.Arithmetic
import Hotkeys.Shell.Braces
import Hotkeys.Shell.Globbing
import Hotkeys.Shell.State

/-!
# Expansion

What words mean in a state: the fields, texts and patterns that they become when values are put
into them.
-/

set_option autoImplicit false

namespace Hotkeys.Shell

open Hotkeys.Text (PatternLetter)

/-! ## Segments -/

/-- A part of the value of a word. -/
inductive Segment where
  /-- A text.  One that is not quoted may hold the signs of a pattern, and is cut if it is
  `loose`. -/
  | text (quoted loose : Bool) (t : Text)
  /-- A cut. -/
  | cut
  deriving DecidableEq, Repr

/-- The text that segments make up when nothing is cut. -/
def textOf (segments : List Segment) : Text :=
  segments.flatMap fun s =>
    match s with
    | .text _ _ t => t
    | .cut => [' ']

/-- The letters that segments make up. -/
def lettersOf (segments : List Segment) : List PatternLetter :=
  segments.flatMap fun s =>
    match s with
    | .text quoted _ t => t.map (quoted, ·)
    | .cut => [(true, ' ')]

/-- The pattern that segments make up. -/
def patternOf (d : Dialect) (segments : List Segment) : Pattern :=
  let letters := lettersOf segments
  Pattern.ofLetters d.isBash letters

/-! ## Fields -/

/-- Fields in the making, all kept backwards: the complete ones, and the one that is still
growing. -/
structure Fields where
  /-- The complete ones. -/
  complete : List (List PatternLetter)
  /-- The one that is still growing. -/
  growing : Option (List PatternLetter)
  deriving DecidableEq, Repr

namespace Fields

/-- No fields yet. -/
def empty : Fields :=
  { complete := [], growing := none }

/-- The fields with their last one complete. -/
def close (f : Fields) : Fields :=
  match f.growing with
  | none => f
  | some t => { complete := t.reverse :: f.complete, growing := none }

/-- The fields with letters added to the last one. -/
def extend (f : Fields) (ls : List PatternLetter) : Fields :=
  { f with growing := some (ls.reverse ++ f.growing.getD []) }

/-- The fields with a letter that may be a separator.  Blanks only end a field; any other
separator also makes one where there is none. -/
def addLoose (separators : Text) (f : Fields) (c : Char) : Fields :=
  if !separators.contains c then f.extend [(false, c)]
  else if isGap c then f.close
  else { complete := (f.growing.getD []).reverse :: f.complete, growing := none }

/-- The fields with one more segment. -/
def addSegment (separators : Text) (f : Fields) : Segment → Fields
  | .text quoted false t => f.extend (t.map (quoted, ·))
  | .text _ true t => t.foldl (addLoose separators) f
  | .cut => f.close

end Fields

/-- The fields that segments make up. -/
def fieldsOf (separators : Text) (segments : List Segment) : List (List PatternLetter) :=
  (segments.foldl (Fields.addSegment separators) Fields.empty).close.complete.reverse

/-- What a field stands for: the paths of its form, or its text. -/
def State.pathsOf (st : State) (letters : List PatternLetter) : List Text :=
  if st.settings.literal then [letters.map Prod.snd]
  else Shell.pathsOf st.files st.dialect.isBash (!st.dialect.isBash) letters

/-- The characters that separate fields. -/
def State.separators (st : State) : Text :=
  (st.get? "IFS".toList).getD " \t\n".toList

/-! ## Lists -/

/-- The name under which an element of a list is kept.  The first one has the name of the list. -/
def elementName (base : Text) (index : Nat) : Text :=
  if index = 0 then base else base ++ '[' :: Text.ofNat index ++ [']']

/-- The elements of a list with their indices, in order. -/
def elementsOf (values : Values) (base : Text) : List (Nat × Text) :=
  let first := (values.get? base).toList.map fun v => (0, v)
  let others := values.filterMap fun entry =>
    match Text.after? (base ++ ['[']) entry.1 with
    | some index => (Text.numeral? 10 index.dropLast).map fun n => (n, entry.2)
    | none => none
  first ++ others.mergeSort fun a b => a.1 ≤ b.1

/-- The state in which a list has elements. -/
def State.setList (st : State) (name : Text) (elements : List Text) : State :=
  let cleared := { st with
    values := (st.values.erase name).filter fun v => !Text.beginsWith v.1 (name ++ ['[']) }
  elements.zipIdx.foldl (fun st e => st.set (elementName name e.2) e.1) cleared

/-- The name of the list that a parameter stands for as a whole, and its sign. -/
def wholeList? (name : Text) : Option (Text × Char) :=
  match name.reverse with
  | ']' :: c :: '[' :: base => if c = '@' || c = '*' then some (base.reverse, c) else none
  | _ => none

/-- The values that a parameter stands for one by one. -/
def listOf? (st : State) (name : Text) : Option (List Text) :=
  match name with
  | ['@'] | ['*'] => some st.params
  | _ => (wholeList? name).map fun l => (elementsOf st.values l.1).map Prod.snd

/-! ## Parameters -/

/-- The number that the last command in the background is known by. -/
def backgroundNumber : Nat := 2

/-- The value of a parameter on a line, if it is set. -/
def valueOf? (st : State) (line : Nat) (name : Text) : Option Text :=
  match name with
  | ['#'] => some (Text.ofNat st.params.length)
  | ['?'] => some (Text.ofNat st.status)
  | ['0'] => some st.name
  | ['$'] => some ['1']
  | ['!'] => st.background.map fun _ => Text.ofNat backgroundNumber
  | ['-'] => some (st.settings.letters st.dialect)
  | _ =>
    match listOf? st name, Text.numeral? 10 name with
    | some [], _ => if wholeList? name = none then some [] else none
    | some list, _ => some (Text.join (st.separators.take 1) list)
    | none, some n => st.params[n - 1]?
    | none, none =>
      if name = "LINENO".toList then some (Text.ofNat line) else st.get? name

/-- The arguments of the script as segments. -/
def argumentSegments (quoted : Bool) (params : List Text) : List Segment :=
  (params.map fun p => Segment.text quoted (!quoted) p).intersperse .cut

/-- Whether a parameter stands for its values one by one. -/
def isEachArgument (quoted : Bool) (name : Text) : Bool :=
  let sign : Option Char :=
    match name with
    | [c] => some c
    | _ => (wholeList? name).map Prod.snd
  sign == some '@' || (sign == some '*' && !quoted)

/-- Whether a name needs no value of its own to be read without one. -/
def mayBeMissing (d : Dialect) (name : Text) : Bool :=
  name == ['@'] || name == ['*'] || name == ['!'] && !d.isBash || (wholeList? name).isSome

/-! ## Pieces -/

/-- A result and the state behind it. -/
abbrev Reading (α : Type) := State → α × State

/-- Reads pieces one after the other, as long as the script goes on. -/
def readPieces (read : Piece → Reading (List Segment)) : Word → Reading (List Segment)
  | [], st => ([], st)
  | p :: ps, st =>
    if st.goesOn then
      let (first, st) := read p st
      let (rest, st) := readPieces read ps st
      (first ++ rest, st)
    else ([], st)

/-- The beginning of a text up to a slash that is not hidden, and what follows it, if there is a
slash. -/
def untilSlash : Text → Text × Option Text
  | [] => ([], none)
  | '\\' :: c :: cs =>
    let (first, rest) := untilSlash cs
    ('\\' :: c :: first, rest)
  | '/' :: cs => ([], some cs)
  | c :: cs =>
    let (first, rest) := untilSlash cs
    (c :: first, rest)

/-- A text with others in the place of its longest parts that have the form of a pattern; `bound`
is at least its length. -/
def replaceParts (p : Pattern) (all : Bool) (new : Text) : (bound : Nat) → Text → Text
  | 0, t => t
  | bound + 1, t =>
    match (Pattern.cuts true t).find? fun n => n != 0 && p.fits (t.take n), t with
    | some n, _ =>
      new ++ if all then replaceParts p all new bound (t.drop n) else t.drop n
    | none, c :: cs => c :: replaceParts p all new bound cs
    | none, [] => []

/-- A text with another one in the place of its longest parts that have the form of a pattern: of
the first one or of `all`, or of one at its beginning or its end where the anchor is `#` or `%`.
A form that is `missing` changes nothing without an anchor. -/
def replaceAt (anchor : Option Char) (all : Bool) (p : Pattern) (new : Text) (missing : Bool)
    (t : Text) : Text :=
  match anchor with
  | some '#' =>
    match (Pattern.cuts true t).find? fun n => p.fits (t.take n) with
    | some n => new ++ t.drop n
    | none => t
  | some _ =>
    match (Pattern.cuts false t).find? fun n => p.fits (t.drop n) with
    | some n => t.take n ++ new
    | none => t
  | none => if missing then t else replaceParts p all new (t.length + 1) t

/-- A part of a list, told by a position and a length; both may be counted from the end. -/
def sliceOf {α : Type} (list : List α) (position : Int) (length : Option Int) : List α :=
  let size := Int.ofNat list.length
  let first := if position < 0 then position + size else position
  let last :=
    match length with
    | none => size
    | some n => if n < 0 then size + n else first + n
  if first < 0 then [] else (list.drop first.toNat).take (last - first).toNat

/-- The first capital or small letter of a text, or all of them, changed. -/
def recase (capital all : Bool) (t : Text) : Text :=
  let change (c : Char) : Char := if capital then c.toUpper else c.toLower
  match t with
  | [] => []
  | c :: cs => change c :: if all then cs.map change else cs

/-- Reads a text that is written inside of a word. -/
abbrev Inside := Around → Text → Reading (List Segment)

/-- What the expression that a text is is worth in a state, and the state behind it. -/
def State.worth (st : State) (t : Text) : Except ArithmeticFault (Int64 × State) := do
  let (n, values) ← arithmetic st.dialect st.settings.complete t st.values
  return (n, { st with values })

/-- The number that a text is worth, which is written inside of a word on a line. -/
def numberInside (inside : Inside) (line : Nat) (t : Text) : Reading Int := fun st =>
  let around := if st.dialect.isBash then Around.quotes else .document
  let (segments, st) := inside around t st
  if !st.goesOn then (0, st)
  else
    match st.worth (textOf segments) with
    | .ok (n, st) => (n.toInt, st)
    | .error fault =>
      let message := fault.message st.dialect (textOf segments)
      (0, if fault.endsScript then st.fail line message else st.drop line message)

/-- The name of a parameter whose index has been worked out, if it has one. -/
def resolveName (inside : Inside) (line : Nat) (name : Text) : Reading Text := fun st =>
  let base := name.takeWhile (· != '[')
  if base = name || (wholeList? name).isSome || !isName base then (name, st)
  else
    let (n, st) := numberInside inside line ((name.drop (base.length + 1)).dropLast) st
    let last := ((elementsOf st.values base).getLast?.map Prod.fst).getD 0
    (elementName base (if n < 0 then (n + last + 1).toNat else n.toNat), st)

/-- What is said of a parameter without a value; one that is `bare` is written without braces. -/
def missingMessage (d : Dialect) (bare : Bool) (name : Text) : Text :=
  match d with
  | .plain => name ++ ": parameter not set".toList
  | .bash => (if bare && !isName name then '$' :: name else name) ++ ": unbound variable".toList

/-- What is said of a parameter without a value that was asked for. -/
def requiredMessage (d : Dialect) (ifEmpty : Bool) : Text :=
  match d, ifEmpty with
  | _, false => "parameter not set".toList
  | .plain, true => "parameter not set or null".toList
  | .bash, true => "parameter null or not set".toList

/-- The segments of a parameter. -/
def parameterSegments (inside : Inside) (line : Nat) (quoted : Bool) (name : Text)
    (adjustment : Adjustment) (other : Text) : Reading (List Segment) := fun st =>
  let written := name
  let (name, st) := resolveName inside line name st
  let value := valueOf? st line name
  let given (ifEmpty : Bool) : Bool := value.any fun v => !(ifEmpty && v.isEmpty)
  let shown (t : Text) : List Segment := [.text quoted (!quoted) t]
  let absent : List Segment := if quoted then [.text true false []] else []
  let replaced (st : State) : List Segment × State :=
    let (segments, st) := inside (.ofQuoted quoted) other st
    (absent ++ segments, st)
  let listed (list : List Text) : List Segment :=
    if isEachArgument quoted name then argumentSegments quoted list
    else shown (Text.join (st.separators.take 1) list)
  let plain (st : State) : List Segment × State :=
    match listOf? st name with
    | some list => (listed list, st)
    | none => (shown (value.getD []), st)
  let known (work : List Segment × State) : List Segment × State :=
    if value.isNone && st.settings.complete && !mayBeMissing st.dialect name then
      ([], st.fail line (missingMessage st.dialect (adjustment = .bare) written))
    else work
  let changed (change : Text → Text) (st : State) : List Segment × State :=
    match listOf? st name with
    | some list => (listed (list.map change), st)
    | none => (shown (change (value.getD [])), st)
  let dropped (cut : Pattern → Text → Text) : List Segment × State :=
    if value.isNone then known (plain st)
    else
      let (form, st) := inside .nothing other st
      changed (cut (patternOf st.dialect form)) st
  match adjustment with
  | .bare | .plain => known (plain st)
  | .length =>
    match (listOf? st name).filter fun _ => st.dialect.isBash with
    | some list => (shown (Text.ofNat list.length), st)
    | none =>
      let size := (shown (Text.ofNat (Text.Utf8.size (value.getD []))), st)
      if st.dialect.isBash && name = ['!'] then size else known size
  | .fallback ifEmpty => if given ifEmpty then plain st else replaced st
  | .instead ifEmpty => if given ifEmpty then replaced st else (absent, st)
  | .assign ifEmpty =>
    if given ifEmpty then plain st
    else
      let (segments, st) := inside (.ofQuoted quoted) other st
      (shown (textOf segments), st.set name (textOf segments))
  | .require ifEmpty =>
    if given ifEmpty then plain st
    else
      let (segments, st) := inside (.ofQuoted quoted) other st
      let reason :=
        if other.isEmpty then requiredMessage st.dialect ifEmpty else textOf segments
      ([], if st.goesOn then st.fail line (name ++ ": ".toList ++ reason) else st)
  | .dropFront longest => dropped fun p t => p.dropFront longest t
  | .dropBack longest => dropped fun p t => p.dropBack longest t
  | .part => known <|
    let (position, length) :=
      match Text.splitFirst ':' other with
      | some (position, length) => (position, some length)
      | none => (other, none)
    let (first, st) := numberInside inside line position st
    let (size, st) :=
      match length with
      | some length =>
        let (n, st) := numberInside inside line length st
        (some n, st)
      | none => (none, st)
    match listOf? st name with
    | some list =>
      let list := if name = ['@'] || name = ['*'] then st.name :: list else list
      (listed (sliceOf list first size), st)
    | none =>
      (shown (Text.Utf8.gather (sliceOf (Text.Utf8.spread (value.getD [])) first size)), st)
  | .replace all => known <|
    let (anchor, rest) : Option Char × Text :=
      match other with
      | '#' :: rest => if all then (none, other) else (some '#', rest)
      | '%' :: rest => if all then (none, other) else (some '%', rest)
      | _ => (none, other)
    let (form, new) := untilSlash rest
    let (form, st) := inside .nothing form st
    let (new, st) := inside .quotes (new.getD []) st
    changed (replaceAt anchor all (patternOf st.dialect form) (textOf new) form.isEmpty) st
  | .recase capital all => known (changed (recase capital all) st)
  | .indirect =>
    match wholeList? name with
    | some (base, _) =>
      (listed ((elementsOf st.values base).map fun e => Text.ofNat e.1), st)
    | none =>
      match value, value.bind (parameterName? .bash) with
      | none, _ =>
        if isName name then ([], st.drop line (written ++ ": invalid indirect expansion".toList))
        else (absent, st)
      | some target, some (_, []) =>
        match valueOf? st line target with
        | none =>
          if st.settings.complete && !mayBeMissing st.dialect target then
            ([], st.fail line (missingMessage st.dialect false ('!' :: written)))
          else (shown [], st)
        | some v => (shown v, st)
      | some target, _ =>
        if target.isEmpty && (listOf? st name).isSome then (absent, st)
        else ([], st.drop line (target ++ ": invalid variable name".toList))

/-- The segments of a piece of a word on a line.  `capture` runs a script that begins on a line and
answers what it writes; `depth` bounds how deep words stand inside of words. -/
def pieceSegments (capture : Nat → Text → Reading Text) (line : Nat) :
    (depth : Nat) → Piece → Reading (List Segment)
  | 0, _, st => ([], st)
  | depth + 1, p, st =>
    let inside (around : Around) (t : Text) : Reading (List Segment) := fun st =>
      let loosen (s : Segment) : Segment :=
        match s with
        | .text false _ t => .text false true t
        | s => s
      let (segments, st) :=
        readPieces (pieceSegments capture line depth) (wordInside st.dialect around t) st
      (segments.map loosen, st)
    match p with
    | .literal quoted t => ([.text quoted false t], st)
    | .parameter quoted name adjustment other =>
      parameterSegments inside line quoted name adjustment other st
    | .output quoted first script =>
      let (t, st) := capture (if st.dialect.isBash then line else first) script st
      ([.text quoted (!quoted) t], st)
    | .number quoted expression =>
      let (n, st) := numberInside inside line expression st
      if st.goesOn then ([.text quoted (!quoted) (textOfNumber (Int64.ofInt n))], st) else ([], st)
    | .meaningless inner =>
      let message :=
        match st.dialect with
        | .plain => "Bad substitution".toList
        | .bash => "$\x7b".toList ++ inner ++ "\x7d: bad substitution".toList
      ([], st.drop line message)

/-- How deep words may stand inside of words. -/
def wordDepth : Nat := 64

/-! ## Words -/

/-- A word with the home directory in the place of a `~` at its beginning. -/
def atHome (st : State) (w : Word) : Word :=
  let home : Option Text := st.get? "HOME".toList
  match w, home with
  | [.literal false ['~']], some home => [.literal true home]
  | .literal false ('~' :: '/' :: rest) :: more, some home =>
    .literal true home :: .literal false ('/' :: rest) :: more
  | _, _ => w

/-- What reads words: how scripts inside of them are run, and the line that the words stand on. -/
structure WordReader where
  /-- Runs a script that begins on a line and answers what it writes. -/
  capture : Nat → Text → Reading Text
  /-- The line. -/
  line : Nat

namespace WordReader

/-- The segments of a word. -/
def segments (r : WordReader) (w : Word) : Reading (List Segment) := fun st =>
  readPieces (pieceSegments r.capture r.line wordDepth) (atHome st w) st

/-- The text of a word, which is not cut. -/
def text (r : WordReader) (w : Word) : Reading Text := fun st =>
  let (segments, st) := r.segments w st
  (textOf segments, st)

/-- The pattern of a word. -/
def pattern (r : WordReader) (w : Word) : Reading Pattern := fun st =>
  let (segments, st) := r.segments w st
  (patternOf st.dialect segments, st)

/-- The fields of words. -/
def fields (r : WordReader) : List Word → Reading (List Text)
  | [], st => ([], st)
  | w :: ws, st =>
    let words := if st.dialect.isBash then w.unbraced else [w]
    let (first, st) := words.foldl (fun (read : List Text × State) w =>
      let (segments, st) := r.segments w read.2
      (read.1 ++ (fieldsOf st.separators segments).flatMap st.pathsOf, st)) ([], st)
    let (rest, st) := r.fields ws st
    (first ++ rest, st)

/-- Reads a text that is written inside of a word. -/
def inside (r : WordReader) : Inside := fun around t st =>
  readPieces (pieceSegments r.capture r.line wordDepth) (wordInside st.dialect around t) st

/-- The number that a text on the line is worth. -/
def number (r : WordReader) (t : Text) : Reading Int :=
  numberInside r.inside r.line t

/-- The name of an element of a list whose index has been worked out, or any other name. -/
def place (r : WordReader) (name : Text) : Reading Text :=
  resolveName r.inside r.line name

end WordReader

end Hotkeys.Shell
