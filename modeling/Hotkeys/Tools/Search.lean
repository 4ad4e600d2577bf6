import Hotkeys.Shell.Pattern
import Hotkeys.Tools.Edit
import Hotkeys.Tools.Tree

/-!
# Searching lines

The tools that look for lines of a form in files, and print them, or count them, or name the files
that they are in.  Bytes are the letters here.
-/

set_option autoImplicit false

namespace Hotkeys.Tools

open Hotkeys.Host (Bytes Files SystemError)
open Hotkeys.Shell (Pattern)
open Hotkeys.Text (Edge Regex RegexFault)

/-! ## What is looked for -/

/-- What is looked for, and how. -/
structure Search where
  /-- The form of the lines; nothing stands for no form at all. -/
  form : Option Regex
  /-- Whether capitals count as small letters. -/
  ignoring : Bool
  /-- Whether the lines that do not have the form are looked for. -/
  inverted : Bool
  /-- What lines end with. -/
  ending : Char
  /-- How many lines of a file are looked for. -/
  most : Option Nat
  /-- How many lines in front are shown. -/
  before : Nat
  /-- How many lines behind are shown. -/
  after : Nat
  /-- Whether lines that do not follow each other are kept apart. -/
  apart : Bool
  /-- Whether the name of the file is shown. -/
  named : Bool
  deriving DecidableEq, Repr

/-- A form that only a text itself has. -/
def literalForm (t : Text) : Regex :=
  t.foldr (fun c r => .sequence (.letter c) r) .nothing

/-- A form that whole lines or whole words must have. -/
def wholeForm (a : Arguments) (r : Regex) : Regex :=
  if a.has 'x' then .sequence .start (.sequence r .finish)
  else if a.has 'w' then .sequence (.edge .after) (.sequence r (.edge .before))
  else r

/-- A form that is one of some forms. -/
def anyForm : List Regex → Option Regex
  | [] => none
  | r :: rs =>
    match anyForm rs with
    | none => some r
    | some others => some (.either r others)

/-- The form that the lines of a text stand for. -/
def searchForm (a : Arguments) (way : Option Regex.Way) (lines : List Text) :
    Except RegexFault (Option Regex) := do
  let forms ← lines.mapM fun line =>
    match way with
    | none => pure (literalForm line)
    | some way => (Regex.parse way line).map Prod.fst
  return anyForm (forms.map (wholeForm a))

/-- Whether a line is looked for. -/
def Search.selects (s : Search) (line : Text) : Bool :=
  let hasForm :=
    match s.form with
    | some r => (Regex.search s.ignoring r line).isSome
    | none => false
  hasForm != s.inverted

/-- The parts of a line that have the form, with the number of letters before each; `bound` is at
least the length of the line. -/
def Search.partsOf (s : Search) : (bound : Nat) → (before rest : Text) → List (Nat × Text)
  | 0, _, _ => []
  | bound + 1, before, rest =>
    match s.form with
    | none => []
    | some r =>
      match Regex.searchFrom (Regex.sameLetter s.ignoring) r before rest with
      | none => []
      | some m =>
        if m.matched.isEmpty then
          match m.behind with
          | [] => []
          | c :: cs => partsOf s bound (c :: m.before.reverse) cs
        else
          (m.before.length, m.matched) ::
            partsOf s bound ((m.before ++ m.matched).reverse) m.behind

/-! ## What is shown -/

/-- A line of a file. -/
structure SearchLine where
  /-- Its number. -/
  number : Nat
  /-- How many bytes are before it. -/
  offset : Nat
  /-- What stands in it. -/
  text : Text
  deriving DecidableEq, Repr

/-- The lines of letters, counted from a line that so many bytes are before. -/
def placesFrom (number offset : Nat) : List EditLine → List SearchLine
  | [] => []
  | l :: ls =>
    { number, offset, text := l.text } :: placesFrom (number + 1) (offset + l.text.length + 1) ls

/-- How far a search has come. -/
structure Searching where
  /-- The work of the tool. -/
  work : Work
  /-- Whether anything was found. -/
  hasFound : Bool
  /-- Whether anything could not be searched. -/
  hasFailed : Bool
  /-- Whether lines were shown. -/
  hasShown : Bool
  /-- Whether there is nothing left to do. -/
  isDone : Bool
  deriving DecidableEq, Repr

/-- How far the search of one file has come. -/
structure FileSearch where
  /-- The work of the tool. -/
  work : Work
  /-- The lines before that were not shown, the last one first. -/
  passed : List SearchLine
  /-- The number of the line that was shown last. -/
  shown : Option Nat
  /-- How many lines behind a line that was found are still shown. -/
  after : Nat
  /-- How many lines were found. -/
  count : Nat
  /-- Whether lines were shown before those of this file. -/
  hasShown : Bool
  deriving DecidableEq, Repr

/-- What stands in front of a line that is shown. -/
def Search.lead (s : Search) (a : Arguments) (name : Text) (sign : Char) (p : SearchLine) : Text :=
  let name := Text.Utf8.spread name
  (if s.named then name ++ [if a.has 'Z' then '\x00' else sign] else []) ++
    (if a.has 'n' then Text.ofNat p.number ++ [sign] else []) ++
    (if a.has 'b' then Text.ofNat p.offset ++ [sign] else [])

/-- The work after a line was shown; `sign` says whether it was found. -/
def Search.show (s : Search) (a : Arguments) (name : Text) (sign : Char) (w : Work)
    (p : SearchLine) : Work :=
  if a.has 'o' then
    if s.inverted || sign != ':' then w
    else
      (s.partsOf (p.text.length + 1) [] p.text).foldl (fun w part =>
        let lead := s.lead a name sign { p with offset := p.offset + part.1 }
        w.put (Text.Utf8.bytes (lead ++ part.2 ++ [s.ending]))) w
  else w.put (Text.Utf8.bytes (s.lead a name sign p ++ p.text ++ [s.ending]))

/-- The search of a file after a line. -/
def Search.visit (s : Search) (a : Arguments) (shows : Bool) (name : Text) (f : FileSearch)
    (p : SearchLine) : FileSearch :=
  let isOver := s.most.any (· ≤ f.count)
  let hit := s.selects p.text
  if hit && !isOver then
    let f := { f with count := f.count + 1 }
    if !shows then f
    else
      let lines := (f.passed.take s.before).reverse
      let first := ((lines.map SearchLine.number).head?).getD p.number
      let hasGap := s.apart &&
        (match f.shown with
          | some n => decide (n + 1 < first)
          | none => f.hasShown)
      let w := if hasGap then f.work.put (Text.Utf8.bytes "--\n".toList) else f.work
      let w := lines.foldl (s.show a name '-') w
      let w := s.show a name ':' w p
      { f with work := w, passed := [], shown := some p.number, after := s.after }
  else if 0 < f.after && !(isOver && hit) then
    { f with
      work := s.show a name '-' f.work p
      shown := some p.number
      after := f.after - 1 }
  else { f with passed := p :: f.passed, after := 0 }

/-- The search after a file with a name and contents. -/
def Search.inContent (s : Search) (a : Arguments) (name : Text) (content : Bytes)
    (g : Searching) : Searching :=
  let isBinary := content.contains 0 && !a.hasOne "az"
  let lists := a.hasOne "lL"
  let shows := !(lists || a.hasOne "cq" || isBinary)
  let lines := placesFrom 1 0 (editLines s.ending (Text.Utf8.letters content))
  let start : FileSearch :=
    { work := g.work, passed := [], shown := none, after := 0, count := 0, hasShown := g.hasShown }
  let f := lines.foldl (s.visit a shows name) start
  let found := decide (0 < f.count)
  let shownName := Text.Utf8.spread name
  let w :=
    if a.has 'q' then f.work
    else if lists then
      if found = a.has 'l' then
        f.work.put (Text.Utf8.bytes (shownName ++ [if a.has 'Z' then '\x00' else '\n']))
      else f.work
    else if a.has 'c' then
      let lead := if s.named then shownName ++ [if a.has 'Z' then '\x00' else ':'] else []
      f.work.put (Text.Utf8.bytes (lead ++ Text.ofNat f.count ++ ['\n']))
    else if isBinary && found then
      f.work.print (f.work.name ++ ": ".toList ++ name ++ ": binary file matches\n".toList)
    else f.work
  { g with
    work := w
    hasFound := g.hasFound || found
    hasShown := g.hasShown || f.shown.isSome
    isDone := found && a.has 'q' }

/-! ## Files -/

/-- Whether the name of a file is one that options leave. -/
def isWanted (a : Arguments) (path : Text) : Bool :=
  let name := lastName path
  let fits (p : Text) : Bool :=
    let letters := p.map fun c => (false, c)
    (Pattern.ofLetters true letters).fits name
  let included := a.values '\x02'
  !((a.values '\x03').any fits) && (included.isEmpty || included.any fits)

/-- The paths of the files in a directory, and in those that it holds; `depth` bounds how deep. -/
def filesBelow (a : Arguments) (files : Files) : (depth : Nat) → Text → List Text
  | 0, _ => []
  | depth + 1, path =>
    let names :=
      match files.lookUp (if path.isEmpty then ['.'] else path) with
      | .ok (place, _) => Text.Utf8.ordered (files.namesIn place)
      | .error _ => []
    names.flatMap fun name =>
      let path := if path.isEmpty then name else inside path name
      match files.lookAt path with
      | .ok (_, .directory) => filesBelow a files depth path
      | .ok (_, .file ..) | .ok (_, .tool _) => if isWanted a path then [path] else []
      | _ => []

/-- How deep directories are searched. -/
def searchDepth : Nat := 64

/-- The search after a file that cannot be read. -/
def Searching.refuse (g : Searching) (a : Arguments) (about : Text) (e : SystemError) : Searching :=
  let w := if a.has 's' then g.work else g.work.refuse g.work.code about e
  { g with work := w, hasFailed := true }

/-- The search after an operand. -/
def Search.inOperand (s : Search) (a : Arguments) (recursive : Bool) (g : Searching)
    (operand : Text) : Searching :=
  if g.isDone then g
  else if operand = ['-'] then
    let name := (a.value? '\x01').getD "(standard input)".toList
    let content := g.work.rest
    s.inContent a name content { g with work := { g.work with rest := [] } }
  else
    let isSearched := operand.isEmpty || g.work.files.isDirectory operand
    if recursive && isSearched then
      (filesBelow a g.work.files searchDepth operand).foldl (fun g path =>
        if g.isDone then g
        else
          match g.work.read path with
          | (.ok content, work) => s.inContent a path content { g with work }
          | (.error e, work) => { g with work }.refuse a path e) g
    else
      match g.work.read operand with
      | (.ok content, work) => s.inContent a operand content { g with work }
      | (.error e, work) =>
        if e = .isDirectory && a.value? 'd' = some "skip".toList then g
        else { g with work }.refuse a operand e

/-! ## The tools -/

/-- The options of the tools that search lines. -/
def searchOptions : Options :=
  { letters := "EFGPe:f:iywxcovlLm:qsbHhnTZA:B:C:aId:D:rRUz0123456789V\x01:\x02:\x03:\x04?"
    words := [("extended-regexp", 'E'), ("fixed-strings", 'F'), ("basic-regexp", 'G'),
      ("perl-regexp", 'P'), ("regexp", 'e'), ("file", 'f'), ("ignore-case", 'i'),
      ("word-regexp", 'w'), ("line-regexp", 'x'), ("count", 'c'), ("only-matching", 'o'),
      ("invert-match", 'v'), ("files-with-matches", 'l'), ("files-without-match", 'L'),
      ("max-count", 'm'), ("quiet", 'q'), ("silent", 'q'), ("no-messages", 's'),
      ("byte-offset", 'b'), ("with-filename", 'H'), ("no-filename", 'h'), ("line-number", 'n'),
      ("initial-tab", 'T'), ("null", 'Z'), ("after-context", 'A'), ("before-context", 'B'),
      ("context", 'C'), ("text", 'a'), ("directories", 'd'), ("devices", 'D'), ("recursive", 'r'),
      ("dereference-recursive", 'R'), ("null-data", 'z'), ("line-buffered", 'U'),
      ("label", '\x01'), ("include", '\x02'), ("exclude", '\x03'), ("color", '\x04'),
      ("colour", '\x04')]
    stopping := false }

/-- How the tools that search lines are used. -/
def searchUsage : Text :=
  ("Usage: grep [OPTION]... PATTERNS [FILE]...\n" ++
    "Try 'grep --help' for more information.\n").toList

/-- The number of lines that the last of some options asks for. -/
def contextOf (a : Arguments) (letter : Char) : Except Text Nat :=
  let digits := (a.choices.map Choice.letter).filter Char.isDigit
  let given := (a.choices.filter fun c => c.letter == letter).getLast? <|>
    (a.choices.filter fun c => c.letter == 'C').getLast?
  match given with
  | some choice =>
    match Text.numeral? 10 choice.value with
    | some n => .ok n
    | none => .error (choice.value ++ ": invalid context length argument".toList)
  | none => .ok ((Text.numeral? 10 digits).getD 0)

/-- The lines of a text, with an empty one for an empty text. -/
def formLines (t : Text) : List Text :=
  if t.isEmpty then [[]]
  else (editLines '\n' t).map EditLine.text ++ if t.getLast? = some '\n' then [[]] else []

/-- What options say is looked for, and whether they say it. -/
def givenForms : List Choice → Work → Except Work (List Text × Bool × Work)
  | [], w => .ok ([], false, w)
  | choice :: choices, w => do
    let (lines, given, w) : List Text × Bool × Work ←
      if choice.letter = 'e' then
        pure (formLines (Text.Utf8.spread choice.value), true, w)
      else if choice.letter = 'f' then
        match w.readOperand choice.value with
        | (.ok content, w) =>
          pure ((editLines '\n' (Text.Utf8.letters content)).map EditLine.text, true, w)
        | (.error e, w) => throw (w.refuse 2 choice.value e)
      else pure ([], false, w)
    let (others, alsoGiven, w) ← givenForms choices w
    return (lines ++ others, given || alsoGiven, w)

/-- The way of writing forms that options ask for; nothing stands for texts as they are. -/
def searchWay (way : Option Regex.Way) (a : Arguments) : Option Regex.Way :=
  match ((a.choices.map Choice.letter).filter fun c => "EFGP".toList.contains c).getLast? with
  | some 'E' => some .patient
  | some 'P' => some .strict
  | some 'G' => some .basic
  | some _ => none
  | none => way

/-- Searches operands for lines. -/
def searchFor (way : Option Regex.Way) (a : Arguments) (lines operands : List Text) (w : Work) :
    Work :=
  let most := (a.value? 'm').map (Text.numeral? 10)
  match contextOf a 'B', contextOf a 'A', most, searchForm a (searchWay way a) lines with
  | .error message, _, _, _ | _, .error message, _, _ => w.complain 2 message
  | _, _, some none, _ => w.complain 2 "invalid max count".toList
  | _, _, _, .error fault =>
    w.complain 2 (if fault = .brace then "Unmatched \\\x7b" else fault.message).toList
  | .ok before, .ok after, most, .ok form =>
    let recursive := a.hasOne "rR" || a.value? 'd' = some "recurse".toList
    let operands :=
      if operands.isEmpty then if recursive then [[]] else [['-']] else operands
    let isLone := operands.length ≤ 1 && !recursive
    let names := ((a.choices.map Choice.letter).filter fun c => c == 'H' || c == 'h').getLast?
    let s : Search :=
      { form, ignoring := a.hasOne "iy", inverted := a.has 'v'
        ending := if a.has 'z' then '\x00' else '\n'
        most := most.join, before, after
        apart := a.hasOne "ABC0123456789"
        named := names = some 'H' || names = none && !isLone }
    let start : Searching :=
      { work := w, hasFound := false, hasFailed := false, hasShown := false, isDone := false }
    let g := if s.most = some 0 then start else operands.foldl (s.inOperand a recursive) start
    g.work.withCode
      (if g.hasFailed && !g.isDone then 2 else if g.hasFound then 0 else 1)

/-- Searches lines, with a usual way of writing their forms. -/
def searchLines (way : Option Regex.Way) : Body :=
  fun args w =>
    match searchOptions.read args with
    | .error fault => (w.complain 2 fault.message).say searchUsage
    | .ok a =>
      if a.has '-' then w.print searchUsage
      else
        match givenForms a.choices w, a.operands with
        | .error w, _ => w
        | .ok (_, false, w), [] => (w.say searchUsage).withCode 2
        | .ok (_, false, w), form :: operands =>
          searchFor way a (formLines (Text.Utf8.spread form)) operands w
        | .ok (lines, true, w), operands => searchFor way a lines operands w

/-- Searches lines for a form of the basic way. -/
def grep : Body := searchLines (some .basic)

/-- Searches lines for a form of the extended way. -/
def egrep : Body := fun args w => searchLines (some .patient) args { w with name := "grep".toList }

/-- Searches lines for a text. -/
def fgrep : Body := fun args w => searchLines none args { w with name := "grep".toList }

end Hotkeys.Tools
