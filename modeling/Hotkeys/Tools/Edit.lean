import Hotkeys.Tools.Copying
import Hotkeys.Tools.EditScript

/-!
# Editing lines

The editor of lines: it takes one line after the other, does what a script says for it and prints
what has become of it, to its output or to the place of the file.  Bytes are the letters here.
-/

set_option autoImplicit false

namespace Hotkeys.Tools

open Hotkeys.Host (Bytes Files Node)
open Hotkeys.Text (Regex)

/-! ## Lines -/

/-- A line without its end, and whether it has one. -/
structure EditLine where
  /-- What stands in it. -/
  text : Text
  /-- Whether it has an end. -/
  isEnded : Bool
  deriving DecidableEq, Repr

/-- The lines of letters, which end with a character. -/
def editLines (ending : Char) : Text → List EditLine
  | [] => []
  | c :: cs =>
    if c = ending then { text := [], isEnded := true } :: editLines ending cs
    else
      match editLines ending cs with
      | [] => [{ text := [c], isEnded := false }]
      | line :: lines => { line with text := c :: line.text } :: lines

/-- What is printed when a line is done. -/
inductive Later where
  /-- A text as it is. -/
  | text (t : Text)
  /-- The contents of a file, if it is there. -/
  | file (path : Text)
  /-- A line. -/
  | line (l : EditLine)
  deriving DecidableEq, Repr

/-- How lines are edited. -/
structure EditPlan where
  /-- What is done. -/
  commands : List EditCommand
  /-- Whether lines are only printed where that is asked for. -/
  quiet : Bool
  /-- Whether each file has a first and a last line. -/
  separate : Bool
  /-- What makes the name of a copy, if files are changed in their places. -/
  inPlace : Option Text
  /-- What lines end with. -/
  ending : Char
  /-- How wide lines are shown. -/
  width : Nat
  deriving DecidableEq, Repr

/-- What stands in a line up to the first end of a line in it, and what stands behind that. -/
def EditLine.parts (plan : EditPlan) (l : EditLine) : Text × Option Text :=
  match Text.splitFirst plan.ending l.text with
  | some (first, rest) => (first, some rest)
  | none => (l.text, none)

/-- The commands whose range has begun before the first line. -/
def EditPlan.begunAtStart (plan : EditPlan) : List (Nat × Option Nat) :=
  let isBegun (place : Nat) : Bool :=
    (plan.commands[place]?.map EditCommand.first) == some (some (.line 0))
  ((List.range plan.commands.length).filter isBegun).map fun place => (place, none)

/-- How far the editing has come. -/
structure Editing where
  /-- The work of the tool. -/
  work : Work
  /-- The files that are still to be opened. -/
  files : List Text
  /-- The file that is open. -/
  file : Text
  /-- Whether the file can be executed, if it is changed in its place. -/
  target : Option Bool
  /-- What is going to be in that file, the last part first. -/
  fresh : List Bytes
  /-- The lines that are left in the file. -/
  lines : List EditLine
  /-- The number of the line. -/
  number : Nat
  /-- The line. -/
  space : EditLine
  /-- What was put aside. -/
  hold : EditLine
  /-- What is printed when the line is done, the last part first. -/
  later : List Later
  /-- The commands whose range has begun, with the number of the last line if that is known. -/
  begun : List (Nat × Option Nat)
  /-- Whether anything was replaced since the line was read or a jump asked for it. -/
  replaced : Bool
  /-- The form that was used last. -/
  form : Option (Regex × Bool)
  /-- The outputs whose last line has no end yet; the empty name is the usual output. -/
  unended : List Text
  /-- The files that are read line by line. -/
  sources : List (Text × List EditLine)
  /-- Whether there is nothing left to do. -/
  isDone : Bool
  /-- Whether that is because something went wrong. -/
  isBroken : Bool
  deriving DecidableEq, Repr

namespace Editing

/-! ## Printing -/

/-- The editing after bytes were written to an output. -/
def put (e : Editing) (output : Text) (bytes : Bytes) : Editing :=
  if bytes.isEmpty then e
  else if output.isEmpty then
    if e.target.isSome then { e with fresh := bytes :: e.fresh }
    else { e with work := e.work.put bytes }
  else
    match e.work.writeTo output true bytes with
    | .ok work => { e with work }
    | .error _ => e

/-- The editing after the end of a line was written that lacked it. -/
def endLine (plan : EditPlan) (e : Editing) (output : Text) : Editing :=
  if e.unended.contains output then
    { e with unended := e.unended.filter (· != output) }.put output (Text.Utf8.bytes [plan.ending])
  else e

/-- The editing after letters were written as they are. -/
def putText (plan : EditPlan) (e : Editing) (output t : Text) : Editing :=
  (e.endLine plan output).put output (Text.Utf8.bytes t)

/-- The editing after a line was written. -/
def putLine (plan : EditPlan) (e : Editing) (output : Text) (l : EditLine) : Editing :=
  if l.isEnded then e.putText plan output (l.text ++ [plan.ending])
  else
    let e := e.putText plan output l.text
    { e with unended := output :: e.unended }

/-- The editing after the line was written as it is now, unless that has to be asked for. -/
def autoPrint (plan : EditPlan) (e : Editing) : Editing :=
  if plan.quiet then e else e.putLine plan [] e.space

/-- The editing after everything was printed that had to wait for the end of a line. -/
def flush (plan : EditPlan) (e : Editing) : Editing :=
  e.later.reverse.foldl (fun e later =>
    match later with
    | .text t => e.putText plan [] t
    | .line l => e.putLine plan [] l
    | .file path =>
      match e.work.read (if path = "/dev/stdin".toList then ['-'] else path) with
      | (.ok content, work) => ({ e with work }.endLine plan []).put [] content
      | (.error _, work) => { e with work }) { e with later := [] }

/-- The editing after something that cannot go on. -/
def fail (e : Editing) (code : Nat) (message : Text) : Editing :=
  { e with work := e.work.complain code message, isDone := true, isBroken := true }

/-! ## Files -/

/-- The name of a copy of a file. -/
def copyName (suffix name : Text) : Text :=
  if suffix.contains '*' then suffix.flatMap fun c => if c = '*' then name else [c]
  else name ++ suffix

/-- The editing after the open file was put into its place. -/
def close (plan : EditPlan) (e : Editing) : Editing :=
  match e.target, e.work.files.lookAt e.file with
  | some executable, .ok (place, old) =>
    let suffix := plan.inPlace.getD []
    let name := copyName suffix (place.getLastD [])
    let copy := if name.contains '/' then Host.Path.segments name else place.dropLast ++ [name]
    let kept := if suffix.isEmpty then e.work.files else e.work.files.put copy old
    let files := kept.put place (.file e.fresh.reverse.flatten executable)
    { e with
      work := { e.work with files }
      target := none
      fresh := []
      unended := e.unended.filter (!·.isEmpty) }
  | _, _ => e

/-- The editing with a file open. -/
def opened (plan : EditPlan) (e : Editing) (path : Text) (target : Option Bool) (content : Bytes) :
    Editing :=
  let lines := editLines plan.ending (Text.Utf8.letters content)
  let e := { e with file := path, target, lines }
  if plan.separate then
    { e with number := 0, hold := { text := [], isEnded := true }, begun := plan.begunAtStart }
  else e

/-- Opens a file, if that can be done. -/
def tryOpen (plan : EditPlan) (e : Editing) (path : Text) : Editing :=
  let missing (message : String) : Editing :=
    { e with work := e.work.complain 2 ("can't read ".toList ++ path ++ message.toList) }
  if plan.inPlace.isSome then
    match e.work.files.lookUp path with
    | .ok (_, .file content executable) => e.opened plan path (some executable) content
    | .ok _ => e.fail 4 ("couldn't edit ".toList ++ path ++ ": not a regular file".toList)
    | .error fault => missing (": " ++ fault.describe)
  else
    match e.work.readOperand path with
    | (.ok content, work) => { e with work }.opened plan path none content
    | (.error .isDirectory, _) =>
      e.fail 4 ("read error on ".toList ++ path ++ ": Is a directory".toList)
    | (.error fault, _) => missing (": " ++ fault.describe)

/-- Opens files until there is a line to read. -/
def openNext (plan : EditPlan) : List Text → Editing → Editing
  | [], e => { e with files := [] }
  | path :: paths, e =>
    let e := { e with files := paths }.tryOpen plan path
    if e.lines.isEmpty && !e.isBroken then openNext plan paths (e.close plan) else e

/-- Whether the line is the last one, which may open files to find out. -/
def atLast (plan : EditPlan) (e : Editing) : Bool × Editing :=
  if !e.lines.isEmpty then (false, e)
  else if plan.separate then (true, e)
  else
    let e := openNext plan e.files e
    (e.lines.isEmpty, e)

/-- Takes the next line, if there is one. -/
def nextLine (plan : EditPlan) (e : Editing) : Option EditLine × Editing :=
  let e := e.flush plan
  let e := if e.lines.isEmpty then openNext plan e.files (e.close plan) else e
  match e.lines with
  | [] => (none, e)
  | line :: lines => (some line, { e with lines, number := e.number + 1 })

/-! ## Addresses -/

/-- What a form is, and the editing in which it was used. -/
def useForm (e : Editing) (f : EditForm) : Option (Regex × Bool) × Editing :=
  match f.regex, e.form with
  | some r, _ => (some (r, f.ignoring), { e with form := some (r, f.ignoring) })
  | none, some form => (some form, e)
  | none, none =>
    (none, e.fail 1 "-e expression #1, char 0: no previous regular expression".toList)

/-- Whether an address names the line. -/
def isAt (plan : EditPlan) (e : Editing) : Address → Bool × Editing
  | .line n => (e.number = n, e)
  | .step first every => (first ≤ e.number && (e.number - first) % every = 0, e)
  | .last => e.atLast plan
  | .form f =>
    match e.useForm f with
    | (some (r, ignoring), e) => ((Regex.search ignoring r e.space.text).isSome, e)
    | (none, e) => (false, e)

/-- The line that a range ends with, if it is known where the range begins. -/
def rangeEnd? (e : Editing) : RangeEnd → Option Nat
  | .address (.line n) => some n
  | .address _ => none
  | .after n => some (e.number + n)
  | .multiple n => some (if n = 0 then e.number else (e.number / n + 1) * n)

/-- Whether the command at a place is for the line. -/
def selects (plan : EditPlan) (e : Editing) (place : Nat) (c : EditCommand) : Bool × Editing :=
  let others := e.begun.filter fun b => b.1 != place
  match c.first, c.last with
  | none, _ => (true, e)
  | some first, none => e.isAt plan first
  | some first, some last =>
    match e.begun.find? fun b => b.1 == place, last with
    | some (_, some n), _ =>
      (e.number ≤ n, if n ≤ e.number then { e with begun := others } else e)
    | some (_, none), .address a =>
      let (ends, e) := e.isAt plan a
      (true, if ends then { e with begun := others } else e)
    | some (_, none), _ => (true, e)
    | none, last =>
      let (begins, e) := e.isAt plan first
      let limit := e.rangeEnd? last
      let isLong := match limit with
        | some n => decide (e.number < n)
        | none => true
      (begins, if begins && isLong then { e with begun := (place, limit) :: e.begun } else e)

/-! ## Changing the line -/

/-- How letters are changed while a new text is put together: all of them, and the next one. -/
structure Recasing where
  /-- The sign for all letters, if they change. -/
  all : Option Char
  /-- The sign for the next letter, if it changes. -/
  next : Option Char
  deriving DecidableEq, Repr

/-- A text with its letters changed, and how those behind it change. -/
def recase (r : Recasing) : Text → Text × Recasing
  | [] => ([], r)
  | c :: cs =>
    let upper := r.next == some 'u' || r.next == none && r.all == some 'U'
    let lower := r.next == some 'l' || r.next == none && r.all == some 'L'
    let (rest, behind) := recase { r with next := none } cs
    ((if upper then c.toUpper else if lower then c.toLower else c) :: rest, behind)

/-- What takes the place of a match. -/
def newText (parts : List NewPart) (m : Regex.Match) : Text :=
  (parts.foldl (fun (s : Text × Recasing) part =>
    let add (t : Text) : Text × Recasing :=
      let (t, r) := recase s.2 t
      (s.1 ++ t, r)
    match part with
    | .text t => add t
    | .group n => add (m.group n)
    | .recase 'E' => (s.1, { s.2 with all := none })
    | .recase sign =>
      if sign = 'u' || sign = 'l' then (s.1, { s.2 with next := some sign })
      else (s.1, { all := some sign, next := none })) ([], { all := none, next := none })).1

/-- What a text becomes when matches are replaced; nothing if there is none to replace.  `done`
counts the matches before, `fresh` says whether an empty match counts here, and `before` is what
stands in front, backwards. -/
def replaceIn (s : Substitution) (same : Char → Char → Bool) (r : Regex) :
    (bound done : Nat) → (fresh : Bool) → (before rest : Text) → Option Text
  | 0, _, _, _, _ => none
  | bound + 1, done, fresh, before, rest =>
    match Regex.searchFrom same r before rest with
    | none => none
    | some m =>
      let skipped := m.before.drop before.length
      let isEmpty := m.matched.isEmpty
      let counts := !(isEmpty && skipped.isEmpty && !fresh)
      let done := if counts then done + 1 else done
      let chosen := counts && s.which ≤ done
      let shown := if chosen then newText s.parts m else m.matched
      let step : Text := if isEmpty then m.behind.take 1 else []
      let behind := m.behind.drop step.length
      let further :=
        if chosen && !s.all || isEmpty && step.isEmpty then none
        else
          replaceIn s same r bound done (!step.isEmpty)
            ((m.before ++ m.matched ++ step).reverse) behind
      match further with
      | some t => some (skipped ++ shown ++ step ++ t)
      | none => if chosen then some (skipped ++ shown ++ step ++ behind) else none

/-- The editing after a substitution. -/
def substitute (plan : EditPlan) (e : Editing) (s : Substitution) : Editing :=
  match e.useForm s.form with
  | (none, e) => e
  | (some (r, ignoring), e) =>
    let t := e.space.text
    match replaceIn s (Regex.sameLetter ignoring) r (t.length + 2) 0 true [] t with
    | none => e
    | some t =>
      let e := { e with space := { e.space with text := t }, replaced := true }
      let e := if s.print then e.putLine plan [] e.space else e
      match s.file with
      | some file => e.putLine plan (Text.Utf8.gather file) e.space
      | none => e

/-- A letter as it is shown without doubt. -/
def shownLetter (c : Char) : Text :=
  match c with
  | '\\' => "\\\\".toList
  | '\x07' => "\\a".toList
  | '\x08' => "\\b".toList
  | '\x0c' => "\\f".toList
  | '\n' => "\\n".toList
  | '\r' => "\\r".toList
  | '\t' => "\\t".toList
  | '\x0b' => "\\v".toList
  | c =>
    if ' ' ≤ c && c ≤ '~' then [c]
    else
      let digit (n : Nat) : Char := Char.ofNat ('0'.toNat + n % 8)
      ['\\', digit (c.toNat / 64), digit (c.toNat / 8), digit c.toNat]

/-- A text as it is shown without doubt, in lines of a width; zero stands for no limit, and `used`
is how much of the line is full. -/
def shownText (width : Nat) : (used : Nat) → Text → Text
  | _, [] => ['$']
  | used, c :: cs =>
    let shown := shownLetter c
    if 0 < width && width - 1 < used + shown.length then
      "\\\n".toList ++ shown ++ shownText width shown.length cs
    else shown ++ shownText width (used + shown.length) cs

/-! ## Commands -/

/-- Where the editing goes on. -/
inductive Onward where
  /-- With the next command. -/
  | next
  /-- With the command at a place. -/
  | jump (place : Nat)
  /-- With the next line; first, the line may be printed. -/
  | line (printing : Bool)
  /-- With what is left of the line. -/
  | again
  /-- Nowhere; first, the line may be printed. -/
  | stop (printing : Bool)
  deriving DecidableEq, Repr

/-- Does what a command of a letter says. -/
def byLetter (plan : EditPlan) (e : Editing) (c : Char) : Onward × Editing :=
  let withSpace (l : EditLine) : Onward × Editing := (.next, { e with space := l })
  let behind (l more : EditLine) : EditLine :=
    { more with text := l.text ++ plan.ending :: more.text }
  let ended (t : Text) : EditLine := { text := t, isEnded := true }
  match c with
  | '=' => (.next, e.putLine plan [] (ended (Text.ofNat e.number)))
  | 'd' => (.line false, e)
  | 'D' =>
    match e.space.parts plan with
    | (_, some rest) => (.again, { e with space := { e.space with text := rest } })
    | (_, none) => (.line false, e)
  | 'g' => withSpace e.hold
  | 'G' => withSpace (behind e.space e.hold)
  | 'h' => (.next, { e with hold := e.space })
  | 'H' => (.next, { e with hold := behind e.hold e.space })
  | 'x' => (.next, { e with space := e.hold, hold := e.space })
  | 'n' =>
    match e.atLast plan with
    | (true, e) => (.line true, e)
    | (false, e) =>
      match (e.autoPrint plan).nextLine plan with
      | (some space, e) => (.next, { e with space })
      | (none, e) => (.line false, e)
  | 'N' =>
    match e.atLast plan with
    | (true, e) => (.line true, e)
    | (false, e) =>
      match e.nextLine plan with
      | (some l, e) => (.next, { e with space := behind e.space l })
      | (none, e) => (.line true, e)
  | 'p' => (.next, e.putLine plan [] e.space)
  | 'P' =>
    match e.space.parts plan with
    | (first, some _) => (.next, e.putLine plan [] (ended first))
    | (_, none) => (.next, e.putLine plan [] e.space)
  | 'z' => withSpace { e.space with text := [] }
  | 'F' => (.next, e.putText plan [] (Text.Utf8.spread e.file ++ ['\n']))
  | _ => (.next, e)

/-- The next line of a file that is read line by line. -/
def sourceLine (plan : EditPlan) (e : Editing) (path : Text) : Option EditLine × Editing :=
  let (lines, e) :=
    match e.sources.find? fun s => s.1 == path with
    | some (_, lines) => (lines, e)
    | none =>
      match e.work.read path with
      | (.ok content, work) => (editLines plan.ending (Text.Utf8.letters content), { e with work })
      | (.error _, work) => ([], { e with work })
  let others := e.sources.filter fun s => s.1 != path
  (lines.head?, { e with sources := (path, lines.drop 1) :: others })

/-- Does what a command with a text or a file says; `goes` says whether its range goes on. -/
def byText (plan : EditPlan) (e : Editing) (goes : Bool) (c : Char) (t : Text) :
    Onward × Editing :=
  match c with
  | 'a' => (.next, { e with later := .text t :: e.later })
  | 'i' => (.next, e.putText plan [] t)
  | 'c' => (.line false, if goes then e else e.putText plan [] t)
  | 'r' => (.next, { e with later := .file (Text.Utf8.gather t) :: e.later })
  | 'R' =>
    match e.sourceLine plan (Text.Utf8.gather t) with
    | (some l, e) => (.next, { e with later := .line { l with isEnded := true } :: e.later })
    | (none, e) => (.next, e)
  | 'w' => (.next, e.putLine plan (Text.Utf8.gather t) e.space)
  | _ =>
    let first : EditLine := { text := (e.space.parts plan).1, isEnded := true }
    (.next, e.putLine plan (Text.Utf8.gather t) first)

/-- The place behind a label, or behind everything. -/
def placeOf (plan : EditPlan) (label : Text) : Nat :=
  if label.isEmpty then plan.commands.length
  else plan.commands.findIdx fun c => c.edit == .jump ':' label

/-- Does what a command says; `goes` says whether its range goes on. -/
def perform (plan : EditPlan) (e : Editing) (goes : Bool) : Edit → Onward × Editing
  | .letter c => e.byLetter plan c
  | .text c t => e.byText plan goes c t
  | .jump c label =>
    let taken := c = 'b' || c = 't' && e.replaced || c = 'T' && !e.replaced
    let e := if c = 't' || c = 'T' then { e with replaced := false } else e
    (if taken then .jump (placeOf plan label) else .next, e)
  | .show width =>
    let text := shownText (width.getD plan.width) 0 e.space.text
    (.next, e.putLine plan [] { text, isEnded := true })
  | .quit c code => (.stop (c = 'q'), { e with work := e.work.withCode code })
  | .substitute s => (.next, e.substitute plan s)
  | .translate pairs =>
    let text := e.space.text.map fun c => ((pairs.find? fun p => p.1 == c).map Prod.snd).getD c
    (.next, { e with space := { e.space with text } })

/-- The place behind the brace that closes a block, from a place in the block on; `depth` blocks
are open inside of it. -/
def behindBlock : (depth : Nat) → List EditCommand → (place : Nat) → Nat
  | _, [], place => place
  | depth, c :: cs, place =>
    if c.edit = .letter '{' then behindBlock (depth + 1) cs (place + 1)
    else if c.edit = .letter '}' then
      match depth with
      | 0 => place + 1
      | depth + 1 => behindBlock depth cs (place + 1)
    else behindBlock depth cs (place + 1)

/-- Where the editing goes on at a place, and what is done there first. -/
def step (plan : EditPlan) (e : Editing) (place : Nat) (c : EditCommand) : Onward × Editing :=
  let (hit, e) := e.selects plan place c
  if e.isDone then (.stop false, e)
  else if hit = c.others then
    if c.edit = .letter '{' then
      (.jump (behindBlock 0 (plan.commands.drop (place + 1)) (place + 1)), e)
    else (.next, e)
  else e.perform plan (e.begun.any fun b => b.1 == place) c.edit

/-- The editing with the next line, or none if it is done. -/
def onward (plan : EditPlan) (e : Editing) : Editing :=
  match e.nextLine plan with
  | (some space, e) => { e with space, replaced := false }
  | (none, e) => { e with isDone := true }

/-- Does what a plan says from a place on; `bound` limits the number of commands. -/
def run (plan : EditPlan) : (bound place : Nat) → Editing → Editing
  | 0, _, e => e
  | bound + 1, place, e =>
    if e.isDone then e
    else
      match plan.commands[place]? with
      | none => run plan bound 0 ((e.autoPrint plan).onward plan)
      | some c =>
        match e.step plan place c with
        | (.next, e) => run plan bound (place + 1) e
        | (.jump place, e) => run plan bound place e
        | (.line printing, e) =>
          run plan bound 0 ((if printing then e.autoPrint plan else e).onward plan)
        | (.again, e) => run plan bound 0 (e.flush plan)
        | (.stop printing, e) =>
          if e.isBroken then e
          else
            let e := if printing then ((e.autoPrint plan).endLine plan []).flush plan else e
            { e with isDone := true }

end Editing

/-! ## The tool -/

/-- How many commands are done at most. -/
def mostEdits : Nat := 1000000

/-- The options of the editor. -/
def editOptions : Options :=
  { letters := "bsnrzuEe:f:l:i?V"
    words := [("quiet", 'n'), ("silent", 'n'), ("expression", 'e'), ("file", 'f'),
      ("in-place", 'i'), ("line-length", 'l'), ("regexp-extended", 'E'), ("separate", 's'),
      ("unbuffered", 'u'), ("null-data", 'z'), ("zero-terminated", 'z'), ("posix", 'b'),
      ("binary", 'b'), ("follow-symlinks", 'b'), ("sandbox", 'b'), ("debug", 'b')]
    stopping := false }

/-- How the editor is used. -/
def editUsage : Text :=
  "Usage: sed [OPTION]... \x7bscript-only-if-no-other-script\x7d [input-file]...\n\n".toList

/-- A part of a script, with the file that it comes from. -/
structure ScriptPart where
  /-- The file, if there is one. -/
  file : Option Text
  /-- The part. -/
  text : Text
  deriving DecidableEq, Repr

/-- The parts of a script that options give. -/
def scriptParts : List Choice → Work → Except Work (List ScriptPart × Work)
  | [], w => .ok ([], w)
  | choice :: choices, w => do
    let (part, w) : Option ScriptPart × Work ←
      if choice.letter = 'e' then
        pure (some { file := none, text := Text.Utf8.spread choice.value }, w)
      else if choice.letter = 'f' then
        match w.readOperand choice.value with
        | (.ok content, w) =>
          let text := Text.Utf8.letters content
          let text := if endsLine content then text.dropLast else text
          pure (some { file := some choice.value, text }, w)
        | (.error e, w) =>
          throw (w.refuse 4 ("couldn't open file ".toList ++ choice.value) e)
      else pure (none, w)
    let (parts, w) ← scriptParts choices w
    return (part.toList ++ parts, w)

/-- Where in a script a fault is that so many letters stand before; `number` is that of the first
part. -/
def faultPlace : (number : Nat) → List ScriptPart → (letters : Nat) → Text
  | _, [], _ => []
  | number, part :: parts, letters =>
    if part.text.length < letters && !parts.isEmpty then
      faultPlace (number + 1) parts (letters - part.text.length - 1)
    else
      match part.file with
      | some file =>
        let line := ((part.text.take letters).filter (· == '\n')).length + 1
        "file ".toList ++ file ++ " line ".toList ++ Text.ofNat line
      | none =>
        "-e expression #".toList ++ Text.ofNat number ++ ", char ".toList ++ Text.ofNat letters

/-- The files that commands write to. -/
def editOutputs (commands : List EditCommand) : List Text :=
  commands.filterMap fun c =>
    match c.edit with
    | .text 'w' t | .text 'W' t => some (Text.Utf8.gather t)
    | .substitute s => s.file.map Text.Utf8.gather
    | _ => none

/-- The label of a jump that leads nowhere. -/
def lostLabel? (commands : List EditCommand) : Option Text :=
  commands.findSome? fun c =>
    match c.edit with
    | .jump ':' _ => none
    | .jump _ label =>
      if label.isEmpty || commands.any fun d => d.edit == .jump ':' label then none
      else some label
    | _ => none

/-- The work with the files empty that are going to be written. -/
def emptied : List Text → Work → Except Work Work
  | [], w => .ok w
  | path :: paths, w =>
    match w.writeTo path false [] with
    | .ok w => emptied paths w
    | .error e => .error (w.refuse 4 ("couldn't open file ".toList ++ path) e)

/-- The editing before the first line. -/
def startEditing (plan : EditPlan) (files : List Text) (w : Work) : Editing :=
  let blank : EditLine := { text := [], isEnded := true }
  { work := w, files, file := ['-'], target := none, fresh := [], lines := [], number := 0
    space := blank, hold := blank, later := []
    begun := plan.begunAtStart
    replaced := false, form := none, unended := [], sources := [], isDone := false
    isBroken := false }

/-- Edits files as a script says. -/
def editBy (a : Arguments) (parts : List ScriptPart) (files : List Text) (w : Work) : Work :=
  let script := List.intercalate ['\n'] (parts.map ScriptPart.text)
  match readEdits (a.hasOne "Er") (script.length + 1) 0 script with
  | .error fault =>
    let place :=
      match fault.rest with
      | some rest => faultPlace 1 parts (script.length - rest.length)
      | none => "-e expression #".toList ++ Text.ofNat parts.length ++ ", char 0".toList
    w.complain 1 (place ++ ": ".toList ++ fault.message)
  | .ok commands =>
    let plan : EditPlan :=
      { commands
        quiet := a.has 'n' || Text.beginsWith script "#n".toList
        separate := a.hasOne "si"
        inPlace := a.value? 'i'
        ending := if a.has 'z' then '\x00' else '\n'
        width := ((a.value? 'l').bind (Text.numeral? 10)).getD 70 }
    match lostLabel? commands with
    | some label =>
      w.complain 4 ("can't find label for jump to \x60".toList ++ label ++ ['\''])
    | none =>
      match emptied (editOutputs commands) w with
      | .error w => w
      | .ok w =>
        if files.isEmpty && a.has 'i' then w.complain 4 "no input files".toList
        else
          let files := if files.isEmpty then [['-']] else files
          let e := (startEditing plan files w).onward plan
          let e := e.run plan mostEdits 0
          if e.isBroken then e.work else (e.close plan).work

/-- Edits lines. -/
def sed : Body :=
  fun args w =>
    match editOptions.read args with
    | .error fault => (w.complain 1 fault.message).say editUsage
    | .ok a =>
      if a.has '-' then w.print editUsage
      else
        match scriptParts a.choices w, a.operands with
        | .error w, _ => w
        | .ok ([], w), [] => (w.say editUsage).withCode 1
        | .ok ([], w), script :: files =>
          editBy a [{ file := none, text := Text.Utf8.spread script }] files w
        | .ok (parts, w), files => editBy a parts files w

end Hotkeys.Tools
