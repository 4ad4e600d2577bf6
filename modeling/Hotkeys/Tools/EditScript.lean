import Hotkeys.Text.Regex

/-!
# Scripts of the line editor

What the editor of lines is told to do: commands, each for the lines that an address names.  This
module holds the commands and how they are read.
-/

set_option autoImplicit false

namespace Hotkeys.Tools

open Hotkeys.Text (Regex RegexFault)

/-! ## Commands -/

/-- A form that lines are compared with; nothing stands for the one that was used last. -/
structure EditForm where
  /-- The regular expression. -/
  regex : Option Regex
  /-- Whether capitals count as small letters. -/
  ignoring : Bool
  deriving DecidableEq, Repr

/-- What names lines. -/
inductive Address where
  /-- The line of a number. -/
  | line (n : Nat)
  /-- The lines of a number, and every so many lines behind it. -/
  | step (first every : Nat)
  /-- The last line. -/
  | last
  /-- The lines of a form. -/
  | form (f : EditForm)
  deriving DecidableEq, Repr

/-- Where a range of lines ends. -/
inductive RangeEnd where
  /-- With what an address names. -/
  | address (a : Address)
  /-- So many lines behind the first one. -/
  | after (n : Nat)
  /-- With a line whose number can be divided by another one. -/
  | multiple (n : Nat)
  deriving DecidableEq, Repr

/-- A part of the text that takes the place of a match. -/
inductive NewPart where
  /-- A text. -/
  | text (t : Text)
  /-- What a group matches. -/
  | group (n : Nat)
  /-- A sign that changes small letters and capitals behind it. -/
  | recase (sign : Char)
  deriving DecidableEq, Repr

/-- How matches are replaced. -/
structure Substitution where
  /-- What is looked for. -/
  form : EditForm
  /-- What takes its place. -/
  parts : List NewPart
  /-- The number of the first match that is replaced. -/
  which : Nat
  /-- Whether those behind it are replaced, too. -/
  all : Bool
  /-- Whether the line is printed then. -/
  print : Bool
  /-- The file that it is written to then. -/
  file : Option Text
  deriving DecidableEq, Repr

/-- What is done with a line. -/
inductive Edit where
  /-- A command that only has a letter. -/
  | letter (c : Char)
  /-- A command with a text or the name of a file. -/
  | text (c : Char) (t : Text)
  /-- A command with a label, or with nothing. -/
  | jump (c : Char) (label : Text)
  /-- A command that ends everything with a code. -/
  | quit (c : Char) (code : Nat)
  /-- The line is shown in lines of a width. -/
  | show (width : Option Nat)
  /-- Matches are replaced. -/
  | substitute (s : Substitution)
  /-- Letters are replaced. -/
  | translate (pairs : List (Char × Char))
  deriving DecidableEq, Repr

/-- A command with the lines that it is for. -/
structure EditCommand where
  /-- The first line, or each line. -/
  first : Option Address
  /-- The last line. -/
  last : Option RangeEnd
  /-- Whether it is for all other lines. -/
  others : Bool
  /-- What is done. -/
  edit : Edit
  deriving DecidableEq, Repr

/-! ## Reading -/

/-- What is wrong with a script: what is left behind the place of the fault, or nothing if that is
the end of everything, and the words. -/
structure EditFault where
  /-- The text behind the place. -/
  rest : Option Text
  /-- What is wrong there. -/
  message : Text
  deriving DecidableEq, Repr

/-- A fault in front of a text. -/
def editFault {α : Type} (rest : Text) (message : String) : Except EditFault α :=
  .error { rest := some rest, message := message.toList }

/-- Whether a character is a blank or the end of a line. -/
def isEditGap (c : Char) : Bool :=
  c == ' ' || c == '\t' || c == '\n'

/-- The text of a set behind its opening bracket, and what follows it; `named` says whether the
name of a class is being read. -/
def untilBracket : (named : Bool) → Text → Option (Text × Text)
  | _, [] => none
  | false, ']' :: cs => some ([']'], cs)
  | false, '[' :: ':' :: cs => (untilBracket true cs).map fun r => ('[' :: ':' :: r.1, r.2)
  | true, ':' :: ']' :: cs => (untilBracket false cs).map fun r => (':' :: ']' :: r.1, r.2)
  | false, '\\' :: 'n' :: cs => (untilBracket false cs).map fun r => ('\n' :: r.1, r.2)
  | named, c :: cs =>
    if c = '\n' then none else (untilBracket named cs).map fun r => (c :: r.1, r.2)

/-- The text of a set behind its opening bracket, which may begin with the closing one, and what
follows it. -/
def setText (t : Text) : Option (Text × Text) :=
  let isOutside := Text.beginsWith t ['^']
  let lead : Text := if isOutside then ['^'] else []
  let inside := t.drop lead.length
  let first : Text := if Text.beginsWith inside [']'] then [']'] else []
  (untilBracket false (inside.drop first.length)).map fun r => (lead ++ first ++ r.1, r.2)

/-- The text up to a delimiter that is not hidden, and what follows it.  A delimiter that is hidden
stands for itself, but in front of those that `kept` holds the backslash stays.  With `sets`,
delimiters in brackets do not count.  `bound` is at least the length. -/
def untilDelimiter (sets : Bool) (kept : Text) (delimiter : Char) : (bound : Nat) → Text →
    Option (Text × Text)
  | 0, _ => none
  | bound + 1, t =>
    let add (shown rest : Text) : Option (Text × Text) :=
      (untilDelimiter sets kept delimiter bound rest).map fun r => (shown ++ r.1, r.2)
    match t with
    | [] => none
    | '\\' :: c :: cs =>
      if c = '\n' || c = delimiter && !kept.contains c then add [c] cs
      else if c = 'n' && sets then add ['\n'] cs
      else add ['\\', c] cs
    | c :: cs =>
      if c = delimiter then some ([], cs)
      else if c = '\n' then none
      else if c = '[' && sets then
        match setText cs with
        | some (inside, rest) => add ('[' :: inside) rest
        | none => none
      else add [c] cs

/-- The fault of a text that lacks its delimiter: it is found at the end of the line. -/
def unended {α : Type} (t : Text) (message : String) : Except EditFault α :=
  editFault (t.dropWhile (· != '\n')) message

/-- The form that a text is. -/
def readForm (extended ignoring : Bool) (t rest : Text) : Except EditFault (EditForm × Nat) :=
  if t.isEmpty then .ok ({ regex := none, ignoring }, 9)
  else
    match Regex.parse (if extended then .strict else .basic) t with
    | .ok (r, groups) => .ok ({ regex := some r, ignoring }, groups)
    | .error fault =>
      editFault rest (if fault = .brace then "Unmatched \\\x7b" else fault.message)

/-- The number that a text begins with, and what follows it. -/
def takeNumber (t : Text) : Option (Nat × Text) :=
  let digits := t.takeWhile Char.isDigit
  (Text.numeral? 10 digits).map fun n => (n, t.drop digits.length)

/-- Reads an address, if there is one. -/
def readAddress (extended : Bool) (t : Text) : Except EditFault (Option Address × Text) :=
  match t with
  | '$' :: cs => .ok (some .last, cs)
  | '/' :: cs => form '/' cs
  | '\\' :: c :: cs => form c cs
  | t =>
    match takeNumber t with
    | none => .ok (none, t)
    | some (n, '~' :: rest) =>
      match takeNumber rest with
      | some (every, rest) => .ok (some (if every = 0 then .line n else .step n every), rest)
      | none => .ok (some (.line n), rest)
    | some (n, rest) => .ok (some (.line n), rest)
where
  /-- Reads a form up to a delimiter. -/
  form (delimiter : Char) (cs : Text) : Except EditFault (Option Address × Text) :=
    match untilDelimiter true [] delimiter (cs.length + 1) cs with
    | none => unended cs "unterminated address regex"
    | some (t, rest) => do
      let flags := rest.takeWhile fun c => c == 'I' || c == 'M'
      let rest := rest.drop flags.length
      let (f, _) ← readForm extended (flags.contains 'I') t rest
      return (some (.form f), rest)

/-- The parts of the text that takes the place of a match; `text` is kept backwards. -/
def newParts : (text : Text) → Text → List NewPart
  | text, [] => [.text text.reverse]
  | text, '\\' :: c :: cs =>
    if c.isDigit then .text text.reverse :: .group (c.toNat - '0'.toNat) :: newParts [] cs
    else if "ULEul".toList.contains c then .text text.reverse :: .recase c :: newParts [] cs
    else
      let shown := if c = 't' then '\t' else if c = 'r' then '\r' else if c = 'n' then '\n' else c
      newParts (shown :: text) cs
  | text, '&' :: cs => .text text.reverse :: .group 0 :: newParts [] cs
  | text, c :: cs => newParts (c :: text) cs

/-- Reads the flags of a substitution. -/
def readFlags : (bound : Nat) → Substitution → Text → Except EditFault (Substitution × Text)
  | 0, s, t => .ok (s, t)
  | bound + 1, s, t =>
    match t with
    | 'g' :: cs =>
      if s.all then editFault cs "multiple \x60g' options to \x60s' command"
      else readFlags bound { s with all := true } cs
    | 'p' :: cs =>
      if s.print then editFault cs "multiple \x60p' options to \x60s' command"
      else readFlags bound { s with print := true } cs
    | 'i' :: cs | 'I' :: cs =>
      readFlags bound { s with form := { s.form with ignoring := true } } cs
    | 'm' :: cs | 'M' :: cs => readFlags bound s cs
    | 'w' :: cs =>
      let name := (cs.dropWhile fun c => c == ' ' || c == '\t').takeWhile (· != '\n')
      if name.isEmpty then editFault cs "missing filename in r/R/w/W commands"
      else .ok ({ s with file := some name }, cs.dropWhile (· != '\n'))
    | t =>
      match takeNumber t with
      | some (0, rest) => editFault rest "number option to \x60s' command may not be zero"
      | some (n, rest) => readFlags bound { s with which := n } rest
      | none =>
        match t with
        | [] => .ok (s, t)
        | c :: cs =>
          if isEditGap c || ";\x7d#".toList.contains c then .ok (s, t)
          else editFault cs "unknown option to \x60s'"

/-- The number of the group that a part stands for. -/
def NewPart.group? : NewPart → Option Nat
  | .group n => some n
  | _ => none

/-- Reads a substitution behind its letter. -/
def readSubstitution (extended : Bool) (t : Text) : Except EditFault (Edit × Text) :=
  let fault := unended t "unterminated \x60s' command"
  match t with
  | [] => fault
  | delimiter :: cs =>
    match untilDelimiter true [] delimiter (cs.length + 1) cs with
    | none => fault
    | some (old, rest) =>
      match untilDelimiter false ['&', 'n'] delimiter (rest.length + 1) rest with
      | none => fault
      | some (new, rest) => do
        let parts := newParts [] new
        let start : Substitution :=
          { form := { regex := none, ignoring := false }, parts, which := 1, all := false
            print := false, file := none }
        let (s, rest) ← readFlags (rest.length + 1) start rest
        let (f, groups) ← readForm extended s.form.ignoring old rest
        match (parts.filterMap NewPart.group?).find? fun n => groups < n with
        | some n =>
          let message := "invalid reference \\".toList ++ Text.ofNat n ++
            " on \x60s' command's RHS".toList
          .error { rest := some rest, message }
        | none => return (.substitute { s with form := f }, rest)

/-- A text without the backslashes that hide letters. -/
def unhidden : Text → Text
  | '\\' :: c :: cs => (if c = 'n' then '\n' else c) :: unhidden cs
  | c :: cs => c :: unhidden cs
  | [] => []

/-- Reads a replacement of letters behind its letter. -/
def readTranslation (t : Text) : Except EditFault (Edit × Text) :=
  let fault := unended t "unterminated \x60y' command"
  match t with
  | [] => fault
  | delimiter :: cs =>
    match untilDelimiter false [] delimiter (cs.length + 1) cs with
    | none => fault
    | some (old, rest) =>
      match untilDelimiter false [] delimiter (rest.length + 1) rest with
      | none => fault
      | some (new, rest) =>
        let old := unhidden old
        let new := unhidden new
        if old.length != new.length then
          editFault rest "strings for \x60y' command are different lengths"
        else .ok (.translate (old.zip new), rest)

/-- The text of a command that adds lines: up to the end of a line that is not hidden. -/
def addedText : Text → Text × Text
  | [] => ([], [])
  | '\\' :: c :: cs =>
    let (t, rest) := addedText cs
    (c :: t, rest)
  | '\n' :: cs => ([], cs)
  | c :: cs =>
    let (t, rest) := addedText cs
    (c :: t, rest)

/-- Reads a command that adds lines, behind its letter. -/
def readAdded (c : Char) (t : Text) : Except EditFault (Edit × Text) :=
  let blank (c : Char) : Bool := c == ' ' || c == '\t'
  let t := t.dropWhile blank
  let added (t : Text) : Edit × Text :=
    let (t, rest) := addedText t
    (.text c (t ++ ['\n']), rest)
  match t with
  | [] => editFault [] "expected \\ after \x60a', \x60c' or \x60i'"
  | '\n' :: rest => .ok (.text c [], rest)
  | '\\' :: rest =>
    match rest.dropWhile blank with
    | [] => .ok (.text c [], [])
    | '\n' :: rest => .ok (added rest)
    | _ => .ok (added rest)
  | t => .ok (added t)

/-- Reads what is done, from its letter on. -/
def readEdit (extended : Bool) (t : Text) : Except EditFault (Edit × Text) :=
  match t with
  | [] => editFault [] "missing command"
  | c :: cs =>
    let blank (c : Char) : Bool := c == ' ' || c == '\t'
    let inLabel (c : Char) : Bool := !isEditGap c && c != ';' && c != '\x7d'
    let ended (edit : Edit) (rest : Text) : Except EditFault (Edit × Text) :=
      match rest.dropWhile blank with
      | [] => .ok (edit, [])
      | d :: ds =>
        if d = '\n' || d = ';' then .ok (edit, ds)
        else if d = '}' || d = '#' then .ok (edit, d :: ds)
        else editFault ds "extra characters after command"
    if c = '{' then .ok (.letter c, cs)
    else if "\x7d=dDgGhHnNpPxzF".toList.contains c then ended (.letter c) cs
    else if c = 's' then do
      let (edit, rest) ← readSubstitution extended cs
      ended edit rest
    else if c = 'y' then do
      let (edit, rest) ← readTranslation cs
      ended edit rest
    else if "aic".toList.contains c then readAdded c cs
    else if "rRwW".toList.contains c then
      let name := (cs.dropWhile blank).takeWhile (· != '\n')
      if name.isEmpty then editFault cs "missing filename in r/R/w/W commands"
      else .ok (.text c name, (cs.dropWhile (· != '\n')).drop 1)
    else if c = ':' then
      let label := (cs.dropWhile blank).takeWhile inLabel
      if label.isEmpty then editFault (cs.dropWhile blank) "\":\" lacks a label"
      else .ok (.jump c label, (cs.dropWhile blank).drop label.length)
    else if "btT".toList.contains c then
      let label := (cs.dropWhile blank).takeWhile inLabel
      ended (.jump c label) ((cs.dropWhile blank).drop label.length)
    else if c = 'v' then
      ended (.letter c) ((cs.dropWhile blank).dropWhile inLabel)
    else if c = 'l' then
      match takeNumber (cs.dropWhile blank) with
      | some (n, rest) => ended (.show (some n)) rest
      | none => ended (.show none) cs
    else if c = 'q' || c = 'Q' then
      match takeNumber (cs.dropWhile blank) with
      | some (n, rest) => ended (.quit c n) rest
      | none => ended (.quit c 0) cs
    else .error
      { rest := some cs
        message := "unknown command: \x60".toList ++ [c, '\''] }

/-- Reads the end of a range, if there is one. -/
def readRangeEnd (extended : Bool) (t : Text) : Except EditFault (Option RangeEnd × Text) :=
  match t with
  | ',' :: rest =>
    let rest := rest.dropWhile fun c => c == ' ' || c == '\t'
    match rest with
    | '+' :: more =>
      match takeNumber more with
      | some (n, more) => .ok (some (.after n), more)
      | none => editFault rest "expected newer version of sed"
    | '~' :: more =>
      match takeNumber more with
      | some (n, more) => .ok (some (.multiple n), more)
      | none => editFault rest "expected newer version of sed"
    | rest => do
      match ← readAddress extended rest with
      | (some a, rest) => return (some (.address a), rest)
      | (none, rest) => editFault (rest.drop 1) "unexpected \x60,'"
  | t => .ok (none, t)

/-- Whether a range may begin in front of all lines. -/
def mayBeginAtZero : Option RangeEnd → Bool
  | some (.address (.form _)) => true
  | _ => false

/-- Reads the commands of a script; `bound` is at least its length, and `depth` says how many
braces are open. -/
def readEdits (extended : Bool) : (bound depth : Nat) → Text → Except EditFault (List EditCommand)
  | 0, _, _ => .ok []
  | bound + 1, depth, t => do
    let t := t.dropWhile fun c => isEditGap c || c == ';'
    match t with
    | [] =>
      if depth = 0 then return []
      else .error { rest := none, message := "unmatched \x60\x7b'".toList }
    | '#' :: rest => readEdits extended bound depth (rest.dropWhile (· != '\n'))
    | t =>
      let gap (c : Char) : Bool := c == ' ' || c == '\t'
      let (first, rest) ← readAddress extended t
      let (last, rest) ←
        if first.isSome then readRangeEnd extended (rest.dropWhile gap) else pure (none, rest)
      if first = some (.line 0) && !mayBeginAtZero last then
        editFault (rest.drop 1) "invalid usage of line address 0"
      else
        let rest := rest.dropWhile gap
        let signs := rest.takeWhile fun c => c == '!'
        if 1 < signs.length then editFault (rest.drop 2) "multiple \x60!'s"
        else
          let rest := (rest.drop signs.length).dropWhile gap
          let closing := Text.beginsWith rest ['}']
          if closing && depth = 0 then editFault (rest.drop 1) "unexpected \x60\x7d'"
          else if closing && first.isSome then
            editFault (rest.drop 1) "\x7d doesn't want any addresses"
          else if Text.beginsWith rest [':'] && first.isSome then
            editFault (rest.drop 1) ": doesn't want any addresses"
          else
            let (edit, rest) ← readEdit extended rest
            let depth :=
              if edit = .letter '{' then depth + 1 else if closing then depth - 1 else depth
            let others ← readEdits extended bound depth rest
            return { first, last, others := !signs.isEmpty, edit } :: others

end Hotkeys.Tools
