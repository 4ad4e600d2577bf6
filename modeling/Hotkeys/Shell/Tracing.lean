import Hotkeys.Shell.Script

/-!
# Showing commands

How commands are shown before they are run.  The standard interpreter shows what they have become
as it is; the other one writes it so that it could be read again.
-/

set_option autoImplicit false

namespace Hotkeys.Shell

/-! ## Writing texts so that they can be read again -/

/-- Whether a text has letters that mean something to the command language. -/
def hasMeaning (t : Text) : Bool :=
  (t.any fun c => " \t\n'\"\\|&;()<>!\x7b\x7d*[?]^$\x60".toList.contains c) ||
    Text.beginsWith t ['~'] || Text.beginsWith t ['#']

/-- Whether a letter cannot be shown. -/
def isUnseen (c : Char) : Bool :=
  c < ' ' || c == '\x7f'

/-- A text in single quotes. -/
def inSingleQuotes (t : Text) : Text :=
  if t = ['\''] then "\\'".toList
  else '\'' :: t.flatMap (fun c => if c = '\'' then "'\\''".toList else [c]) ++ ['\'']

/-- A text in quotes in which all letters can be shown. -/
def inSeenQuotes (t : Text) : Text :=
  let shown (c : Char) : Text :=
    match c with
    | '\n' => "\\n".toList
    | '\t' => "\\t".toList
    | '\r' => "\\r".toList
    | '\x07' => "\\a".toList
    | '\x08' => "\\b".toList
    | '\x0b' => "\\v".toList
    | '\x0c' => "\\f".toList
    | '\x1b' => "\\E".toList
    | '\\' => "\\\\".toList
    | '\'' => "\\'".toList
    | c =>
      if isUnseen c then
        let digits := Nat.toDigits 8 c.toNat
        '\\' :: List.replicate (3 - digits.length) '0' ++ digits
      else [c]
  "$'".toList ++ t.flatMap shown ++ ['\'']

/-- A word as it is shown. -/
def shownWord (t : Text) : Text :=
  if t.isEmpty then "''".toList
  else if t.any isUnseen then inSeenQuotes t
  else if hasMeaning t then inSingleQuotes t
  else t

/-- A value as it is shown behind a name. -/
def shownValue (t : Text) : Text :=
  if hasMeaning t then inSingleQuotes t
  else if t.any isUnseen then inSeenQuotes t
  else t

/-! ## Showing -/

/-- What is put in front of a line that shows a command.  Its first letter is repeated for scripts
inside of others, where there is more to offer. -/
def traceLead (r : WordReader) : Reading Text := fun st =>
  let form := (st.get? "PS4".toList).getD "+ ".toList
  let quiet := { st with settings := { st.settings with shown := false } }
  let (lead, after) := r.text (wordInside st.dialect .quotes form) quiet
  let lead :=
    match st.dialect with
    | .plain => lead
    | .bash => List.replicate st.level (lead.headD '+') ++ lead
  (lead, { after with settings := st.settings })

/-- Shows a line before something is run, where that is wanted.  It goes to a channel, because the
error stream may lead somewhere else already. -/
def traceLine (r : WordReader) (channel : Option Nat) (shown : Text) (st : State) : State :=
  match channel with
  | some channel =>
    if st.settings.shown then
      let (lead, st) := traceLead r st
      st.writeChannel channel (Text.Utf8.encode (lead ++ shown ++ ['\n']))
    else st
  | none => st

/-- Shows a command that is written with words of the language, where there is more to offer. -/
def traceWords (r : WordReader) (shown : Text) (st : State) : State :=
  if st.dialect.isBash then traceLine r (st.channelOf? 2) shown st else st

/-- Shows a command of the standard interpreter: the values that it gives to names, and its
fields. -/
def tracePlain (r : WordReader) (channel : Option Nat) (settings fields : List Text)
    (st : State) : State :=
  if st.dialect.isBash then st
  else traceLine r channel (Text.join [' '] (settings ++ fields)) st

/-- Shows the fields of a command where there is more to offer. -/
def traceFields (r : WordReader) (channel : Option Nat) (fields : List Text) (st : State) :
    State :=
  if st.dialect.isBash && !fields.isEmpty then
    traceLine r channel (Text.join [' '] (fields.map shownWord)) st
  else st

/-- Shows a value that is given to a name where there is more to offer. -/
def traceSetting (r : WordReader) (channel : Option Nat) (name : Text) (adding : Bool)
    (shown : Text) (st : State) : State :=
  if st.dialect.isBash then
    traceLine r channel (name ++ (if adding then ['+'] else []) ++ '=' :: shown) st
  else st

end Hotkeys.Shell
