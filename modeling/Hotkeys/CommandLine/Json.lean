import Hotkeys.Text.Numeral

/-!
# Structured data

Texts, lists and records as they are written for other programs to read: one item a line, each
level two blanks deeper.
-/

set_option autoImplicit false

namespace Hotkeys.CommandLine

/-- A value to be written. -/
inductive Json where
  /-- A text. -/
  | text (t : Text)
  /-- A list of values. -/
  | list (items : List Json)
  /-- Named values, in order. -/
  | record (fields : List (Text × Json))

namespace Json

/-- A character inside of quotes.  Quotes, backslashes and control characters are escaped. -/
def escape (c : Char) : Text :=
  if c = '"' then "\\\"".toList
  else if c = '\\' then "\\\\".toList
  else if c = '\n' then "\\n".toList
  else if c = '\r' then "\\r".toList
  else if c = '\t' then "\\t".toList
  else if c = '\x08' then "\\b".toList
  else if c = '\x0c' then "\\f".toList
  else if c.toNat < 0x10 then "\\u000".toList ++ Text.ofNatHex c.toNat
  else if c.toNat < 0x20 then "\\u00".toList ++ Text.ofNatHex c.toNat
  else [c]

/-- A text in quotes. -/
def quote (t : Text) : Text :=
  '"' :: t.flatMap escape ++ ['"']

/-- Blanks in front of what stands on a level. -/
def indent (level : Nat) : Text :=
  List.replicate (2 * level) ' '

/-- Written items between brackets, one a line; brackets around nothing stay on one line. -/
def enclose (level : Nat) (first last : Char) (items : List Text) : Text :=
  if items.isEmpty then [first, last]
  else
    let lines := items.map fun item => indent (level + 1) ++ item
    first :: '\n' :: Text.join [',', '\n'] lines ++ '\n' :: indent level ++ [last]

mutual

/-- A value as it is written on a level. -/
def writeAt (level : Nat) : Json → Text
  | .text t => quote t
  | .list items => enclose level '[' ']' (writeItems (level + 1) items)
  | .record fields => enclose level '{' '}' (writeFields (level + 1) fields)

/-- Values as they are written on a level. -/
def writeItems (level : Nat) : List Json → List Text
  | [] => []
  | item :: items => writeAt level item :: writeItems level items

/-- Named values as they are written on a level. -/
def writeFields (level : Nat) : List (Text × Json) → List Text
  | [] => []
  | (name, value) :: fields =>
    (quote name ++ ':' :: ' ' :: writeAt level value) :: writeFields level fields

end

/-- A value as it is written. -/
def write (j : Json) : Text :=
  j.writeAt 0

end Json

end Hotkeys.CommandLine
