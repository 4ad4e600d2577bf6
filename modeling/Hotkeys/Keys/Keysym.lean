import Hotkeys.Keys.Keysym.Names
import Hotkeys.Text.Numeral

/-!
# Keysyms

A keysym is the number of what a key means.  A name is looked up in four ways, one after the
other; a number is shown by its first name, by its character, or in hexadecimal.
-/

set_option autoImplicit false

namespace Hotkeys.Keys

/-- The number of what a key means, below two to the power of 32. -/
abbrev Keysym := Nat

namespace Keysym

/-- Every named keysym, with its name as a text. -/
def entries : List (Text × Keysym) :=
  named.map fun e => (e.1.toList, e.2)

/-- Whether a text has no ASCII capital. -/
def hasNoCapital (t : Text) : Bool :=
  t.all fun c => !c.isUpper

/-- The entries by their names in small letters.  Names without capitals come first, so that they
win over names that differ from them only in capitals. -/
def foldedEntries : List (Text × Keysym) :=
  (entries.filter fun e => hasNoCapital e.1) ++
    (entries.filter fun e => !hasNoCapital e.1).map fun e => (Text.asciiLower e.1, e.2)

/-- Short names that are understood but never shown. -/
def aliases : List (Text × Keysym) :=
  [("enter".toList, 0xff0d), ("ret".toList, 0xff0d), ("esc".toList, 0xff1b),
    ("del".toList, 0xffff), ("ins".toList, 0xff63), ("pgup".toList, 0xff55),
    ("pgdn".toList, 0xff56), ("caps".toList, 0xffe5)]

/-- The value beside the first entry with this name. -/
def find? (table : List (Text × Keysym)) (name : Text) : Option Keysym :=
  (table.find? fun e => e.1 == name).map Prod.snd

/-- Where the keysyms of Unicode characters begin. -/
def unicodeBase : Keysym := 0x1000000

/-- The keysym of a character: its number in Latin-1, ASCII letters counting as small ones, and
its number in the Unicode block beyond. -/
def ofChar? (c : Char) : Option Keysym :=
  let n := c.toLower.toNat
  if (0x20 ≤ n ∧ n ≤ 0x7e) ∨ (0xa0 ≤ n ∧ n ≤ 0xff) then some n
  else if 0x100 ≤ n then some (unicodeBase + n)
  else none

/-- The keysym of a hexadecimal literal, which begins with `0x`. -/
def ofLiteral? (lower : Text) : Option Keysym :=
  match Text.after? "0x".toList lower with
  | some digits => (Text.signedNumeral? 16 digits).filter (· < 0x100000000)
  | none => none

/-- The keysym that a name stands for.  A single character stands for itself; a longer name is
tried as it is, without regard to capitals, as an alias and as a literal. -/
def ofName? (spec : Text) : Option Keysym :=
  match spec with
  | [c] => ofChar? c
  | _ =>
    let lower := Text.asciiLower spec
    find? entries spec <|> find? foldedEntries lower <|> find? aliases lower <|> ofLiteral? lower

/-- The character of a keysym in the Unicode block beyond Latin-1. -/
def unicodeChar? (sym : Keysym) : Option Char :=
  let n := sym - unicodeBase
  if unicodeBase + 0x100 ≤ sym ∧ n.isValidChar then some (Char.ofNat n) else none

/-- The text that a keysym is shown as. -/
def name (sym : Keysym) : Text :=
  match entries.find? fun e => e.2 == sym with
  | some e => e.1
  | none =>
    match unicodeChar? sym with
    | some c => [c]
    | none => "0x".toList ++ Text.ofNatHex sym

end Keysym

end Hotkeys.Keys
