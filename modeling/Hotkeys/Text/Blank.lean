import Hotkeys.Text.Basic

/-!
# Blank characters

The property White_Space, and the operations that look at it: trimming, cutting into words and
removing every blank.
-/

set_option autoImplicit false

namespace Hotkeys.Text

/-- Whether a character has the property White_Space. -/
def isBlank (c : Char) : Bool :=
  let n := c.toNat
  (9 ≤ n && n ≤ 13) || n == 0x20 || n == 0x85 || n == 0xa0 || n == 0x1680
    || (0x2000 ≤ n && n ≤ 0x200a) || n == 0x2028 || n == 0x2029 || n == 0x202f || n == 0x205f
    || n == 0x3000

/-- A text without its leading blanks. -/
def trimStart (t : Text) : Text :=
  t.dropWhile isBlank

/-- A text without its trailing blanks. -/
def trimEnd (t : Text) : Text :=
  (t.reverse.dropWhile isBlank).reverse

/-- A text without leading and trailing blanks. -/
def trim (t : Text) : Text :=
  trimEnd (trimStart t)

/-- A text without any blank. -/
def strip (t : Text) : Text :=
  t.filter fun c => !isBlank c

/-- The maximal runs of characters that are not blank. -/
def words (t : Text) : List Text :=
  (splitOn isBlank t).filter fun w => !w.isEmpty

end Hotkeys.Text
