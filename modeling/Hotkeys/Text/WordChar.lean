import Hotkeys.Text.WordRanges

/-!
# Word characters, as a test

Letters, marks, digits, connectors and joiners: the characters that names of keys are made of.
-/

set_option autoImplicit false

namespace Hotkeys.Text

/-- Whether a code point lies in one of the inclusive ranges. -/
def inRanges (ranges : List (Nat × Nat)) (n : Nat) : Bool :=
  ranges.any fun r => r.1 ≤ n && n ≤ r.2

/-- Whether a character is a word character. -/
def isWord (c : Char) : Bool :=
  inRanges wordRanges c.toNat

end Hotkeys.Text
