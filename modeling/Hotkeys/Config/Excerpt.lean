import Hotkeys.Text.Basic
import Hotkeys.Text.Numeral
import Hotkeys.Config.Token

/-!
# Excerpts

A few lines of a configuration around a place, with line numbers and a caret below the place.
-/

set_option autoImplicit false

namespace Hotkeys.Config

/-- The margin of a line: its number, right-aligned in four columns, and a rule. -/
def margin (n : Nat) : Text :=
  ' ' :: (Text.ofNat n).leftpad 4 ' ' ++ " | ".toList

/-- Line `n` of an excerpt and, if the place is on that line, the caret line below it. -/
def excerptLine (lines : List Text) (place : Position) (n : Nat) : Text :=
  let shown := margin n ++ (lines[n - 1]?).getD [] ++ ['\n']
  if n = place.line then
    shown ++ List.replicate ((margin n).length + (place.column - 1)) ' ' ++ "^\n".toList
  else shown

/-- The line of a place with up to two lines before it and one after it. -/
def excerpt (source : Text) (place : Position) : Text :=
  let lines := Text.lines source
  let first := max 1 (place.line - 2)
  let last := min lines.length (place.line + 1)
  (List.range' first (last + 1 - first)).flatMap (excerptLine lines place)

end Hotkeys.Config
