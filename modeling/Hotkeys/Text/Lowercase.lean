import Hotkeys.Text.Basic
import Hotkeys.Text.CaseTables
import Hotkeys.Text.WordChar

/-!
# Lower case

Lower-casing of whole texts.  Each character has a form of its own, except a capital sigma, which
becomes a final sigma at the end of a word.
-/

set_option autoImplicit false

namespace Hotkeys.Text

/-- Whether a code point is one of the capitals of the run. -/
def CaseRun.holds (r : CaseRun) (n : Nat) : Bool :=
  r.first ≤ n && n ≤ r.last && (n - r.first) % r.stride == 0

/-- The lower-case form of a character where it does not depend on its neighbours.  Only U+0130
has a form of two characters. -/
def lowerChar (c : Char) : Text :=
  if c.toNat = 0x130 then ['i', '\u0307']
  else
    match caseRuns.find? fun r => r.holds c.toNat with
    | some r => [Char.ofNat (r.lower + (c.toNat - r.first))]
    | none => [c]

/-- Whether the first character that is not case-ignorable is cased. -/
def meetsCased (t : Text) : Bool :=
  match t.dropWhile fun c => inRanges caseIgnorableRanges c.toNat with
  | c :: _ => inRanges casedRanges c.toNat
  | [] => false

/-- The lower-case form of a character between `before`, nearest character first, and `rest`. -/
def lowerBetween (before : Text) (c : Char) (rest : Text) : Text :=
  if c = 'Σ' then
    if meetsCased before && !meetsCased rest then ['ς'] else ['σ']
  else lowerChar c

/-- The lower-case form of `t`, which follows `before`, nearest character first. -/
def lowerAfter (before : Text) : (t : Text) → Text
  | [] => []
  | c :: cs => lowerBetween before c cs ++ lowerAfter (c :: before) cs

/-- The lower-case form of a text. -/
def lowercase (t : Text) : Text :=
  lowerAfter [] t

end Hotkeys.Text
