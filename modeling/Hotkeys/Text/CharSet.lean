import Hotkeys.Text.Basic

/-!
# Sets of letters

The sets of letters that are written in brackets: single letters, ranges and classes.
-/

set_option autoImplicit false

namespace Hotkeys.Text

/-- A letter of a pattern, and whether it is quoted and so stands for itself. -/
abbrev PatternLetter := Bool × Char

/-- A part of a set of letters. -/
inductive SetPart where
  /-- The letters from one to another. -/
  | range (first last : Char)
  /-- The letters of a class. -/
  | ofClass (name : Text)
  deriving DecidableEq, Repr

/-- Whether a letter belongs to the class of a name. -/
def isOfClass (name : Text) (c : Char) : Bool :=
  let isGraphic : Bool := decide ('!' ≤ c) && decide (c ≤ '~')
  match String.ofList name with
  | "alpha" => c.isAlpha
  | "digit" => c.isDigit
  | "alnum" => c.isAlphanum
  | "upper" => c.isUpper
  | "lower" => c.isLower
  | "space" => " \t\n\r\x0b\x0c".toList.contains c
  | "blank" => c == ' ' || c == '\t'
  | "graph" => isGraphic
  | "print" => isGraphic || c == ' '
  | "punct" => isGraphic && !c.isAlphanum
  | "cntrl" => decide (c < ' ') || c == '\x7f'
  | "xdigit" => c.isDigit || "abcdefABCDEF".toList.contains c
  | _ => false

/-- Whether a letter belongs to a part of a set. -/
def SetPart.holds (p : SetPart) (c : Char) : Bool :=
  match p with
  | .range first last => decide (first ≤ c) && decide (c ≤ last)
  | .ofClass name => isOfClass name c

/-- The name of the class that letters begin with, and what follows it. -/
def className? : List PatternLetter → Option (Text × List PatternLetter)
  | (false, '[') :: (false, ':') :: rest =>
    let name := (rest.takeWhile fun l => l.2.isAlpha).map Prod.snd
    match rest.drop name.length with
    | (false, ':') :: (false, ']') :: rest => some (name, rest)
    | _ => none
  | _ => none

/-- The parts of a set up to the bracket that closes it, and what follows.  A bracket in the first
place belongs to the set.  `bound` is at least the number of letters. -/
def setParts : (bound : Nat) → (first : Bool) → List PatternLetter →
    Option (List SetPart × List PatternLetter)
  | 0, _, _ | _, _, [] => none
  | bound + 1, first, (quoted, c) :: rest =>
    if c = ']' && !quoted && !first then some ([], rest)
    else
      match className? ((quoted, c) :: rest), rest with
      | some (name, rest), _ =>
        (setParts bound false rest).map fun r => (.ofClass name :: r.1, r.2)
      | none, (false, '-') :: (q, last) :: more =>
        if last = ']' && !q then
          (setParts bound false rest).map fun r => (.range c c :: r.1, r.2)
        else (setParts bound false more).map fun r => (.range c last :: r.1, r.2)
      | none, _ => (setParts bound false rest).map fun r => (.range c c :: r.1, r.2)

end Hotkeys.Text
