import Hotkeys.Text.CharSet
import Hotkeys.Text.Utf8

/-!
# Patterns

The forms that texts are compared with: letters that stand for themselves, `*` for any text, `?`
for any letter, and sets of letters in brackets.
-/

set_option autoImplicit false

namespace Hotkeys.Shell

open Hotkeys.Text (PatternLetter SetPart)

/-- A part of a pattern. -/
inductive PatternPart where
  /-- A letter. -/
  | letter (c : Char)
  /-- Any letter. -/
  | anyLetter
  /-- Any text. -/
  | anyText
  /-- Any letter of a set, or any letter outside of it. -/
  | oneOf (outside : Bool) (parts : List SetPart)
  deriving DecidableEq, Repr

/-- A pattern, as its parts. -/
abbrev Pattern := List PatternPart

namespace Pattern

/-- The set behind an opening bracket and what follows it.  A sign in front means the letters
outside of it; with `caret`, so does another one. -/
def set? (caret : Bool) (letters : List PatternLetter) :
    Option (PatternPart × List PatternLetter) :=
  let (outside, letters) :=
    match letters with
    | (false, '!') :: rest => (true, rest)
    | (false, '^') :: rest => if caret then (true, rest) else (false, letters)
    | _ => (false, letters)
  (Text.setParts (letters.length + 1) true letters).map fun r => (.oneOf outside r.1, r.2)

/-- The pattern that letters for bytes make up; `bound` is at least their number.  A backslash that
is not quoted came with a value, and hides the next letter. -/
def ofBytes (caret : Bool) : (bound : Nat) → List PatternLetter → Pattern
  | 0, _ => []
  | _, [] => []
  | bound + 1, (true, c) :: rest => .letter c :: ofBytes caret bound rest
  | bound + 1, (false, '\\') :: (_, c) :: rest => .letter c :: ofBytes caret bound rest
  | bound + 1, (false, c) :: rest =>
    if c = '*' then .anyText :: ofBytes caret bound rest
    else if c = '?' then .anyLetter :: ofBytes caret bound rest
    else if c = '[' then
      match set? caret rest with
      | some (part, rest) => part :: ofBytes caret bound rest
      | none => .letter c :: ofBytes caret bound rest
    else .letter c :: ofBytes caret bound rest

/-- The pattern that letters make up. -/
def ofLetters (caret : Bool) (letters : List PatternLetter) : Pattern :=
  let spread := letters.flatMap fun l => (Text.Utf8.spread [l.2]).map fun c => (l.1, c)
  ofBytes caret (spread.length + 1) spread

/-- A text and everything that it becomes without some of its first letters. -/
def ends : Text → List Text
  | [] => [[]]
  | c :: cs => (c :: cs) :: ends cs

/-- Whether all of some letters for bytes have the form of a pattern. -/
def fitsBytes : Pattern → Text → Bool
  | [], t => t.isEmpty
  | .letter c :: ps, t =>
    match t with
    | d :: ds => c == d && fitsBytes ps ds
    | [] => false
  | .anyLetter :: ps, t =>
    match t with
    | _ :: ds => fitsBytes ps ds
    | [] => false
  | .oneOf outside parts :: ps, t =>
    match t with
    | d :: ds =>
      (parts.any fun p => p.holds d) != outside && fitsBytes ps ds
    | [] => false
  | .anyText :: ps, t => (ends t).any (fitsBytes ps)

/-- Whether a whole text has the form of a pattern. -/
def fits (p : Pattern) (t : Text) : Bool :=
  p.fitsBytes (Text.Utf8.spread t)

/-- The numbers of letters at which a text can be cut, the least first or the greatest. -/
def cuts (greatestFirst : Bool) (t : Text) : List Nat :=
  let least := List.range (t.length + 1)
  if greatestFirst then least.reverse else least

/-- A text without its shortest or longest beginning that has the form of a pattern. -/
def dropFront (p : Pattern) (longest : Bool) (t : Text) : Text :=
  let spread := Text.Utf8.spread t
  match (cuts longest spread).find? fun n => p.fitsBytes (spread.take n) with
  | some n => Text.Utf8.gather (spread.drop n)
  | none => t

/-- A text without its shortest or longest end that has the form of a pattern. -/
def dropBack (p : Pattern) (longest : Bool) (t : Text) : Text :=
  let spread := Text.Utf8.spread t
  match (cuts (!longest) spread).find? fun n => p.fitsBytes (spread.drop n) with
  | some n => Text.Utf8.gather (spread.take n)
  | none => t

end Pattern

end Hotkeys.Shell
