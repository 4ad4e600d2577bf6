/-!
# Texts

A text is the sequence of its characters.  This module holds the cuts that every other part of
the library makes: at separators, at line ends, and after a known beginning.
-/

set_option autoImplicit false

namespace Hotkeys

/-- A text, as the sequence of its Unicode scalar values. -/
abbrev Text := List Char

namespace Text

/-! ## Separators -/

/-- The pieces of a text between the characters that satisfy `sep`.  There is always at least one
piece, and pieces may be empty. -/
def splitOn (sep : Char → Bool) : Text → List Text
  | [] => [[]]
  | c :: cs =>
    if sep c then [] :: splitOn sep cs
    else
      match splitOn sep cs with
      | [] => [[c]]
      | piece :: pieces => (c :: piece) :: pieces

/-- The text around the first occurrence of `c`, or `none` if there is no occurrence. -/
def splitFirst (c : Char) : Text → Option (Text × Text)
  | [] => none
  | d :: ds =>
    if d = c then some ([], ds)
    else (splitFirst c ds).map fun cut => (d :: cut.1, cut.2)

/-- The texts joined with `sep` between neighbours. -/
def join (sep : Text) (pieces : List Text) : Text :=
  List.intercalate sep pieces

/-! ## Lines -/

/-- The lines of a text, each with the newline that ends it; only the last may lack one. -/
def terminatedLines : Text → List Text
  | [] => []
  | c :: cs =>
    if c = '\n' then ['\n'] :: terminatedLines cs
    else
      match terminatedLines cs with
      | [] => [[c]]
      | line :: lines => (c :: line) :: lines

/-- A line without its newline and without one carriage return before that newline. -/
def chomp (line : Text) : Text :=
  match line.reverse with
  | '\n' :: '\r' :: rest => rest.reverse
  | '\n' :: rest => rest.reverse
  | _ => line

/-- The lines of a text without their ends. -/
def lines (t : Text) : List Text :=
  (terminatedLines t).map chomp

/-! ## Beginnings -/

/-- What follows `lead` in `t`, if `t` begins with `lead`. -/
def after? : (lead t : Text) → Option Text
  | [], t => some t
  | _ :: _, [] => none
  | a :: lead, b :: t => if a = b then after? lead t else none

/-- Whether `t` begins with `lead`. -/
def beginsWith (t lead : Text) : Bool :=
  (after? lead t).isSome

/-! ## ASCII -/

/-- ASCII capitals replaced by their small letters; every other character stays. -/
def asciiLower (t : Text) : Text :=
  t.map Char.toLower

/-- Whether a character is an ASCII letter, an ASCII digit or an underscore. -/
def isAsciiWord (c : Char) : Bool :=
  c.isAlphanum || c == '_'

end Text

end Hotkeys
