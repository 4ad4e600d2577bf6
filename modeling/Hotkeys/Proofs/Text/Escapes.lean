import Hotkeys.Text.Basic
import Mathlib.Data.List.Basic

/-!
# Escapes

Read from left to right, a backslash escapes the character behind it, whatever that is; an escaped
backslash escapes nothing.  What is known of a reading is, character by character, whether it is
escaped (`marked`), and whether the text ends within an escape (`endsEscaping`).
-/

set_option autoImplicit false

namespace Hotkeys.Text

/-- The characters of a text, each with whether a backslash escapes it; `escaped` says whether one
in front of the text escapes the first. -/
def marked (escaped : Bool) : Text → List (Char × Bool)
  | [] => []
  | c :: cs => (c, escaped) :: marked (!escaped && c == '\\') cs

/-- Whether a text ends in a backslash that escapes what comes next. -/
def endsEscaping (escaped : Bool) : Text → Bool
  | [] => escaped
  | c :: cs => endsEscaping (!escaped && c == '\\') cs

/-- The characters of a text that no backslash escapes. -/
def unescaped (t : Text) : Text :=
  ((marked false t).filter fun x => !x.2).map Prod.fst

theorem map_fst_marked (escaped : Bool) (t : Text) : (marked escaped t).map Prod.fst = t := by
  induction t generalizing escaped with
  | nil => rfl
  | cons c cs ih => rw [marked, List.map_cons, ih]

theorem endsEscaping_append (escaped : Bool) (s t : Text) :
    endsEscaping escaped (s ++ t) = endsEscaping (endsEscaping escaped s) t := by
  induction s generalizing escaped with
  | nil => rfl
  | cons c cs ih => exact ih _

/-- A character other than a backslash leaves nothing escaped behind it. -/
theorem marked_cons {c : Char} (hc : c ≠ '\\') (escaped : Bool) (t : Text) :
    marked escaped (c :: t) = (c, escaped) :: marked false t := by
  rw [marked, beq_false_of_ne hc, Bool.and_false]

theorem endsEscaping_cons {c : Char} (hc : c ≠ '\\') (escaped : Bool) (t : Text) :
    endsEscaping escaped (c :: t) = endsEscaping false t := by
  rw [endsEscaping, beq_false_of_ne hc, Bool.and_false]

theorem marked_escape (d : Char) (t : Text) :
    marked false ('\\' :: d :: t) = ('\\', false) :: (d, true) :: marked false t := rfl

theorem unescaped_escape (d : Char) (t : Text) :
    unescaped ('\\' :: d :: t) = '\\' :: unescaped t := rfl

theorem unescaped_cons {c : Char} (hc : c ≠ '\\') (t : Text) :
    unescaped (c :: t) = c :: unescaped t := by
  rw [unescaped, marked_cons hc]
  rfl

end Hotkeys.Text
