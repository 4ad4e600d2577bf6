import Hotkeys.Text.Basic

/-!
# Numerals

Natural numbers written in ASCII digits.
-/

set_option autoImplicit false

namespace Hotkeys.Text

/-- The decimal numeral of a number, without leading zeros. -/
def ofNat (n : Nat) : Text :=
  Nat.toDigits 10 n

/-- The hexadecimal numeral of a number in small letters, without leading zeros. -/
def ofNatHex (n : Nat) : Text :=
  Nat.toDigits 16 n

/-- The value of an ASCII digit or letter as a digit, `a` being ten. -/
def digitValue? (c : Char) : Option Nat :=
  if c.isDigit then some (c.toNat - '0'.toNat)
  else if 'a' ≤ c ∧ c ≤ 'z' then some (c.toNat - 'a'.toNat + 10)
  else if 'A' ≤ c ∧ c ≤ 'Z' then some (c.toNat - 'A'.toNat + 10)
  else none

/-- The value of a sequence of digits that goes on after a part worth `value`. -/
def numeralFrom? (base value : Nat) : Text → Option Nat
  | [] => some value
  | c :: cs =>
    match digitValue? c with
    | some d => if d < base then numeralFrom? base (value * base + d) cs else none
    | none => none

/-- The value of a numeral in `base`: at least one digit and nothing else. -/
def numeral? (base : Nat) : Text → Option Nat
  | [] => none
  | cs => numeralFrom? base 0 cs

/-- The value of a numeral in `base` that a plus sign may precede. -/
def signedNumeral? (base : Nat) : Text → Option Nat
  | '+' :: cs => numeral? base cs
  | cs => numeral? base cs

end Hotkeys.Text
