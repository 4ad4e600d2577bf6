import Hotkeys.Proofs.Text.Ascii
import Hotkeys.Text.Numeral
import Mathlib.Data.Nat.Digits.Lemmas
import Mathlib.Tactic.IntervalCases

/-!
# Numerals

Reading a numeral gives back the number that was written (`signedNumeral?_toDigits`), and what is
written are digits (`exists_digit_of_mem_toDigits`).  A decimal numeral that is read is worth what
its digits are (`numeral?_eq_some_iff`).
-/

set_option autoImplicit false

namespace Hotkeys.Text

variable {base : Nat}

theorem digitValue?_digitChar {d : Nat} (h : d < 16) : digitValue? (Nat.digitChar d) = some d := by
  interval_cases d <;> rfl

theorem isAsciiWord_digitChar {d : Nat} (h : d < 16) :
    isAsciiWord (Nat.digitChar d) = true ∧ (Nat.digitChar d).isUpper = false := by
  interval_cases d <;> decide

theorem digitChar_ne_plus {d : Nat} (h : d < 16) : Nat.digitChar d ≠ '+' := by
  interval_cases d <;> decide

theorem numeralFrom?_append (value : Nat) (s t : Text) :
    numeralFrom? base value (s ++ t) =
      (numeralFrom? base value s).bind fun found => numeralFrom? base found t := by
  induction s generalizing value with
  | nil => rfl
  | cons c cs ih =>
      rw [List.cons_append, numeralFrom?, numeralFrom?]
      cases digitValue? c with
      | none => rfl
      | some d =>
          by_cases hd : d < base
          · simp only [if_pos hd, ih]
          · simp only [if_neg hd, Option.bind_none]

theorem numeralFrom?_digit {d : Nat} (hbase : base ≤ 16) (hd : d < base) (value : Nat) :
    numeralFrom? base value [Nat.digitChar d] = some (value * base + d) := by
  rw [numeralFrom?, digitValue?_digitChar (Nat.lt_of_lt_of_le hd hbase)]
  exact if_pos hd

/-- What is written are digits of the base. -/
theorem exists_digit_of_mem_toDigits (h : 1 < base) {n : Nat} {c : Char}
    (hc : c ∈ Nat.toDigits base n) : ∃ d < base, c = Nat.digitChar d := by
  induction n using Nat.strongRecOn with
  | _ n ih =>
      rw [Nat.toDigits_eq_if h] at hc
      by_cases hn : n < base
      · rw [if_pos hn, List.mem_singleton] at hc
        exact ⟨n, hn, hc⟩
      · rw [if_neg hn, List.mem_append, List.mem_singleton] at hc
        rcases hc with hinit | hlast
        · exact ih (n / base) (Nat.div_lt_self (by omega) h) hinit
        · exact ⟨n % base, Nat.mod_lt n (by omega), hlast⟩

theorem isDigit_of_mem_ofNat {n : Nat} {c : Char} (hc : c ∈ ofNat n) : c.isDigit = true :=
  Nat.isDigit_of_mem_toDigits (by decide) (by decide) hc

theorem toDigits_ne_nil (h : 1 < base) (n : Nat) : Nat.toDigits base n ≠ [] := by
  rw [Nat.toDigits_eq_if h]
  split
  case isTrue => exact List.cons_ne_nil _ _
  case isFalse => exact List.append_ne_nil_of_right_ne_nil _ (List.cons_ne_nil _ _)

theorem numeralFrom?_toDigits (h : 1 < base) (hbase : base ≤ 16) (n : Nat) :
    numeralFrom? base 0 (Nat.toDigits base n) = some n := by
  induction n using Nat.strongRecOn with
  | _ n ih =>
      rw [Nat.toDigits_eq_if h]
      by_cases hn : n < base
      · rw [if_pos hn, numeralFrom?_digit hbase hn, Nat.zero_mul, Nat.zero_add]
      · have hlast : n % base < base := Nat.mod_lt n (by omega)
        rw [if_neg hn, numeralFrom?_append, ih (n / base) (Nat.div_lt_self (by omega) h),
          Option.bind_some, numeralFrom?_digit hbase hlast, Nat.div_add_mod']

/-- Reading a numeral gives back the number that was written. -/
theorem signedNumeral?_toDigits (h : 1 < base) (hbase : base ≤ 16) (n : Nat) :
    signedNumeral? base (Nat.toDigits base n) = some n := by
  have hread := numeralFrom?_toDigits h hbase n
  cases hdigits : Nat.toDigits base n with
  | nil => exact absurd hdigits (toDigits_ne_nil h n)
  | cons c cs =>
      obtain ⟨d, hd, rfl⟩ := exists_digit_of_mem_toDigits h (hdigits ▸ List.mem_cons_self)
      rw [hdigits] at hread
      rw [signedNumeral?, numeral?, hread]
      · exact List.cons_ne_nil _ _
      · intro rest hplus
        exact digitChar_ne_plus (Nat.lt_of_lt_of_le hd hbase) (List.cons.inj hplus).1

/-! ## What is read -/

/-- The digits of a numeral that was read. -/
theorem digits_of_numeralFrom? {value n : Nat} {t : Text} (h : numeralFrom? base value t = some n) :
    ∀ c ∈ t, ∃ d < base, digitValue? c = some d := by
  induction t generalizing value with
  | nil => exact fun c hc => absurd hc List.not_mem_nil
  | cons c cs ih =>
      rw [numeralFrom?] at h
      split at h
      case h_1 d hd =>
        obtain ⟨hlt, hrest⟩ := Option.ite_none_right_eq_some.mp h
        intro found hfound
        rcases List.mem_cons.mp hfound with rfl | hmem
        · exact ⟨d, hlt, hd⟩
        · exact ih hrest found hmem
      case h_2 => cases h

theorem digits_of_numeral? {n : Nat} {t : Text} (h : numeral? base t = some n) :
    t ≠ [] ∧ ∀ c ∈ t, ∃ d < base, digitValue? c = some d := by
  cases t with
  | nil => cases h
  | cons c cs => exact ⟨List.cons_ne_nil c cs, digits_of_numeralFrom? h⟩

/-- A numeral that was read begins with a digit or with a plus sign before one. -/
theorem digits_of_signedNumeral? {n : Nat} {t : Text} (h : signedNumeral? base t = some n) :
    ∃ digits, (t = digits ∨ t = '+' :: digits) ∧ digits ≠ [] ∧
      ∀ c ∈ digits, ∃ d < base, digitValue? c = some d := by
  rw [signedNumeral?.eq_def] at h
  split at h
  case h_1 digits => exact ⟨digits, Or.inr rfl, digits_of_numeral? h⟩
  case h_2 => exact ⟨t, Or.inl rfl, digits_of_numeral? h⟩

/-- Without a sign before it a numeral is read as it stands. -/
theorem signedNumeral?_of_not_plus {t : Text} (h : '+' ∉ t) :
    signedNumeral? base t = numeral? base t := by
  unfold signedNumeral?
  split
  case h_1 => exact absurd List.mem_cons_self h
  case h_2 => rfl

theorem ascii_of_digitValue? {c : Char} {d : Nat} (h : digitValue? c = some d) :
    c.toNat < 0x80 := by
  rw [digitValue?] at h
  split_ifs at h with hdigit hsmall hcapital
  · exact ascii_of_isAsciiWord (by simp [isAsciiWord, Char.isAlphanum, hdigit])
  · exact Nat.lt_of_le_of_lt hsmall.2 (by decide)
  · exact Nat.lt_of_le_of_lt hcapital.2 (by decide)

theorem isDigit_of_digitValue? {c : Char} {d : Nat} (h : digitValue? c = some d) (hd : d < 10) :
    c.isDigit = true := by
  rw [digitValue?] at h
  split_ifs at h with hdigit hsmall hcapital
  · exact hdigit
  · cases h
    exact absurd hd (Nat.not_lt.mpr (Nat.le_add_left 10 _))
  · cases h
    exact absurd hd (Nat.not_lt.mpr (Nat.le_add_left 10 _))

theorem ascii_of_signedNumeral? {n : Nat} {t : Text} (h : signedNumeral? base t = some n) :
    Ascii t := by
  obtain ⟨digits, ht, -, hdigits⟩ := digits_of_signedNumeral? h
  have hascii : Ascii digits := by
    intro c hc
    obtain ⟨d, -, hd⟩ := hdigits c hc
    exact ascii_of_digitValue? hd
  rcases ht with rfl | rfl
  · exact hascii
  · exact Ascii.append (show Ascii ['+'] by decide) hascii

/-! ## Decimal numerals -/

theorem digitValue?_of_isDigit {c : Char} (h : c.isDigit = true) :
    digitValue? c = some (c.toNat - '0'.toNat) :=
  if_pos h

/-- The value of digits, the last of which counts least. -/
def decimal (digits : Text) : Nat :=
  Nat.ofDigits 10 (digits.reverse.map fun c => c.toNat - '0'.toNat)

theorem decimal_cons (c : Char) (cs : Text) :
    decimal (c :: cs) = (c.toNat - '0'.toNat) * 10 ^ cs.length + decimal cs := by
  unfold decimal
  rw [List.reverse_cons, List.map_append, Nat.ofDigits_append, List.length_map, List.length_reverse,
    List.map_singleton, Nat.ofDigits_singleton, Nat.mul_comm, Nat.add_comm]

theorem numeralFrom?_of_digits {t : Text} (h : ∀ c ∈ t, c.isDigit = true) (value : Nat) :
    numeralFrom? 10 value t = some (value * 10 ^ t.length + decimal t) := by
  induction t generalizing value with
  | nil => simp [numeralFrom?, decimal]
  | cons c cs ih =>
      obtain ⟨hc, hcs⟩ := List.forall_mem_cons.mp h
      have hlt : c.toNat - '0'.toNat < 10 := by
        have hbounds := (isDigit_iff c).mp hc
        have hzero : '0'.toNat = 48 := rfl
        omega
      rw [numeralFrom?, digitValue?_of_isDigit hc]
      simp only [if_pos hlt, ih hcs, decimal_cons, List.length_cons, Nat.pow_succ]
      congr 1
      ring

theorem isDigit_of_numeral? {t : Text} {n : Nat} (h : numeral? 10 t = some n) :
    ∀ c ∈ t, c.isDigit = true := by
  intro c hc
  obtain ⟨d, hd, hvalue⟩ := (digits_of_numeral? h).2 c hc
  exact isDigit_of_digitValue? hvalue hd

/-- A decimal numeral is made of digits, and their value is its own. -/
theorem numeral?_eq_some_iff {t : Text} {n : Nat} :
    numeral? 10 t = some n ↔ t ≠ [] ∧ (∀ c ∈ t, c.isDigit = true) ∧ decimal t = n := by
  constructor
  · intro h
    have hne := (digits_of_numeral? h).1
    have hall := isDigit_of_numeral? h
    refine ⟨hne, hall, ?_⟩
    obtain ⟨c, cs, rfl⟩ := List.exists_cons_of_ne_nil hne
    rw [numeral?, numeralFrom?_of_digits hall, Nat.zero_mul, Nat.zero_add] at h
    · exact Option.some.inj h
    · exact List.cons_ne_nil c cs
  · rintro ⟨hne, hall, rfl⟩
    obtain ⟨c, cs, rfl⟩ := List.exists_cons_of_ne_nil hne
    rw [numeral?, numeralFrom?_of_digits hall, Nat.zero_mul, Nat.zero_add]
    exact List.cons_ne_nil c cs

end Hotkeys.Text
