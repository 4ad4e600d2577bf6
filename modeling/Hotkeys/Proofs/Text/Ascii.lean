import Hotkeys.Proofs.Text.Utf8
import Hotkeys.Text.Blank

/-!
# ASCII

The replacement of capitals by their small letters as a map on code points (`toNat_toLower`), the
word characters as ranges of code points, and the characters of a string literal read off its bytes
(`toList_of_ascii`).
-/

set_option autoImplicit false

namespace Hotkeys.Text

/-- Whether every character of a text is an ASCII character. -/
def Ascii (t : Text) : Prop :=
  ∀ c ∈ t, c.toNat < 0x80

-- Named, for a search may find the instance that tries all characters, of which there are finitely
-- many.
instance (t : Text) : Decidable (Ascii t) :=
  List.decidableBAll (fun c : Char => c.toNat < 0x80) t

theorem Ascii.append {s t : Text} (hs : Ascii s) (ht : Ascii t) : Ascii (s ++ t) :=
  fun c hc => (List.mem_append.mp hc).elim (hs c) (ht c)

theorem toNat_ofNat {n : Nat} (h : n.isValidChar) : (Char.ofNat n).toNat = n := by
  rw [Char.ofNat, dif_pos h]
  rfl

/-! ## Capitals -/

theorem isUpper_iff (c : Char) : c.isUpper = true ↔ 65 ≤ c.toNat ∧ c.toNat ≤ 90 := by
  rw [show c.isUpper = decide (65 ≤ c.val ∧ c.val ≤ 90) from rfl, decide_eq_true_eq,
    UInt32.le_iff_toNat_le, UInt32.le_iff_toNat_le]
  rfl

theorem isLower_iff (c : Char) : c.isLower = true ↔ 97 ≤ c.toNat ∧ c.toNat ≤ 122 := by
  rw [show c.isLower = (decide (97 ≤ c.val) && decide (c.val ≤ 122)) from rfl, Bool.and_eq_true,
    decide_eq_true_eq, decide_eq_true_eq, UInt32.le_iff_toNat_le, UInt32.le_iff_toNat_le]
  rfl

theorem isDigit_iff (c : Char) : c.isDigit = true ↔ 48 ≤ c.toNat ∧ c.toNat ≤ 57 := by
  rw [show c.isDigit = (decide (48 ≤ c.val) && decide (c.val ≤ 57)) from rfl, Bool.and_eq_true,
    decide_eq_true_eq, decide_eq_true_eq, UInt32.le_iff_toNat_le, UInt32.le_iff_toNat_le]
  rfl

theorem toNat_toLower (c : Char) :
    c.toLower.toNat = if 65 ≤ c.toNat ∧ c.toNat ≤ 90 then c.toNat + 32 else c.toNat := by
  have hcapital : (65 ≤ c.val ∧ c.val ≤ 90) ↔ 65 ≤ c.toNat ∧ c.toNat ≤ 90 :=
    decide_eq_true_iff.symm.trans (isUpper_iff c)
  by_cases h : 65 ≤ c.val ∧ c.val ≤ 90
  · have hbounds := hcapital.mp h
    have hlower : c.toLower.val = c.val + 32 := congrArg Char.val (dif_pos h)
    rw [if_pos hbounds, ← Char.toNat_val, ← Char.toNat_val, hlower, UInt32.toNat_add]
    refine Nat.mod_eq_of_lt ?_
    rw [← Char.toNat_val] at hbounds
    change c.val.toNat + 32 < 4294967296
    omega
  · have hlower : c.toLower = c := dif_neg h
    rw [if_neg fun hbounds => h (hcapital.mpr hbounds), hlower]

theorem toLower_toLower (c : Char) : c.toLower.toLower = c.toLower := by
  refine Char.toNat_inj.mp ?_
  rw [toNat_toLower c.toLower, toNat_toLower c]
  by_cases h : 65 ≤ c.toNat ∧ c.toNat ≤ 90
  · rw [if_pos h, if_neg (by omega)]
  · rw [if_neg h, if_neg h]

theorem not_isUpper_toLower (c : Char) : c.toLower.isUpper = false := by
  refine Bool.eq_false_iff.mpr fun hcapital => ?_
  rw [isUpper_iff, toNat_toLower] at hcapital
  split at hcapital <;> omega

theorem toLower_of_not_isUpper {c : Char} (h : c.isUpper = false) : c.toLower = c := by
  refine Char.toNat_inj.mp ?_
  rw [toNat_toLower, if_neg fun hbounds => Bool.eq_false_iff.mp h ((isUpper_iff c).mpr hbounds)]

theorem ascii_toLower_iff {c : Char} : c.toLower.toNat < 0x80 ↔ c.toNat < 0x80 := by
  rw [toNat_toLower]
  split <;> omega

theorem asciiLower_asciiLower (t : Text) : asciiLower (asciiLower t) = asciiLower t := by
  rw [asciiLower, asciiLower, List.map_map]
  exact List.map_congr_left fun c _ => toLower_toLower c

theorem ascii_asciiLower_iff {t : Text} : Ascii (asciiLower t) ↔ Ascii t := by
  simp only [Ascii, asciiLower, List.forall_mem_map, ascii_toLower_iff]

theorem asciiLower_of_no_capital {t : Text} (h : ∀ c ∈ t, c.isUpper = false) :
    asciiLower t = t := by
  rw [asciiLower, List.map_congr_left fun c hc => toLower_of_not_isUpper (h c hc), List.map_id']

theorem length_asciiLower (t : Text) : (asciiLower t).length = t.length :=
  List.length_map _

/-! ## Word characters -/

theorem isAsciiWord_iff (c : Char) : isAsciiWord c = true ↔
    (48 ≤ c.toNat ∧ c.toNat ≤ 57) ∨ (65 ≤ c.toNat ∧ c.toNat ≤ 90) ∨ c.toNat = 95 ∨
      (97 ≤ c.toNat ∧ c.toNat ≤ 122) := by
  have hunderscore : c = '_' ↔ c.toNat = 95 := Char.toNat_inj.symm
  rw [show isAsciiWord c = (((c.isUpper || c.isLower) || c.isDigit) || c == '_') from rfl]
  simp only [Bool.or_eq_true, isUpper_iff, isLower_iff, isDigit_iff, beq_iff_eq, hunderscore]
  omega

theorem isAsciiWord_of_isDigit {c : Char} (h : c.isDigit = true) : isAsciiWord c = true :=
  (isAsciiWord_iff c).mpr (Or.inl ((isDigit_iff c).mp h))

theorem ascii_of_isAsciiWord {c : Char} (h : isAsciiWord c = true) : c.toNat < 0x80 := by
  have hranges := (isAsciiWord_iff c).mp h
  omega

theorem not_isBlank_of_isAsciiWord {c : Char} (h : isAsciiWord c = true) : isBlank c = false := by
  have hranges := (isAsciiWord_iff c).mp h
  refine Bool.eq_false_iff.mpr fun hblank => ?_
  simp only [isBlank, Bool.or_eq_true, Bool.and_eq_true, decide_eq_true_eq, beq_iff_eq] at hblank
  omega

/-! ## String literals -/

/-- The characters of a string whose bytes are all ASCII: one for each byte. -/
def letters (s : String) : Text :=
  s.toByteArray.data.toList.map fun b => Char.ofNat b.toNat

theorem toList_data_toByteArray_loop (bytes : List UInt8) (start : ByteArray) :
    (List.toByteArray.loop bytes start).data.toList = start.data.toList ++ bytes := by
  induction bytes generalizing start with
  | nil => exact (List.append_nil _).symm
  | cons b bs ih =>
      change (List.toByteArray.loop bs (start.push b)).data.toList = _
      rw [ih]
      simp

theorem bytes_ofList (t : Text) :
    (String.ofList t).toByteArray.data.toList = t.flatMap String.utf8EncodeChar :=
  toList_data_toByteArray_loop (t.flatMap String.utf8EncodeChar) ByteArray.empty

theorem ascii_of_letters {s : String} (h : Ascii (letters s)) {b : UInt8}
    (hb : b ∈ s.toByteArray.data.toList) : b.toNat < 0x80 := by
  have hvalid : b.toNat.isValidChar := Or.inl (Nat.lt_trans b.toNat_lt (by decide))
  have hletter := h _ (List.mem_map_of_mem hb)
  rwa [toNat_ofNat hvalid] at hletter

theorem toList_of_ascii {s : String} (hletters : Ascii (letters s)) : s.toList = letters s := by
  have h : ∀ b ∈ s.toByteArray.data.toList, b.toNat < 0x80 := fun _ => ascii_of_letters hletters
  rw [letters, ← String.ofList_toList (s := s), bytes_ofList, String.toList_ofList] at *
  generalize s.toList = t at h ⊢
  induction t with
  | nil => rfl
  | cons c cs ih =>
      rw [List.flatMap_cons] at h ⊢
      have hc : c.toNat ≤ 0x7f := by
        by_contra hhigh
        obtain ⟨b, rest, hbytes⟩ :=
          List.exists_cons_of_ne_nil (Utf8.encode_cons_ne_nil c [])
        rw [Utf8.encode_cons, Utf8.encode_nil, List.append_nil] at hbytes
        have hb : b ∈ String.utf8EncodeChar c := hbytes ▸ List.mem_cons_self
        exact absurd (h b (List.mem_append_left _ hb))
          (Nat.not_lt.mpr (Utf8.le_of_mem_utf8EncodeChar hhigh hb))
      rw [Utf8.utf8EncodeChar_of_ascii hc, List.singleton_append, List.map_cons,
        Utf8.toNat_byteOf hc, Char.ofNat_toNat, ← ih fun b hb => h b (List.mem_append_right _ hb)]

end Hotkeys.Text
