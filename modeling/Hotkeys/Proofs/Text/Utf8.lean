import Mathlib.Tactic.IntervalCases
import Hotkeys.Text.Utf8

/-!
# Reading back what was written

The machine that decodes reads every character back from its bytes, so decoding undoes encoding
(`decodeLossy_encode`).  And an ASCII byte among the bytes of a text is always a character of its
own, never a part of another one (`mem_encode_iff`, `head?_encode_cons`).
-/

set_option autoImplicit false

namespace Hotkeys.Text.Utf8

/-! ## First bytes -/

theorem first_of_ascii {n : Nat} (h : n ≤ 0x7f) :
    first (UInt8.ofNat n) = ([some (Char.ofNat n)], none) := by
  have hn : (UInt8.ofNat n).toNat = n :=
    UInt8.toNat_ofNat_of_lt (Nat.lt_of_le_of_lt h (by decide))
  have hsmall : UInt8.ofNat n < 0x80 := by
    rw [UInt8.lt_iff_toNat_lt, hn]
    exact Nat.lt_succ_of_le h
  rw [first, if_pos hsmall, hn]

theorem first_of_two {n : Nat} (hlow : 2 ≤ n) (hhigh : n < 0x20) :
    first (UInt8.ofNat (n + 0xc0)) = ([], some ⟨0, 0x80, 0xbf, n⟩) := by
  interval_cases n <;> rfl

theorem first_of_three {n : Nat} (h : n < 0x10) :
    first (UInt8.ofNat (n + 0xe0)) =
      ([], some ⟨1, if n = 0 then 0xa0 else 0x80, if n = 0xd then 0x9f else 0xbf, n⟩) := by
  interval_cases n <;> rfl

theorem first_of_four {n : Nat} (h : n < 5) :
    first (UInt8.ofNat (n + 0xf0)) =
      ([], some ⟨2, if n = 0 then 0x90 else 0x80, if n = 4 then 0x8f else 0xbf, n⟩) := by
  interval_cases n <;> rfl

/-! ## Later bytes -/

theorem toNat_later {n : Nat} (hn : n < 0x40) : (UInt8.ofNat (n + 0x80)).toNat = n + 0x80 :=
  UInt8.toNat_ofNat_of_lt (Nat.lt_trans (Nat.add_lt_add_right hn 0x80) (by decide))

/-- The last byte of a character. -/
theorem found_last {n : Nat} (hn : n < 0x40) (bits : Nat) (bs : List UInt8) :
    found (some ⟨0, 0x80, 0xbf, bits⟩) (UInt8.ofNat (n + 0x80) :: bs) =
      some (Char.ofNat (bits * 64 + n)) :: found none bs := by
  have hwithin : 0x80 ≤ UInt8.ofNat (n + 0x80) ∧ UInt8.ofNat (n + 0x80) ≤ 0xbf := by
    rw [UInt8.le_iff_toNat_le, UInt8.le_iff_toNat_le, toNat_later hn]
    exact ⟨Nat.le_add_left 0x80 n, Nat.le_of_lt_succ (Nat.add_lt_add_right hn 0x80)⟩
  rw [found, step, if_pos hwithin, toNat_later hn, Nat.add_sub_cancel]
  rfl

/-- A byte of a character that is neither its first nor its last. -/
theorem found_more {n : Nat} (hn : n < 0x40) {low high : UInt8} (hlow : low.toNat ≤ n + 0x80)
    (hhigh : n + 0x80 ≤ high.toNat) (more bits : Nat) (bs : List UInt8) :
    found (some ⟨more + 1, low, high, bits⟩) (UInt8.ofNat (n + 0x80) :: bs) =
      found (some ⟨more, 0x80, 0xbf, bits * 64 + n⟩) bs := by
  have hwithin : low ≤ UInt8.ofNat (n + 0x80) ∧ UInt8.ofNat (n + 0x80) ≤ high := by
    rw [UInt8.le_iff_toNat_le, UInt8.le_iff_toNat_le, toNat_later hn]
    exact ⟨hlow, hhigh⟩
  rw [found, step, if_pos hwithin, toNat_later hn, Nat.add_sub_cancel]
  rfl

/-! ## Characters -/

/-- A character is a code point outside of the surrogates. -/
theorem toNat_scalar (c : Char) :
    c.toNat < 0xd800 ∨ (0xdfff < c.toNat ∧ c.toNat < 0x110000) :=
  c.valid

/-- The machine finds a character at its bytes.  The cases are the four lengths; the surrogates
are what the second byte of three is bounded for, and the bounds of four are those of Unicode. -/
theorem found_utf8EncodeChar (c : Char) (bs : List UInt8) :
    found none (String.utf8EncodeChar c ++ bs) = some c :: found none bs := by
  have hscalar := toNat_scalar c
  have hc : Char.ofNat c.toNat = c := Char.ofNat_toNat c
  have hval : c.val.toNat = c.toNat := rfl
  unfold String.utf8EncodeChar
  simp only [hval]
  generalize c.toNat = v at hscalar hc
  subst hc
  split
  case isTrue hone =>
    rw [List.singleton_append, found, step, first_of_ascii hone]
    rfl
  case isFalse hone =>
  split
  case isTrue htwo =>
    have hlead : v / 64 % 0x20 = v / 64 := Nat.mod_eq_of_lt (by omega)
    have hsum : v / 64 * 64 + v % 0x40 = v := by omega
    rw [hlead, List.cons_append, found, step, first_of_two (by omega) (by omega),
      List.nil_append, List.singleton_append, found_last (by omega), hsum]
  case isFalse htwo =>
  split
  case isTrue hthree =>
    have hlead : v / 4096 % 0x10 = v / 4096 := Nat.mod_eq_of_lt (by omega)
    have hsum : (v / 4096 * 64 + v / 64 % 0x40) * 64 + v % 0x40 = v := by omega
    have hlow : (if v / 4096 = 0 then 0xa0 else 0x80 : UInt8).toNat ≤
        v / 64 % 0x40 + 0x80 := by
      split <;> (simp only [UInt8.reduceToNat]; omega)
    have hhigh : v / 64 % 0x40 + 0x80 ≤
        (if v / 4096 = 0xd then 0x9f else 0xbf : UInt8).toNat := by
      split <;> (simp only [UInt8.reduceToNat]; omega)
    rw [hlead, List.cons_append, found, step, first_of_three (by omega),
      List.nil_append, List.cons_append, found_more (by omega) hlow hhigh, List.singleton_append,
      found_last (by omega), hsum]
  case isFalse hthree =>
    have hlead : v / 262144 % 0x08 = v / 262144 := Nat.mod_eq_of_lt (by omega)
    have hsum :
        ((v / 262144 * 64 + v / 4096 % 0x40) * 64 + v / 64 % 0x40) * 64 + v % 0x40 = v := by
      omega
    have hlow : (if v / 262144 = 0 then 0x90 else 0x80 : UInt8).toNat ≤
        v / 4096 % 0x40 + 0x80 := by
      split <;> (simp only [UInt8.reduceToNat]; omega)
    have hhigh : v / 4096 % 0x40 + 0x80 ≤
        (if v / 262144 = 4 then 0x8f else 0xbf : UInt8).toNat := by
      split <;> (simp only [UInt8.reduceToNat]; omega)
    have hlater : (0x80 : UInt8).toNat ≤ v / 64 % 0x40 + 0x80 ∧
        v / 64 % 0x40 + 0x80 ≤ (0xbf : UInt8).toNat := by
      simp only [UInt8.reduceToNat]
      omega
    rw [hlead, List.cons_append, found, step, first_of_four (by omega),
      List.nil_append, List.cons_append, found_more (by omega) hlow hhigh, List.cons_append,
      found_more (by omega) hlater.1 hlater.2, List.singleton_append, found_last (by omega), hsum]

/-! ## Texts -/

@[simp]
theorem encode_nil : encode [] = [] := rfl

@[simp]
theorem encode_append (s t : Text) : encode (s ++ t) = encode s ++ encode t :=
  List.flatMap_append

theorem encode_cons (c : Char) (t : Text) : encode (c :: t) = String.utf8EncodeChar c ++ encode t :=
  List.flatMap_cons

theorem encode_cons_ne_nil (c : Char) (t : Text) : encode (c :: t) ≠ [] := by
  rw [encode_cons]
  exact List.append_ne_nil_of_left_ne_nil String.utf8EncodeChar_ne_nil _

theorem encode_eq_nil {t : Text} (h : encode t = []) : t = [] := by
  cases t with
  | nil => rfl
  | cons c cs => exact absurd h (encode_cons_ne_nil c cs)

theorem found_encode (t : Text) : found none (encode t) = t.map some := by
  induction t with
  | nil => rfl
  | cons c cs ih => rw [encode_cons, found_utf8EncodeChar, List.map_cons, ih]

/-- The bytes of a text are read back as the text. -/
theorem decodeLossy_encode (t : Text) : decodeLossy (encode t) = t := by
  rw [decodeLossy, found_encode, List.map_map]
  exact List.map_id t

/-! ## ASCII -/

/-- The byte of an ASCII character. -/
def byteOf (c : Char) : UInt8 :=
  UInt8.ofNat c.toNat

theorem toNat_byteOf {c : Char} (h : c.toNat ≤ 0x7f) : (byteOf c).toNat = c.toNat :=
  UInt8.toNat_ofNat_of_lt (Nat.lt_of_le_of_lt h (by decide))

theorem byteOf_inj {c d : Char} (hc : c.toNat ≤ 0x7f) (hd : d.toNat ≤ 0x7f) :
    byteOf c = byteOf d ↔ c = d := by
  rw [← UInt8.toNat_inj, toNat_byteOf hc, toNat_byteOf hd, Char.toNat_inj]

theorem utf8EncodeChar_of_ascii {c : Char} (h : c.toNat ≤ 0x7f) :
    String.utf8EncodeChar c = [byteOf c] :=
  if_pos h

theorem le_toNat_ofNat {n : Nat} (hlow : 0x80 ≤ n) (hhigh : n < 0x100) :
    0x80 ≤ (UInt8.ofNat n).toNat := by
  rwa [UInt8.toNat_ofNat_of_lt' hhigh]

/-- All bytes of a character that is not ASCII are high. -/
theorem le_of_mem_utf8EncodeChar {c : Char} (h : ¬ c.toNat ≤ 0x7f) {b : UInt8}
    (hb : b ∈ String.utf8EncodeChar c) : 0x80 ≤ b.toNat := by
  have hval : c.val.toNat = c.toNat := rfl
  unfold String.utf8EncodeChar at hb
  simp only [hval] at hb
  rw [if_neg h] at hb
  split at hb
  case isTrue =>
    simp only [List.mem_cons, List.not_mem_nil, or_false] at hb
    rcases hb with rfl | rfl <;> exact le_toNat_ofNat (by omega) (by omega)
  case isFalse =>
  split at hb
  case isTrue =>
    simp only [List.mem_cons, List.not_mem_nil, or_false] at hb
    rcases hb with rfl | rfl | rfl <;> exact le_toNat_ofNat (by omega) (by omega)
  case isFalse =>
    simp only [List.mem_cons, List.not_mem_nil, or_false] at hb
    rcases hb with rfl | rfl | rfl | rfl <;> exact le_toNat_ofNat (by omega) (by omega)

/-- The byte of an ASCII character is a byte of no other character. -/
theorem byteOf_mem_utf8EncodeChar {a : Char} (ha : a.toNat ≤ 0x7f) {c : Char} :
    byteOf a ∈ String.utf8EncodeChar c ↔ c = a := by
  by_cases hc : c.toNat ≤ 0x7f
  · rw [utf8EncodeChar_of_ascii hc, List.mem_singleton, byteOf_inj ha hc, eq_comm]
  · constructor
    · intro hmem
      have hhigh := le_of_mem_utf8EncodeChar hc hmem
      rw [toNat_byteOf ha] at hhigh
      omega
    · rintro rfl
      exact absurd ha hc

theorem mem_encode_iff {a : Char} (ha : a.toNat ≤ 0x7f) {t : Text} :
    byteOf a ∈ encode t ↔ a ∈ t := by
  rw [encode, List.mem_flatMap]
  constructor
  · rintro ⟨c, hc, hb⟩
    rwa [(byteOf_mem_utf8EncodeChar ha).mp hb] at hc
  · intro hmem
    exact ⟨a, hmem, (byteOf_mem_utf8EncodeChar ha).mpr rfl⟩

/-- A text begins with an ASCII character just when its bytes begin with the byte of it. -/
theorem head?_encode_cons {a : Char} (ha : a.toNat ≤ 0x7f) (c : Char) (t : Text) :
    (encode (c :: t)).head? = some (byteOf a) ↔ c = a := by
  rw [encode_cons]
  constructor
  · intro hhead
    obtain ⟨b, bs, hbytes⟩ :=
      List.exists_cons_of_ne_nil (String.utf8EncodeChar_ne_nil (c := c))
    rw [hbytes, List.cons_append, List.head?_cons, Option.some.injEq] at hhead
    refine (byteOf_mem_utf8EncodeChar ha).mp ?_
    rw [hbytes, hhead]
    exact List.mem_cons_self
  · rintro rfl
    rw [utf8EncodeChar_of_ascii ha]
    rfl

/-- Whether a text begins with ASCII characters can be seen from its bytes. -/
theorem isPrefixOf_encode {lead : Text} (hlead : ∀ a ∈ lead, a.toNat ≤ 0x7f) (t : Text) :
    (lead.map byteOf).isPrefixOf (encode t) = beginsWith t lead := by
  induction lead generalizing t with
  | nil => rfl
  | cons a lead ih =>
      cases t with
      | nil => rfl
      | cons c cs =>
          have ha := hlead a List.mem_cons_self
          rw [beginsWith, after?, List.map_cons]
          by_cases hc : a = c
          · subst hc
            rw [if_pos rfl, encode_cons, utf8EncodeChar_of_ascii ha, List.singleton_append,
              List.isPrefixOf_cons_cons_self, ih fun b hb => hlead b (List.mem_cons_of_mem a hb)]
            rfl
          · obtain ⟨b, bs, hbytes⟩ := List.exists_cons_of_ne_nil (encode_cons_ne_nil c cs)
            have hb : byteOf a ≠ b := by
              rintro rfl
              exact hc ((head?_encode_cons ha c cs).mp (by rw [hbytes]; rfl)).symm
            rw [if_neg hc, hbytes, List.isPrefixOf_cons_cons, beq_false_of_ne hb]
            rfl

end Hotkeys.Text.Utf8
