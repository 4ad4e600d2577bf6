import Hotkeys.Proofs.Text.Utf8

/-!
# Places in a text, counted in bytes

A place is between two characters or inside of one.  Only the former cut a text in two
(`splitAt?_eq_some_iff`), and the bytes of ASCII characters stand at such places
(`exists_of_encode_eq_append`).
-/

set_option autoImplicit false

namespace Hotkeys

/-- The difference of two numbers, if it is one. -/
def minus? (m n : Nat) : Option Nat :=
  if n ≤ m then some (m - n) else none

theorem minus?_of_le {m n : Nat} (h : n ≤ m) : minus? m n = some (m - n) :=
  if_pos h

namespace Text

open Utf8 (byteOf encode size)

/-! ## Sizes -/

namespace Utf8

@[simp]
theorem size_nil : size [] = 0 := rfl

@[simp]
theorem size_append (s t : Text) : size (s ++ t) = size s + size t := by
  unfold size
  rw [encode_append, List.length_append]

theorem size_cons (c : Char) (t : Text) : size (c :: t) = c.utf8Size + size t := by
  unfold size
  rw [encode_cons, List.length_append, String.length_utf8EncodeChar]

/-- A character is one byte just when it is ASCII. -/
theorem utf8Size_eq_one_iff {c : Char} : c.utf8Size = 1 ↔ c.toNat ≤ 0x7f := by
  rw [Char.utf8Size_eq_one_iff, UInt32.le_iff_toNat_le]
  rfl

theorem length_le_size (t : Text) : t.length ≤ size t := by
  induction t with
  | nil => exact Nat.le_refl 0
  | cons c cs ih =>
      have hone := c.utf8Size_pos
      rw [size_cons, List.length_cons]
      omega

/-- A text has as many bytes as characters just when all of it is ASCII. -/
theorem size_eq_length_iff (t : Text) : size t = t.length ↔ ∀ c ∈ t, c.toNat ≤ 0x7f := by
  induction t with
  | nil => simp
  | cons c cs ih =>
      have hone := c.utf8Size_pos
      have hrest := length_le_size cs
      rw [List.forall_mem_cons, ← ih, ← utf8Size_eq_one_iff, size_cons, List.length_cons]
      omega

end Utf8

/-! ## Cuts -/

/-- The text before and behind the place `n`.  There is none behind the end, and none that is inside
of a character. -/
def splitAt? : Text → Nat → Option (Text × Text)
  | t, 0 => some ([], t)
  | [], _ + 1 => none
  | c :: cs, n + 1 =>
    if c.utf8Size ≤ n + 1 then
      (splitAt? cs (n + 1 - c.utf8Size)).map fun cut => (c :: cut.1, cut.2)
    else none

theorem splitAt?_append (u v : Text) : splitAt? (u ++ v) (size u) = some (u, v) := by
  induction u with
  | nil => cases v <;> rfl
  | cons c cs ih =>
      have hone := c.utf8Size_pos
      obtain ⟨n, hn⟩ : ∃ n, size (c :: cs) = n + 1 :=
        Nat.exists_eq_succ_of_ne_zero (by rw [Utf8.size_cons]; omega)
      have hrest : n + 1 - c.utf8Size = size cs := by
        rw [← hn, Utf8.size_cons]
        omega
      have hfits : c.utf8Size ≤ n + 1 := by
        rw [← hn, Utf8.size_cons]
        omega
      rw [hn, List.cons_append]
      unfold splitAt?
      rw [if_pos hfits, hrest, ih]
      rfl

/-- A cut is at a place between two characters. -/
theorem splitAt?_eq_some_iff {t u v : Text} {n : Nat} :
    splitAt? t n = some (u, v) ↔ t = u ++ v ∧ size u = n := by
  constructor
  · intro hcut
    induction t generalizing n u with
    | nil =>
        cases n with
        | zero =>
            rw [splitAt?, Option.some.injEq, Prod.mk.injEq] at hcut
            rw [← hcut.1, ← hcut.2]
            exact ⟨rfl, rfl⟩
        | succ n => exact absurd hcut (Option.some_ne_none _).symm
    | cons c cs ih =>
        cases n with
        | zero =>
            rw [splitAt?, Option.some.injEq, Prod.mk.injEq] at hcut
            rw [← hcut.1, ← hcut.2]
            exact ⟨rfl, rfl⟩
        | succ n =>
            unfold splitAt? at hcut
            split at hcut
            case isFalse => exact absurd hcut (Option.some_ne_none _).symm
            case isTrue hfits =>
              obtain ⟨⟨before, behind⟩, hrest, heq⟩ := Option.map_eq_some_iff.mp hcut
              rw [Prod.mk.injEq] at heq
              obtain ⟨rfl, rfl⟩ := heq
              obtain ⟨rfl, hsize⟩ := ih hrest
              refine ⟨rfl, ?_⟩
              rw [Utf8.size_cons, hsize]
              omega
  · rintro ⟨rfl, rfl⟩
    exact splitAt?_append u v

/-! ## Slices -/

/-- The text between two places. -/
def slice? (t : Text) (first last : Nat) : Option Text := do
  let cut ← splitAt? t last
  let cut ← splitAt? cut.1 first
  return cut.2

theorem slice?_append (u t v : Text) :
    slice? (u ++ t ++ v) (size u) (size u + size t) = some t := by
  unfold slice?
  rw [← Utf8.size_append, splitAt?_append]
  simp only [Option.bind_eq_bind, Option.bind_some, splitAt?_append]
  rfl

/-- The place of the first occurrence of a character. -/
def placeOf? (c : Char) : Text → Option Nat
  | [] => none
  | d :: ds => if d = c then some 0 else (placeOf? c ds).map (d.utf8Size + ·)

theorem placeOf?_of_not_mem {c : Char} {t : Text} (h : c ∉ t) : placeOf? c t = none := by
  induction t with
  | nil => rfl
  | cons d ds ih =>
      rw [List.mem_cons, not_or] at h
      unfold placeOf?
      rw [if_neg (Ne.symm h.1), ih h.2]
      rfl

theorem placeOf?_append {c : Char} {t : Text} (h : c ∉ t) (v : Text) :
    placeOf? c (t ++ c :: v) = some (size t) := by
  induction t with
  | nil =>
      rw [List.nil_append, placeOf?, if_pos rfl]
      rfl
  | cons d ds ih =>
      rw [List.mem_cons, not_or] at h
      rw [List.cons_append, placeOf?, if_neg (Ne.symm h.1), ih h.2, Utf8.size_cons]
      rfl

/-- The place of the last occurrence of a character. -/
def lastPlaceOf? (c : Char) : Text → Option Nat
  | [] => none
  | d :: ds =>
    match lastPlaceOf? c ds with
    | some n => some (d.utf8Size + n)
    | none => if d = c then some 0 else none

theorem lastPlaceOf?_of_not_mem {c : Char} {t : Text} (h : c ∉ t) : lastPlaceOf? c t = none := by
  induction t with
  | nil => rfl
  | cons d ds ih =>
      rw [List.mem_cons, not_or] at h
      unfold lastPlaceOf?
      rw [ih h.2]
      exact if_neg (Ne.symm h.1)

theorem lastPlaceOf?_append {c : Char} (t : Text) {v : Text} (h : c ∉ v) :
    lastPlaceOf? c (t ++ c :: v) = some (size t) := by
  induction t with
  | nil =>
      rw [List.nil_append, lastPlaceOf?, lastPlaceOf?_of_not_mem h]
      exact if_pos rfl
  | cons d ds ih =>
      rw [List.cons_append, lastPlaceOf?, ih, Utf8.size_cons]

/-- The byte of an ASCII character stands between the bytes of the characters before and behind
it. -/
theorem exists_of_encode_eq_append {a : Char} (ha : a.toNat ≤ 0x7f) {t : Text}
    {before behind : List UInt8} (h : encode t = before ++ byteOf a :: behind) :
    ∃ u v, t = u ++ a :: v ∧ encode u = before ∧ encode v = behind := by
  induction t generalizing before with
  | nil => simp at h
  | cons c cs ih =>
      rw [Utf8.encode_cons, List.append_eq_append_iff] at h
      -- The byte belongs to the first character or to a later one.
      rcases h with ⟨more, hbefore, hrest⟩ | ⟨more, hchar, hrest⟩
      · obtain ⟨u, v, rfl, hu, hv⟩ := ih hrest
        refine ⟨c :: u, v, rfl, ?_, hv⟩
        rw [Utf8.encode_cons, hu, hbefore]
      · cases more with
        | nil =>
            rw [List.append_nil] at hchar
            have hfirst : encode cs = [] ++ byteOf a :: behind := hrest.symm
            obtain ⟨u, v, rfl, hu, hv⟩ := ih hfirst
            refine ⟨c :: u, v, rfl, ?_, hv⟩
            rw [Utf8.encode_cons, hu, hchar, List.append_nil]
        | cons b more =>
            rw [List.cons_append, List.cons.injEq] at hrest
            obtain ⟨rfl, hrest⟩ := hrest
            have hc : c = a := by
              apply (Utf8.byteOf_mem_utf8EncodeChar ha).mp
              rw [hchar]
              exact List.mem_append_right before List.mem_cons_self
            subst hc
            rw [Utf8.utf8EncodeChar_of_ascii ha, List.singleton_eq_append_iff] at hchar
            rcases hchar with ⟨rfl, hone⟩ | ⟨_, hnone⟩
            · rw [List.cons.injEq] at hone
              refine ⟨[], cs, rfl, rfl, ?_⟩
              rw [hrest, hone.2, List.nil_append]
            · exact absurd hnone (List.cons_ne_nil _ _)

end Text

end Hotkeys
