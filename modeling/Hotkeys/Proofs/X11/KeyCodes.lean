import Hotkeys.X11.KeyMap
import Mathlib.Data.List.Basic

/-!
# Codes of keysyms

A key map is built row by row from the table of a keyboard.  Read back, it has for each keysym the
codes of the rows that hold it, in ascending order (`mem_codes_addRows`, `pairwise_codes_addRows`),
and the mask of a keysym is the bit of the first row of modifier codes that holds one of these
(`modifierMask_of_first`, `modifierMask_of_none`).

Main statement: `codes_invert_table`.
-/

set_option autoImplicit false

namespace Hotkeys.X11

open Hotkeys.Keys (Keysym Mask Modifier)

/-! ## Rows of a table -/

/-- Row `i` of a table with rows of `width` elements.  The last row may be short, and behind it
there are only empty rows, as there are where rows have no width. -/
def rowAt {α : Type} (width : Nat) (table : List α) (i : Nat) : List α :=
  (table.drop (i * width)).take width

theorem getD_rowsOf {α : Type} (width : Nat) (table : List α) (i : Nat) :
    ((rowsOf width table)[i]?).getD [] = rowAt width table i := by
  cases width with
  | zero => simp [rowsOf, rowAt]
  | succ extra =>
      rw [rowsOf]
      fun_induction rows extra table generalizing i with
      | case1 => simp [rowAt]
      | case2 a as ih =>
          cases i with
          | zero => simp [rowAt]
          | succ i =>
              have hskip : (i + 1) * (extra + 1) = extra + i * (extra + 1) + 1 := by
                rw [Nat.succ_mul]
                omega
              rw [List.getElem?_cons_succ, ih, rowAt, rowAt, List.drop_drop, hskip,
                List.drop_succ_cons]

theorem mem_rowAt_iff {α : Type} {width : Nat} {table : List α} {i : Nat} {a : α} :
    a ∈ rowAt width table i ↔ ∃ row, (rowsOf width table)[i]? = some row ∧ a ∈ row := by
  rw [← getD_rowsOf]
  cases (rowsOf width table)[i]? <;> simp

theorem rowAt_zero {α : Type} (table : List α) (i : Nat) : rowAt 0 table i = [] :=
  List.take_zero

namespace KeyMap

/-! ## One more code -/

/-- Codes with one more at the end, unless it is among them. -/
def withCode (code : Keycode) (codes : List Keycode) : List Keycode :=
  if codes.contains code then codes else codes ++ [code]

theorem mem_withCode {code c : Keycode} {codes : List Keycode} :
    c ∈ withCode code codes ↔ c ∈ codes ∨ c = code := by
  rw [withCode]
  split
  case isTrue h =>
    have hmem : code ∈ codes := List.contains_iff_mem.mp h
    refine ⟨Or.inl, fun hc => hc.elim id ?_⟩
    rintro rfl
    exact hmem
  case isFalse => rw [List.mem_append, List.mem_singleton]

theorem withCode_withCode (code : Keycode) (codes : List Keycode) :
    withCode code (withCode code codes) = withCode code codes :=
  if_pos (List.contains_iff_mem.mpr (mem_withCode.mpr (Or.inr rfl)))

/-- A code above all others comes to stand at the end. -/
theorem pairwise_withCode {code : Keycode} {codes : List Keycode} (h : codes.Pairwise (· < ·))
    (hbelow : ∀ c ∈ codes, c < code) : (withCode code codes).Pairwise (· < ·) := by
  rw [withCode]
  split
  case isTrue => exact h
  case isFalse =>
    refine List.pairwise_append.mpr ⟨h, List.pairwise_singleton _ _, fun c hc d hd => ?_⟩
    rw [List.mem_singleton.mp hd]
    exact hbelow c hc

theorem codes_addTo (code : Keycode) (sym s : Keysym) (entries : List (Keysym × List Keycode)) :
    codes ⟨addTo code sym entries⟩ s =
      if s = sym then withCode code (codes ⟨entries⟩ s) else codes ⟨entries⟩ s := by
  induction entries with
  | nil =>
      by_cases h : s = sym
      · simp [addTo, codes, withCode, h]
      · simp [addTo, codes, h, Ne.symm h]
  | cons e rest ih =>
      obtain ⟨first, more⟩ := e
      -- Only the first entry of a keysym is ever looked at.
      have hcons : ∀ codes' entries', codes ⟨(first, codes') :: entries'⟩ s =
          if first = s then codes' else codes ⟨entries'⟩ s := by
        intro codes' entries'
        by_cases h : first = s <;> simp [codes, h]
      rw [addTo]
      split
      case isTrue heq =>
        subst heq
        rw [hcons, hcons]
        by_cases h : s = first
        · rw [if_pos h.symm, if_pos h, if_pos h.symm, withCode]
        · rw [if_neg (Ne.symm h), if_neg h, if_neg (Ne.symm h)]
      case isFalse hne =>
        rw [hcons, hcons, ih]
        by_cases h : first = s
        · rw [if_pos h, if_pos h, if_neg (h ▸ hne)]
        · rw [if_neg h, if_neg h]

/-! ## One more row -/

theorem codes_foldl_addTo (code : Keycode) (syms : List Keysym) (s : Keysym)
    (entries : List (Keysym × List Keycode)) :
    codes ⟨syms.foldl (fun entries sym => addTo code sym entries) entries⟩ s =
      if s ∈ syms then withCode code (codes ⟨entries⟩ s) else codes ⟨entries⟩ s := by
  induction syms generalizing entries with
  | nil => rfl
  | cons sym syms ih =>
      rw [List.foldl_cons, ih, codes_addTo]
      by_cases hsym : s = sym <;> by_cases hsyms : s ∈ syms <;>
        simp [hsym, hsyms, withCode_withCode]

/-- A row adds its code to each of its keysyms. -/
theorem codes_addRow (code : Keycode) (row : List Keysym) (m : KeyMap) (s : Keysym) :
    (addRow code row m).codes s =
      if s ≠ 0 ∧ s ∈ row then withCode code (m.codes s) else m.codes s := by
  rw [addRow, codes_foldl_addTo]
  simp only [List.mem_filter, bne_iff_ne, and_comm]

theorem mem_codes_addRow {code c : Keycode} {row : List Keysym} {m : KeyMap} {s : Keysym} :
    c ∈ (addRow code row m).codes s ↔ c ∈ m.codes s ∨ (c = code ∧ s ≠ 0 ∧ s ∈ row) := by
  rw [codes_addRow]
  split
  case isTrue h => rw [mem_withCode, and_iff_left h]
  case isFalse h => simp [h]

/-! ## All rows -/

/-- What a map has after some rows: what it had, and the codes of the rows that hold the keysym, as
far as codes go. -/
theorem mem_codes_addRows {code c : Keycode} {table : List (List Keysym)} {m : KeyMap}
    {s : Keysym} :
    c ∈ (addRows code table m).codes s ↔
      c ∈ m.codes s ∨
        (s ≠ 0 ∧ c ≤ maxKeycode ∧ ∃ i row, table[i]? = some row ∧ c = code + i ∧ s ∈ row) := by
  induction table generalizing code m with
  | nil => simp [addRows]
  | cons row rest ih =>
      -- The code of the first row is `code`, and the others count on from there.
      have hrows : (∃ i r, (row :: rest)[i]? = some r ∧ c = code + i ∧ s ∈ r) ↔
          (c = code ∧ s ∈ row) ∨ ∃ i r, rest[i]? = some r ∧ c = code + 1 + i ∧ s ∈ r := by
        constructor
        · rintro ⟨i, r, hr, hc, hs⟩
          cases i with
          | zero =>
              obtain rfl : row = r := Option.some.inj hr
              exact .inl ⟨hc, hs⟩
          | succ i => exact .inr ⟨i, r, hr, hc.trans (Nat.add_right_comm code i 1), hs⟩
        · rintro (⟨hc, hs⟩ | ⟨i, r, hr, hc, hs⟩)
          · exact ⟨0, row, rfl, hc, hs⟩
          · exact ⟨i + 1, r, hr, hc.trans (Nat.add_right_comm code 1 i), hs⟩
      rw [hrows, addRows]
      split
      case isTrue hcode =>
        rw [ih, mem_codes_addRow]
        constructor
        · rintro ((hc | ⟨hc, hs, hrow⟩) | ⟨hs, hle, hrest⟩)
          · exact .inl hc
          · exact .inr ⟨hs, hc ▸ hcode, .inl ⟨hc, hrow⟩⟩
          · exact .inr ⟨hs, hle, .inr hrest⟩
        · rintro (hc | ⟨hs, hle, ⟨hc, hrow⟩ | hrest⟩)
          · exact .inl (.inl hc)
          · exact .inl (.inr ⟨hc, hs, hrow⟩)
          · exact .inr ⟨hs, hle, hrest⟩
      case isFalse hcode =>
        refine ⟨.inl, fun h => h.resolve_right ?_⟩
        rintro ⟨-, hle, ⟨rfl, -⟩ | ⟨i, r, -, rfl, -⟩⟩
        · exact hcode hle
        · exact hcode (Nat.le_trans (Nat.le_add_right code (1 + i)) (Nat.add_assoc code 1 i ▸ hle))

theorem le_maxKeycode_of_mem_ofTable {first : Keycode} {perCode : Nat} {table : List Keysym}
    {s : Keysym} {code : Keycode} (h : code ∈ (ofTable first perCode table).codes s) :
    code ≤ maxKeycode := by
  rcases mem_codes_addRows.mp h with hnone | ⟨-, hle, -⟩
  · exact absurd hnone List.not_mem_nil
  · exact hle

/-- The codes stay in ascending order, since each row has a larger code than those before it. -/
theorem pairwise_codes_addRows {code : Keycode} {m : KeyMap} {s : Keysym}
    (h : (m.codes s).Pairwise (· < ·)) (hbelow : ∀ c ∈ m.codes s, c < code)
    (table : List (List Keysym)) : ((addRows code table m).codes s).Pairwise (· < ·) := by
  induction table generalizing code m with
  | nil => exact h
  | cons row rest ih =>
      rw [addRows]
      split
      case isFalse => exact h
      case isTrue =>
        refine ih ?_ fun c hc => ?_
        · rw [codes_addRow]
          split
          case isTrue => exact pairwise_withCode h hbelow
          case isFalse => exact h
        · rcases mem_codes_addRow.mp hc with hold | ⟨rfl, -⟩
          · exact Nat.lt_succ_of_lt (hbelow c hold)
          · exact Nat.lt_succ_self c

/-! ## Codes in bytes -/

/-- The code of row `i`, computed in bytes: the number of the row has to fit, and so has the sum. -/
def codeOf? (first : Keycode) (i : Nat) : Option Keycode :=
  if i ≤ maxKeycode then if first + i ≤ maxKeycode then some (first + i) else none else none

/-- The map with the rows from row `i` on, up to the first row that has no code. -/
def addCoded (first : Keycode) (i : Nat) : List (List Keysym) → KeyMap → KeyMap
  | [], m => m
  | row :: rest, m =>
    match codeOf? first i with
    | some code => addCoded first (i + 1) rest (addRow code row m)
    | none => m

theorem addCoded_eq (first : Keycode) (i : Nat) (table : List (List Keysym)) (m : KeyMap) :
    addCoded first i table m = addRows (first + i) table m := by
  induction table generalizing i m with
  | nil => rfl
  | cons row rest ih =>
      rw [addCoded, addRows]
      by_cases hcode : first + i ≤ maxKeycode
      · have hi : i ≤ maxKeycode := Nat.le_trans (Nat.le_add_left i first) hcode
        rw [codeOf?, if_pos hi, if_pos hcode, if_pos hcode]
        exact ih (i + 1) _
      · rw [codeOf?, if_neg hcode, ite_self, if_neg hcode]

/-! ## Masks -/

/-- Whether a row of modifier codes holds one of the wanted codes; zero stands for no code. -/
def Holds (wanted row : List Keycode) : Prop :=
  ∃ code ∈ row, code ≠ 0 ∧ code ∈ wanted

theorem any_eq_true_iff {wanted row : List Keycode} :
    (row.any fun code => code != 0 && wanted.contains code) = true ↔ Holds wanted row := by
  simp [Holds]

theorem mask_getElem :
    ∀ k (hk : k < Modifier.all.length), (Modifier.all[k]).mask = (1 : Mask) <<< k := by
  decide

variable {m : KeyMap} {sym : Keysym} {perModifier : Nat} {table : List Keycode}

/-- The first row with a wanted code gives its bit. -/
theorem modifierMask_of_first {k : Nat} (hk : k < 8)
    (h : Holds (m.codes sym) (rowAt perModifier table k))
    (hfirst : ∀ j < k, ¬Holds (m.codes sym) (rowAt perModifier table j)) :
    m.modifierMask sym perModifier table = (1 : Mask) <<< k := by
  obtain ⟨code, hcode, hwanted⟩ := h
  obtain ⟨row, hrow, hmem⟩ := mem_rowAt_iff.mp hcode
  obtain ⟨hlength, rfl⟩ := List.getElem?_eq_some_iff.mp hrow
  have hzip : k < ((rowsOf perModifier table).zip Modifier.all).length := by
    rw [List.length_zip]
    exact Nat.lt_min.mpr ⟨hlength, hk⟩
  have hfind : ((rowsOf perModifier table).zip Modifier.all).find? (fun r =>
      r.1.any fun code => code != 0 && (m.codes sym).contains code) =
        some ((rowsOf perModifier table)[k], Modifier.all[k]) := by
    refine List.find?_eq_some_iff_getElem.mpr
      ⟨any_eq_true_iff.mpr ⟨code, hmem, hwanted⟩, k, hzip, List.getElem_zip, fun j hj => ?_⟩
    have hnot := hfirst j hj
    rw [← getD_rowsOf, List.getElem?_eq_getElem (Nat.lt_trans hj hlength), Option.getD_some,
      ← any_eq_true_iff, Bool.not_eq_true] at hnot
    rw [List.getElem_zip, Bool.not_eq_true']
    exact hnot
  rw [modifierMask, hfind]
  exact mask_getElem k hk

/-- Without a row that has a wanted code there is no bit. -/
theorem modifierMask_of_none (h : ∀ k < 8, ¬Holds (m.codes sym) (rowAt perModifier table k)) :
    m.modifierMask sym perModifier table = 0 := by
  have hfind : ((rowsOf perModifier table).zip Modifier.all).find? (fun r =>
      r.1.any fun code => code != 0 && (m.codes sym).contains code) = none := by
    refine List.find?_eq_none.mpr fun r hr hany => ?_
    obtain ⟨k, hk, rfl⟩ := List.getElem_of_mem hr
    rw [List.length_zip, Nat.lt_min] at hk
    refine h k hk.2 ?_
    rw [List.getElem_zip, any_eq_true_iff] at hany
    rwa [← getD_rowsOf, List.getElem?_eq_getElem hk.1, Option.getD_some]
  rw [modifierMask, hfind]

/-! ## Main statement -/

/-- The map of a keyboard turns its table around.  For each keysym it has in ascending order just
the codes, none larger than a byte, whose rows hold the keysym; there are none for zero, or if rows
have no width.  It does not matter that a code is computed in bytes.  The mask of a keysym is the
bit of the first of eight rows of modifier codes that holds one of its codes, zero apart, and has no
bits if no row does. -/
theorem codes_invert_table (first perCode perModifier : Nat) (table : List Keysym)
    (modifiers : List Keycode) (sym : Keysym) :
    let m := ofTable first perCode table
    let row := rowAt perModifier modifiers
    (m.codes sym).Pairwise (· < ·) ∧
      (∀ code, code ∈ m.codes sym ↔
        sym ≠ 0 ∧ code ≤ maxKeycode ∧ ∃ i, code = first + i ∧ sym ∈ rowAt perCode table i) ∧
      (perCode = 0 ∨ sym = 0 → m.codes sym = []) ∧
      m = addCoded first 0 (rowsOf perCode table) ⟨[]⟩ ∧
      (∀ k < 8, Holds (m.codes sym) (row k) → (∀ j < k, ¬Holds (m.codes sym) (row j)) →
        m.modifierMask sym perModifier modifiers = (1 : Mask) <<< k) ∧
      ((∀ k < 8, ¬Holds (m.codes sym) (row k)) → m.modifierMask sym perModifier modifiers = 0) ∧
      (perModifier = 0 → m.modifierMask sym perModifier modifiers = 0) := by
  intro m row
  have hcodes : ∀ code, code ∈ m.codes sym ↔
      sym ≠ 0 ∧ code ≤ maxKeycode ∧ ∃ i, code = first + i ∧ sym ∈ rowAt perCode table i := by
    intro code
    refine mem_codes_addRows.trans ((or_iff_right List.not_mem_nil).trans ?_)
    refine and_congr_right fun _ => and_congr_right fun _ => exists_congr fun i => ?_
    rw [mem_rowAt_iff, ← exists_and_left]
    exact exists_congr fun r => and_left_comm
  refine ⟨pairwise_codes_addRows .nil (List.forall_mem_nil _) _, hcodes, ?_, ?_,
    fun k hk => modifierMask_of_first hk, modifierMask_of_none, ?_⟩
  · intro hnone
    refine List.eq_nil_iff_forall_not_mem.mpr fun code hcode => ?_
    obtain ⟨hsym, -, i, -, hrow⟩ := (hcodes code).mp hcode
    rcases hnone with rfl | hzero
    · rw [rowAt_zero] at hrow
      exact List.not_mem_nil hrow
    · exact hsym hzero
  · exact (addCoded_eq first 0 _ _).symm
  · rintro rfl
    refine modifierMask_of_none fun k _ => ?_
    rintro ⟨code, hcode, -⟩
    rw [rowAt_zero] at hcode
    exact List.not_mem_nil hcode

end KeyMap

end Hotkeys.X11
