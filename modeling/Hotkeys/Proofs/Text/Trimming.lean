import Hotkeys.Text.Blank
import Mathlib.Data.List.TakeWhile

/-!
# Trimming

A text is its trimmed form between blanks (`exists_blanks_trim`), blanks around a text are trimmed
away (`trim_between`), and a text that begins and ends with other characters is left as it is
(`trim_eq_self`).
-/

set_option autoImplicit false

namespace Hotkeys.Text

/-! ## Dropping at both ends -/

section Ends

variable {α : Type} {p : α → Bool}

/-- A list without the elements at both ends that satisfy `p`. -/
def dropEnds (p : α → Bool) (l : List α) : List α :=
  ((l.dropWhile p).reverse.dropWhile p).reverse

theorem exists_dropWhile_eq (p : α → Bool) (l : List α) :
    ∃ after, (∀ a ∈ after, p a = true) ∧ l.dropWhile p = dropEnds p l ++ after := by
  refine ⟨((l.dropWhile p).reverse.takeWhile p).reverse,
    fun a ha => List.mem_takeWhile_imp (List.mem_reverse.mp ha), ?_⟩
  rw [dropEnds, ← List.reverse_append, List.takeWhile_append_dropWhile, List.reverse_reverse]

/-- What is dropped satisfies `p`. -/
theorem exists_dropEnds (p : α → Bool) (l : List α) :
    ∃ before after, (∀ a ∈ before, p a = true) ∧ (∀ a ∈ after, p a = true) ∧
      l = before ++ (dropEnds p l ++ after) := by
  obtain ⟨after, hafter, hl⟩ := exists_dropWhile_eq p l
  refine ⟨l.takeWhile p, after, fun a ha => List.mem_takeWhile_imp ha, hafter, ?_⟩
  rw [← hl, List.takeWhile_append_dropWhile]

/-- The first element that is left does not satisfy `p`. -/
theorem head_dropEnds {l : List α} {a : α} (h : a ∈ (dropEnds p l).head?) : p a = false := by
  obtain ⟨after, -, hl⟩ := exists_dropWhile_eq p l
  have hhead := List.head?_dropWhile_not p l
  obtain ⟨rest, hrest⟩ := List.head?_eq_some_iff.mp h
  rwa [hl, hrest] at hhead

/-- Neither does the last. -/
theorem getLast_dropEnds {l : List α} {a : α} (h : a ∈ (dropEnds p l).getLast?) : p a = false := by
  rw [dropEnds, List.getLast?_reverse] at h
  have hhead := List.head?_dropWhile_not p (l.dropWhile p).reverse
  rwa [Option.mem_def.mp h] at hhead

end Ends

/-- Whether a text holds nothing but blanks. -/
def Blanks (t : Text) : Prop :=
  ∀ c ∈ t, isBlank c = true

theorem Blanks.reverse {t : Text} (h : Blanks t) : Blanks t.reverse :=
  fun c hc => h c (List.mem_reverse.mp hc)

/-! ## At the start -/

theorem trimStart_eq_nil_iff {t : Text} : trimStart t = [] ↔ Blanks t :=
  List.dropWhile_eq_nil_iff

theorem trimStart_append {blanks : Text} (h : Blanks blanks) (t : Text) :
    trimStart (blanks ++ t) = trimStart t :=
  List.dropWhile_append_of_pos h

theorem trimStart_append_of_ne_nil {t : Text} (h : trimStart t ≠ []) (rest : Text) :
    trimStart (t ++ rest) = trimStart t ++ rest := by
  have hne : (t.dropWhile isBlank).isEmpty ≠ true := fun he => h (List.isEmpty_iff.mp he)
  rw [trimStart, List.dropWhile_append, if_neg hne, trimStart]

theorem trimStart_of_head {c : Char} (hc : isBlank c = false) (cs : Text) :
    trimStart (c :: cs) = c :: cs :=
  List.dropWhile_cons_of_neg (Bool.eq_false_iff.mp hc)

/-! ## At the end -/

theorem trimEnd_append {blanks : Text} (h : Blanks blanks) (t : Text) :
    trimEnd (t ++ blanks) = trimEnd t := by
  rw [trimEnd, trimEnd, List.reverse_append, List.dropWhile_append_of_pos h.reverse]

theorem trimEnd_concat {c : Char} (hc : isBlank c = false) (t : Text) :
    trimEnd (t ++ [c]) = t ++ [c] := by
  have hkept := trimStart_of_head hc t.reverse
  rw [trimEnd, List.reverse_append, List.reverse_singleton, List.singleton_append]
  rw [trimStart] at hkept
  rw [hkept, List.reverse_cons, List.reverse_reverse]

/-! ## At both ends -/

/-- A text is its trimmed form between blanks. -/
theorem exists_blanks_trim (t : Text) :
    ∃ before after, Blanks before ∧ Blanks after ∧ t = before ++ (trim t ++ after) :=
  exists_dropEnds isBlank t

theorem head_trim {t : Text} {c : Char} (h : c ∈ (trim t).head?) : isBlank c = false :=
  head_dropEnds h

theorem getLast_trim {t : Text} {c : Char} (h : c ∈ (trim t).getLast?) : isBlank c = false :=
  getLast_dropEnds h

theorem mem_of_mem_trim {t : Text} {c : Char} (h : c ∈ trim t) : c ∈ t := by
  obtain ⟨before, after, -, -, ht⟩ := exists_blanks_trim t
  rw [ht]
  exact List.mem_append_right _ (List.mem_append_left _ h)

theorem trim_eq_nil_iff {t : Text} : trim t = [] ↔ Blanks t := by
  constructor
  · intro h
    obtain ⟨before, after, hbefore, hafter, ht⟩ := exists_blanks_trim t
    rw [h, List.nil_append] at ht
    rw [ht]
    exact fun c hc => (List.mem_append.mp hc).elim (hbefore c) (hafter c)
  · intro h
    rw [trim, trimStart_eq_nil_iff.mpr h]
    rfl

/-- A text that begins and ends with other characters than blanks stays as it is. -/
theorem trim_eq_self {t : Text} (hfirst : ∀ c ∈ t.head?, isBlank c = false)
    (hlast : ∀ c ∈ t.getLast?, isBlank c = false) : trim t = t := by
  cases t with
  | nil => rfl
  | cons c cs =>
      rw [trim, trimStart_of_head (hfirst c rfl)]
      obtain ⟨lead, last, hcs⟩ :=
        (List.eq_nil_or_concat (c :: cs)).resolve_left (List.cons_ne_nil c cs)
      rw [List.concat_eq_append] at hcs
      rw [hcs] at hlast ⊢
      exact trimEnd_concat (hlast last List.getLast?_concat) lead

theorem trim_eq_self_of_not_blank {t : Text} (h : ∀ c ∈ t, isBlank c = false) : trim t = t :=
  trim_eq_self (fun c hc => h c (List.mem_of_head? hc)) fun c hc => h c (List.mem_of_getLast? hc)

/-- Blanks around a text that begins and ends with other characters are trimmed away. -/
theorem trim_between {before core after : Text} (hbefore : Blanks before) (hafter : Blanks after)
    (hcore : trim core = core) : trim (before ++ (core ++ after)) = core := by
  rw [trim, trimStart_append hbefore]
  by_cases hblank : trimStart core = []
  · have hnil : core = [] := by
      rw [← hcore]
      exact trim_eq_nil_iff.mpr (trimStart_eq_nil_iff.mp hblank)
    rw [hnil, List.nil_append, trimStart_eq_nil_iff.mpr hafter]
    rfl
  · rw [trimStart_append_of_ne_nil hblank, trimEnd_append hafter]
    exact hcore

theorem trim_trim (t : Text) : trim (trim t) = trim t :=
  trim_eq_self (fun _ hc => head_trim hc) fun _ hc => getLast_trim hc

end Hotkeys.Text
