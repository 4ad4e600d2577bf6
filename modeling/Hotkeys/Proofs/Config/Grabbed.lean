import Hotkeys.Proofs.Config.Normalizing
import Hotkeys.Proofs.Keys.Lookup

/-!
# What a normal form grabs

A normal form has the modifiers of the binding and the same target, in small letters unless it is a
hardware key (`analyse_normalText`).  So a binding of a button grabs the same button, and one of a
key the same key unless case matters to its name (`normalText_grabs`).  Of a single capital of
Latin-1, which is read as it stands although its normal form is in small letters, nothing is said.
-/

set_option autoImplicit false

namespace Hotkeys.Config

open Keys

/-! ## The parts of a binding -/

/-- A binding without its markers. -/
def unmarked (binding : Text) : Text :=
  binding.filter fun c => !isMarker c

theorem filter_map_trim_filter (pieces : List Text) :
    (((pieces.filter fun piece => !piece.isEmpty).map Text.trim).filter fun part =>
        !part.isEmpty) =
      (pieces.map Text.trim).filter fun part => !part.isEmpty := by
  induction pieces with
  | nil => rfl
  | cons piece rest ih =>
      cases piece with
      | nil => exact ih
      | cons c cs =>
          rw [List.filter_cons_of_pos rfl, List.map_cons, List.map_cons, List.filter_cons,
            List.filter_cons, ih]

/-- The parts of a binding as a chord are its trimmed parts. -/
theorem parts_unmarked (binding : Text) :
    Chord.parts (unmarked binding) =
      ((chordParts binding).map Text.trim).filter fun part => !part.isEmpty := by
  have hmarkers : ∀ c, isSeparator c = true → (!isMarker c) = true := by
    intro c hsep
    simp only [isSeparator, Bool.or_eq_true, beq_iff_eq] at hsep
    rcases hsep with rfl | rfl <;> rfl
  rw [Chord.parts, unmarked, Text.splitOn_filter hmarkers, chordParts, filter_map_trim_filter]

theorem parts_normalText (binding : Text) :
    Chord.parts (normalText binding) =
      ((chordParts binding).map fun piece =>
        Text.trim (normalPart (eventOf binding) piece)).filter fun part => !part.isEmpty := by
  rw [normalText, chordText, Chord.parts_join, List.map_map]
  · rfl
  · intro part hpart c hc
    obtain ⟨piece, hpiece, rfl⟩ := List.mem_map.mp hpart
    exact ((isBare_normalPart (eventOf binding) (isBare_of_mem hpiece)).2 c hc).1

/-! ## Names of modifiers -/

/-- Lower-casing keeps modifiers, for their names are ASCII.  A single character names none, and is
not lowered to a name either. -/
theorem ofName?_lowercase {part : Text} (h : Text.Ascii part ∨ part.length = 1) :
    Modifier.ofName? (Text.lowercase part) = Modifier.ofName? part := by
  rcases h with hascii | hlength
  · rw [Text.lowercase_of_ascii hascii, Modifier.ofName?_asciiLower]
  · obtain ⟨c, rfl⟩ := List.length_eq_one_iff.mp hlength
    have hsingle : Modifier.ofName? [c] = none :=
      Modifier.ofName?_of_length (show 1 < 3 by decide)
    rw [hsingle, Modifier.ofName?_of_length
      (Nat.lt_succ_of_le (Text.length_lowercase_singleton_le c))]

theorem ofName?_nameOf {piece : Text}
    (h : Text.Ascii (Text.trim piece) ∨ (Text.trim piece).length = 1) :
    Modifier.ofName? (Text.trim (nameOf piece)) = Modifier.ofName? (Text.trim piece) := by
  rw [nameOf, congr_resolveShorthand (f := fun part => Modifier.ofName? (Text.trim part))
    (by decide) (by decide) (by decide), Text.trim_lowercase,
    ofName?_lowercase h]

theorem trim_nameOf_eq_nil_iff {piece : Text} :
    Text.trim (nameOf piece) = [] ↔ Text.trim piece = [] := by
  rw [nameOf, ← Text.lowercase_eq_nil_iff (t := Text.trim piece), ← Text.trim_lowercase]
  exact iff_of_eq (congr_resolveShorthand (f := fun part => Text.trim part = []) (by decide)
    (by decide) (by decide) (Text.lowercase piece))

/-! ## Digits -/

theorem trim_of_isAsciiWord {part : Text} (h : ∀ c ∈ part, Text.isAsciiWord c = true) :
    Text.trim part = part :=
  Text.trim_eq_self_of_not_blank fun c hc => Text.not_isBlank_of_isAsciiWord (h c hc)

/-- The digits of a mouse button, with or without the word before them, are a part of their own that
names no modifier. -/
theorem trim_of_buttonDigits? {part digits : Text} (h : buttonDigits? part = some digits) :
    Text.trim part = part ∧ Text.trim digits = digits ∧ digits ≠ [] ∧
      Modifier.ofName? part = none ∧ Modifier.ofName? digits = none := by
  obtain ⟨rfl, hne, hall⟩ := buttonDigits?_eq_some_iff.mp h
  have hdigits : ∀ c ∈ digits, Text.isAsciiWord c = true := fun c hc =>
    Text.isAsciiWord_of_isDigit (hall c hc)
  refine ⟨trim_of_isAsciiWord fun c hc => ?_, trim_of_isAsciiWord hdigits, hne, ?_, ?_⟩
  · rcases List.mem_append.mp hc with hword | hdigit
    · exact List.all_eq_true.mp (show "mouse".toList.all Text.isAsciiWord = true by decide) c hword
    · exact hdigits c hdigit
  · refine Option.eq_none_iff_forall_ne_some.mpr fun m hm => ?_
    have hlead := Modifier.of_spellings (P := fun spelling => spelling.take 3 ≠ "mou".toList)
      (by decide) hm
    exact hlead rfl
  · exact Modifier.ofName?_of_isDigit hne hall

/-! ## What the normal form of a part names -/

theorem ofName?_normalPart (event : EventKind) {piece : Text}
    (h : Text.Ascii (Text.trim piece) ∨ (Text.trim piece).length = 1) :
    Modifier.ofName? (Text.trim (normalPart event piece)) =
      Modifier.ofName? (Text.trim piece) := by
  have hname := ofName?_nameOf h
  cases hhardware : isHardwareKey piece with
  | true => rw [normalPart_of_isHardwareKey hhardware]
  | false =>
      rcases normalPart_cases event hhardware with ⟨hpart, -⟩ | ⟨-, hdigits⟩
      · rw [hpart, hname]
      · obtain ⟨htrim, htrim', -, hnone, hnone'⟩ := trim_of_buttonDigits? hdigits
        rw [htrim', hnone', ← hname, htrim, hnone]

theorem trim_normalPart_eq_nil_iff (event : EventKind) {piece : Text} :
    Text.trim (normalPart event piece) = [] ↔ Text.trim piece = [] := by
  cases hhardware : isHardwareKey piece with
  | true => rw [normalPart_of_isHardwareKey hhardware]
  | false =>
      rcases normalPart_cases event hhardware with ⟨hpart, -⟩ | ⟨-, hdigits⟩
      · rw [hpart, trim_nameOf_eq_nil_iff]
      · obtain ⟨htrim, htrim', hne, -⟩ := trim_of_buttonDigits? hdigits
        have hname := (buttonDigits?_eq_some_iff.mp hdigits).1
        rw [htrim', ← trim_nameOf_eq_nil_iff, htrim, hname]
        exact iff_of_false hne (List.cons_ne_nil _ _)

/-! ## The normal form as a chord -/

/-- Texts that name a key have one character or are ASCII. -/
theorem ascii_or_single {part : Text} {sym : Keysym} (h : Keysym.ofName? part = some sym) :
    Text.Ascii part ∨ part.length = 1 := by
  by_cases hlength : part.length = 1
  · exact Or.inr hlength
  · exact Or.inl (Keysym.ascii_of_ofName? hlength h)

/-- If the target of a binding is ASCII or a single character, its normal form has the same
modifiers, and as the target the normal form of the part that holds the target. -/
theorem analyse_normalText {binding : Text} {mods : Mask} {part : Text}
    (h : Chord.analyse (unmarked binding) = .ok (mods, part))
    (hpart : Text.Ascii part ∨ part.length = 1) :
    ∃ piece ∈ chordParts binding, Text.trim piece = part ∧
      Chord.analyse (normalText binding) =
        .ok (mods, Text.trim (normalPart (eventOf binding) piece)) ∧
      ∀ other ∈ chordParts binding, Text.trim other = part → other = piece := by
  have hreadable : ∀ piece ∈ chordParts binding,
      Text.Ascii (Text.trim piece) ∨ (Text.trim piece).length = 1 := by
    intro piece hpiece
    by_cases hblank : Text.trim piece = []
    · exact Or.inl (hblank ▸ fun c hc => absurd hc List.not_mem_nil)
    · have hmem : Text.trim piece ∈ Chord.parts (unmarked binding) := by
        rw [parts_unmarked, List.mem_filter, Bool.not_eq_true', List.isEmpty_eq_false_iff]
        exact ⟨List.mem_map_of_mem hpiece, hblank⟩
      rcases Chord.modifier_or_target h hmem with ⟨m, hm⟩ | htarget
      · exact Or.inl (Modifier.ascii_of_ofName? hm)
      · exact htarget ▸ hpart
  exact Chord.analyse_of_pieces (parts_unmarked binding) (parts_normalText binding)
    (fun piece hpiece => ofName?_normalPart (eventOf binding) (hreadable piece hpiece))
    (fun piece _ => trim_normalPart_eq_nil_iff (eventOf binding)) h

/-! ## Keys -/

theorem not_isBlank_of_isWord {c : Char} (h : Text.isWord c = true) : Text.isBlank c = false := by
  have hall : ∀ n ∈ Text.blankCodes, Text.inRanges Text.wordRanges n = false := by decide +kernel
  refine Bool.eq_false_iff.mpr fun hblank => ?_
  exact Bool.false_ne_true ((hall _ (Text.mem_blankCodes hblank)).symm.trans h)

theorem trim_of_isHardwareKey {part : Text} (h : isHardwareKey part = true) :
    Text.trim part = part := by
  rw [isHardwareKey] at h
  cases hafter : Text.after? "XF86".toList part with
  | none =>
      rw [hafter] at h
      exact absurd h Bool.false_ne_true
  | some name =>
      rw [hafter] at h
      simp only [Bool.and_eq_true, List.all_eq_true] at h
      refine Text.trim_eq_self_of_not_blank fun c hc => ?_
      rw [Text.after?_eq_some_iff.mp hafter] at hc
      rcases List.mem_append.mp hc with hlead | hname
      · exact Text.not_isBlank_of_isAsciiWord
          (List.all_eq_true.mp (show "XF86".toList.all Text.isAsciiWord = true by decide) c hlead)
      · exact not_isBlank_of_isWord (h.2 c hname)

/-- What names no modifier is no shorthand for one. -/
theorem resolveShorthand_of_ofName? {part : Text}
    (h : Modifier.ofName? (Text.trim part) = none) : resolveShorthand part = part := by
  have hall : ∀ name ∈ ["super".toList, "ctrl".toList, "alt".toList],
      Modifier.ofName? (Text.trim name) ≠ none := by decide
  have hnot : ∀ name ∈ ["super".toList, "ctrl".toList, "alt".toList], part ≠ name := by
    rintro name hname rfl
    exact hall _ hname h
  rw [resolveShorthand, if_neg (hnot _ List.mem_cons_self),
    if_neg (hnot _ (List.mem_cons_of_mem _ List.mem_cons_self)),
    if_neg (hnot _ (List.mem_cons_of_mem _ (List.mem_cons_of_mem _ List.mem_cons_self)))]

/-- Whether the target of a binding keeps its capitals: it is the name of a hardware key, with
nothing else beside it but markers. -/
def keepsCase (binding part : Text) : Bool :=
  isHardwareKey part && (chordParts binding).contains part

/-- The target of a binding of a key in its normal form. -/
def normalTarget (binding part : Text) : Text :=
  if keepsCase binding part then part else Text.lowercase part

theorem analyse_normalText_of_key {binding : Text} (hevent : (eventOf binding).isButton = false)
    {mods : Mask} {part : Text} (h : Chord.analyse (unmarked binding) = .ok (mods, part))
    (hpart : Text.Ascii part ∨ part.length = 1) :
    Chord.analyse (normalText binding) = .ok (mods, normalTarget binding part) := by
  obtain ⟨piece, hpiece, htrim, hanalyse, hunique⟩ := analyse_normalText h hpart
  rw [hanalyse, normalTarget]
  cases hhardware : isHardwareKey piece with
  | true =>
      have hsame : piece = part := (trim_of_isHardwareKey hhardware).symm.trans htrim
      have hkeeps : keepsCase binding part = true := by
        rw [keepsCase, ← hsame, hhardware, List.contains_iff_mem.mpr hpiece, Bool.and_self]
      rw [normalPart_of_isHardwareKey hhardware, htrim, if_pos hkeeps]
  | false =>
      have hnot : keepsCase binding part = false := by
        refine Bool.eq_false_iff.mpr fun hkeeps => ?_
        rw [keepsCase, Bool.and_eq_true, List.contains_iff_mem] at hkeeps
        have hsame := hunique part hkeeps.2 (trim_of_isHardwareKey hkeeps.1)
        rw [hsame, hhardware] at hkeeps
        exact Bool.false_ne_true hkeeps.1
      have hname : Modifier.ofName? (Text.trim (Text.lowercase piece)) = none := by
        rw [Text.trim_lowercase, htrim, ofName?_lowercase hpart]
        exact (Chord.ofName?_of_analyse h).2
      rw [normalPart_of_key hevent hhardware, nameOf, resolveShorthand_of_ofName? hname,
        Text.trim_lowercase, htrim, if_neg (Bool.eq_false_iff.mp hnot)]

/-! ## Buttons -/

/-- The text of a button is made of digits, which the word `mouse` may precede. -/
theorem digits_of_buttonNumber? {part : Text} {number : Nat} (hplus : '+' ∉ part)
    (h : Chord.buttonNumber? part = some number) :
    ∃ digits, (part = digits ∨ part = "mouse".toList ++ digits) ∧
      ∀ c ∈ digits, c.isDigit = true := by
  have hread : ∀ t, '+' ∉ t → Text.signedNumeral? 10 t = some number →
      ∀ c ∈ t, c.isDigit = true := by
    intro t ht hnumber
    rw [Text.signedNumeral?_of_not_plus ht] at hnumber
    exact Text.isDigit_of_numeral? hnumber
  rw [Chord.buttonNumber?] at h
  have hnumber := (Option.filter_eq_some_iff.mp h).1
  cases hafter : Text.after? "mouse".toList part with
  | none =>
      rw [hafter] at hnumber
      exact ⟨part, Or.inl rfl, hread part hplus hnumber⟩
  | some digits =>
      rw [hafter] at hnumber
      have hform := Text.after?_eq_some_iff.mp hafter
      refine ⟨digits, Or.inr hform, hread digits (fun hmem => hplus ?_) hnumber⟩
      rw [hform]
      exact List.mem_append_right _ hmem

theorem ascii_of_buttonNumber? {part : Text} {number : Nat} (hplus : '+' ∉ part)
    (h : Chord.buttonNumber? part = some number) : Text.Ascii part := by
  obtain ⟨digits, hform, hdigits⟩ := digits_of_buttonNumber? hplus h
  have hascii : Text.Ascii digits := fun c hc =>
    Text.ascii_of_isAsciiWord (Text.isAsciiWord_of_isDigit (hdigits c hc))
  rcases hform with rfl | rfl
  · exact hascii
  · exact Text.Ascii.append (show Text.Ascii "mouse".toList by decide) hascii

/-- A button is found with or without the word before its digits. -/
theorem buttonNumber?_of_buttonDigits? {part digits : Text} (h : buttonDigits? part = some digits) :
    Chord.buttonNumber? digits = Chord.buttonNumber? part := by
  obtain ⟨hform, -, hall⟩ := buttonDigits?_eq_some_iff.mp h
  rw [Chord.buttonNumber?, Chord.buttonNumber?, Chord.after?_mouse_of_isDigit hall,
    Text.after?_eq_some_iff.mpr hform, Option.getD_none, Option.getD_some]

/-- The text of a button is lowered to itself, with the blanks around it. -/
theorem stable_of_buttonNumber? {piece : Text} {number : Nat} (hplus : '+' ∉ piece)
    (h : Chord.buttonNumber? (Text.trim piece) = some number) : ∀ c ∈ piece, Text.Stable c := by
  obtain ⟨before, after, hbefore, hafter, hpiece⟩ := Text.exists_blanks_trim piece
  have hcore : '+' ∉ Text.trim piece := fun hmem => hplus (Text.mem_of_mem_trim hmem)
  have hstable : ∀ c ∈ Text.trim piece, Text.Stable c := by
    obtain ⟨digits, hform, hdigits⟩ := digits_of_buttonNumber? hcore h
    rcases hform with hform | hform <;> rw [hform]
    · exact stable_of_isDigit hdigits
    · intro c hc
      rcases List.mem_append.mp hc with hword | hdigit
      · have hall : "mouse".toList.all Text.isSmallAscii = true := by decide
        exact Text.stable_of_isSmallAscii (List.all_eq_true.mp hall c hword)
      · exact stable_of_isDigit hdigits c hdigit
  intro c hc
  rw [hpiece] at hc
  rcases List.mem_append.mp hc with hc | hc
  · exact Text.stable_of_isBlank (hbefore c hc)
  · rcases List.mem_append.mp hc with hc | hc
    · exact hstable c hc
    · exact Text.stable_of_isBlank (hafter c hc)

theorem buttonNumber?_normalPart {event : EventKind} (hevent : event.isButton = true)
    {piece : Text} (hbare : IsBare piece) {number : Nat}
    (hname : Modifier.ofName? (Text.trim piece) = none)
    (h : Chord.buttonNumber? (Text.trim piece) = some number) :
    Chord.buttonNumber? (Text.trim (normalPart event piece)) = some number := by
  have hplus : '+' ∉ piece := fun hmem => absurd (hbare.2 _ hmem).1 (by decide)
  have hstable := stable_of_buttonNumber? hplus h
  have hpiece : nameOf piece = piece := by
    rw [nameOf, Text.lowercase_of_stable hstable, resolveShorthand_of_ofName? hname]
  rw [normalPart_of_settled hstable hpiece, if_pos hevent]
  cases hdigits : buttonDigits? piece with
  | none => exact h
  | some digits =>
      obtain ⟨htrim, htrim', -⟩ := trim_of_buttonDigits? hdigits
      rw [Option.getD_some, htrim', buttonNumber?_of_buttonDigits? hdigits, ← htrim]
      exact h

theorem not_plus_of_mem_parts {s part : Text} (h : part ∈ Chord.parts s) : '+' ∉ part :=
  fun hplus => absurd (Chord.not_isSeparator_of_mem_parts h hplus) (by decide)

/-! ## Main statement -/

/-- Whether a target is a single capital of Latin-1. -/
def isLatinCapital : Text → Bool
  | [c] => 0xa0 ≤ c.toNat && c.toNat ≤ 0xff && Text.lowercase [c] != [c]
  | _ => false

/-- The normal form of a binding has its modifiers and its target.  Case may matter to the target of
a binding of a key, which is in small letters unless it is a hardware key; otherwise the normal form
grabs what the binding says, a capital of Latin-1 left aside. -/
theorem normalText_grabs (binding : Text) (c : Chord) :
    ((eventOf binding).isButton = false → Chord.ofKeyText (unmarked binding) = .ok c →
      ∃ part, Chord.analyse (unmarked binding) = .ok (c.mods, part) ∧
        Chord.analyse (normalText binding) = .ok (c.mods, normalTarget binding part) ∧
        (isLatinCapital part = false →
          (Chord.ofKeyText (normalText binding) = .ok c ↔
            keepsCase binding part = true ∨ Keysym.caseMatters part = false))) ∧
      ((eventOf binding).isButton = true → Chord.ofButtonText (unmarked binding) = .ok c →
        Chord.ofButtonText (normalText binding) = .ok c) := by
  constructor
  · intro hevent hread
    obtain ⟨part, sym, hanalyse, hsym, htarget⟩ := Chord.ofKeyText_eq_ok_iff.mp hread
    have hnormal := analyse_normalText_of_key hevent hanalyse (ascii_or_single hsym)
    refine ⟨part, hanalyse, hnormal, fun _ => ?_⟩
    have hgrabs : Chord.ofKeyText (normalText binding) = .ok c ↔
        Keysym.ofName? (normalTarget binding part) = some sym := by
      rw [Chord.ofKeyText_eq_ok_iff, hnormal, htarget]
      constructor
      · rintro ⟨_, _, heq, hname, hsame⟩
        cases heq
        cases hsame
        exact hname
      · exact fun hname => ⟨_, sym, rfl, hname, rfl⟩
    rw [hgrabs, normalTarget]
    cases keepsCase binding part with
    | true => exact iff_of_true hsym (Or.inl rfl)
    | false =>
        rw [if_neg Bool.false_ne_true, Keysym.ofName?_lowercase_eq_some_iff hsym]
        exact (or_iff_right Bool.false_ne_true).symm
  · intro hevent hread
    obtain ⟨part, number, hanalyse, hnumber, htarget⟩ := Chord.ofButtonText_eq_ok_iff.mp hread
    obtain ⟨hmem, hname⟩ := Chord.ofName?_of_analyse hanalyse
    have hpart := ascii_of_buttonNumber? (not_plus_of_mem_parts hmem) hnumber
    obtain ⟨piece, hpiece, htrim, hnormal, -⟩ := analyse_normalText hanalyse (Or.inl hpart)
    rw [← htrim] at hname hnumber
    rw [Chord.ofButtonText_eq_ok_iff]
    exact ⟨_, number, hnormal, buttonNumber?_normalPart hevent (isBare_of_mem hpiece) hname hnumber,
      htarget⟩

/-- A key and a button that are released, with shorthands and capitals. -/
theorem normalText_grabs_release :
    let key : Chord := { mods := 0x40, target := .key 0x61 }
    let button : Chord := { mods := 0x4, target := .button 4 }
    (eventOf "Super+@A".toList).isButton = false ∧
      Chord.ofKeyText (unmarked "Super+@A".toList) = .ok key ∧
      Chord.ofKeyText (normalText "Super+@A".toList) = .ok key ∧
      (eventOf "Ctrl+@mouse4".toList).isButton = true ∧
      Chord.ofButtonText (unmarked "Ctrl+@mouse4".toList) = .ok button ∧
      Chord.ofButtonText (normalText "Ctrl+@mouse4".toList) = .ok button := by
  intro key button
  have hkey : Chord.ofKeyText (unmarked "Super+@A".toList) = .ok key := by decide
  have hbutton : Chord.ofButtonText (unmarked "Ctrl+@mouse4".toList) = .ok button := by
    decide
  have hrelease : (eventOf "Super+@A".toList).isButton = false := by decide
  obtain ⟨part, hanalyse, -, hgrabs⟩ := (normalText_grabs _ key).1 hrelease hkey
  have hpart : part = ['A'] := by
    have htaken : Chord.analyse (unmarked "Super+@A".toList) = .ok (0x40, ['A']) := by
      decide
    rw [htaken] at hanalyse
    exact (Prod.mk.inj (Except.ok.inj hanalyse)).2.symm
  subst hpart
  exact ⟨hrelease, hkey, (hgrabs (by decide)).mpr (Or.inr (by decide)), by decide, hbutton,
    (normalText_grabs _ button).2 (by decide) hbutton⟩

/-- The name of a capital names its own keysym, and its normal form that of the small letter. -/
theorem not_grabbed_of_capital_name :
    let capital : Chord := { mods := 0, target := .key 0xc8 }
    let small : Chord := { mods := 0, target := .key 0xe8 }
    (eventOf "Egrave".toList).isButton = false ∧
      Chord.ofKeyText (unmarked "Egrave".toList) = .ok capital ∧
      Chord.ofKeyText (normalText "Egrave".toList) = .ok small ∧ capital ≠ small := by
  intro capital small
  have hcapital : Keysym.ofName? "Egrave".toList = some 0xc8 :=
    Keysym.ofName?_of_named (List.mem_of_getElem? (i := 483) (by decide +kernel)) (by decide)
  have hsmall : Keysym.ofName? "egrave".toList = some 0xe8 :=
    Keysym.ofName?_of_named (List.mem_of_getElem? (i := 518) (by decide +kernel)) (by decide)
  exact ⟨by decide,
    Chord.ofKeyText_eq_ok_iff.mpr ⟨_, _, Chord.analyse_eq_ok_iff.mpr (by decide), hcapital, rfl⟩,
    Chord.ofKeyText_eq_ok_iff.mpr
      ⟨_, _, Chord.analyse_eq_ok_iff.mpr (by decide), hsmall, rfl⟩,
    by decide⟩

end Hotkeys.Config
