import Hotkeys.Proofs.Keys.Lookup

/-!
# Reading a chord as it was written

The text of a button chord is read as the chord itself.  So is that of a key chord, but for two
kinds of keysyms (`text_reread`): the one of a capital is shown as the capital, which is read as the
small letter, and that of a blank beyond Latin-1 is shown as the blank, which is trimmed away.
-/

set_option autoImplicit false

namespace Hotkeys.Keys

namespace Keysym

/-! ## The text of a keysym -/

/-- A keysym is shown as the first of its names, as its character, or as a number. -/
theorem shown_cases (sym : Keysym) :
    (∃ e ∈ entries, e.2 = sym ∧ name sym = e.1) ∨
      (∀ e ∈ entries, e.2 ≠ sym) ∧
        ((∃ c, unicodeChar? sym = some c ∧ name sym = [c]) ∨
          unicodeChar? sym = none ∧ name sym = "0x".toList ++ Text.ofNatHex sym) := by
  rw [name]
  cases hentry : entries.find? fun e => e.2 == sym with
  | some e =>
      have hsym := List.find?_some hentry
      exact Or.inl ⟨e, List.mem_of_find?_eq_some hentry, beq_iff_eq.mp hsym, rfl⟩
  | none =>
      refine Or.inr ⟨fun e he heq => ?_, ?_⟩
      · exact List.find?_eq_none.mp hentry e he (beq_iff_eq.mpr heq)
      · cases hchar : unicodeChar? sym with
        | some c => exact Or.inl ⟨c, rfl, rfl⟩
        | none => exact Or.inr ⟨rfl, rfl⟩

theorem toNat_of_unicodeChar? {sym : Keysym} {c : Char} (h : unicodeChar? sym = some c) :
    0x100 ≤ c.toNat ∧ unicodeBase + c.toNat = sym := by
  obtain ⟨hrange, hvalid, rfl⟩ := unicodeChar?_eq_some_iff.mp h
  rw [Text.toNat_ofNat hvalid]
  exact ⟨Nat.le_sub_of_add_le' hrange, Nat.add_sub_of_le (Nat.le_of_add_right_le hrange)⟩

/-! ## Looking it up again -/

theorem ofChar?_of_beyond {c : Char} (h : 0x100 ≤ c.toNat) :
    ofChar? c = some (unicodeBase + c.toNat) := by
  have hlower : c.toLower.toNat = c.toNat := by
    rw [Text.toNat_toLower, if_neg (by omega)]
  simp only [ofChar?, hlower]
  rw [if_neg (by omega), if_pos h]

theorem ofChar?_of_isAsciiWord {c : Char} (h : Text.isAsciiWord c = true) :
    ofChar? c = some c.toLower.toNat := by
  have hranges := (Text.isAsciiWord_iff c).mp h
  have hlower := Text.toNat_toLower c
  simp only [ofChar?]
  refine if_pos (Or.inl ?_)
  split at hlower <;> omega

theorem eq_zero_of_toLower {c : Char} (h : c.toLower = '0') : c = '0' := by
  have hnat : c.toLower.toNat = 48 := congrArg Char.toNat h
  rw [Text.toNat_toLower] at hnat
  refine Char.toNat_inj.mp (?_ : c.toNat = 48)
  split at hnat <;> omega

/-- No name or alias of several characters begins like a number. -/
theorem find?_of_zero {c : Char} {rest : Text} :
    find? foldedEntries ('0' :: c :: rest) = none ∧ find? aliases ('0' :: c :: rest) = none := by
  constructor
  · refine Option.eq_none_iff_forall_ne_some.mpr fun sym hfound => ?_
    obtain ⟨e, he, hlower, -⟩ := exists_of_find?_folded hfound
    rcases name_cases he with ⟨d, rfl⟩ | ⟨d, d', more, hname, hd⟩
    · exact absurd (List.cons.inj hlower).2 (List.cons_ne_nil c rest).symm
    · rw [hname] at hlower
      exact hd (eq_zero_of_toLower (List.cons.inj hlower).1)
  · refine Option.eq_none_iff_forall_ne_some.mpr fun sym hfound => ?_
    have hall : ∀ e ∈ aliases, e.1.head? ≠ some '0' := by decide
    exact hall _ (exists_of_find? hfound) rfl

/-- A number in hexadecimal is read as the number. -/
theorem ofName?_hex {sym : Keysym} (h : sym < 0x100000000) :
    ofName? ("0x".toList ++ Text.ofNatHex sym) = some sym := by
  have hnone : hasNoCapital ("0x".toList ++ Text.ofNatHex sym) = true := by
    refine List.all_eq_true.mpr fun c hc => ?_
    rcases List.mem_append.mp hc with hlead | hdigit
    · exact List.all_eq_true.mp (show hasNoCapital "0x".toList = true by decide) c hlead
    · obtain ⟨d, hd, rfl⟩ := Text.exists_digit_of_mem_toDigits (by decide) hdigit
      rw [Bool.not_eq_true']
      exact (Text.isAsciiWord_digitChar hd).2
  have hlength : ("0x".toList ++ Text.ofNatHex sym).length ≠ 1 :=
    Nat.ne_of_gt (Nat.succ_lt_succ (Nat.succ_pos (Text.ofNatHex sym).length))
  obtain ⟨hfolded, halias⟩ := @find?_of_zero 'x' (Text.ofNatHex sym)
  change find? foldedEntries ("0x".toList ++ Text.ofNatHex sym) = none at hfolded
  change find? aliases ("0x".toList ++ Text.ofNatHex sym) = none at halias
  rw [ofName?_of_hasNoCapital hlength hnone, hfolded, halias, Option.none_or, Option.none_or,
    ofLiteral?_eq_some_iff]
  exact ⟨Text.ofNatHex sym, rfl, Text.signedNumeral?_toDigits (by decide) (by decide) sym, h⟩

/-- The keysyms of the capitals of ASCII. -/
def IsCapital (sym : Keysym) : Prop :=
  0x41 ≤ sym ∧ sym ≤ 0x5a

instance : DecidablePred IsCapital :=
  fun sym => inferInstanceAs (Decidable (0x41 ≤ sym ∧ sym ≤ 0x5a))

/-- A capital is shown as such and read as the small letter. -/
theorem ofName?_name_of_isCapital {sym : Keysym} (h : IsCapital sym) :
    ofName? (name sym) = some (sym + 32) := by
  have hall : ∀ n : Nat, n < 26 → ofName? (name (n + 0x41)) = some (n + 0x41 + 32) := by
    decide +kernel
  obtain ⟨n, rfl⟩ := Nat.exists_eq_add_of_le' h.1
  have hlast : n + 0x41 ≤ 0x5a := h.2
  exact hall n (by omega)

/-- Every other keysym is read as it was shown. -/
theorem ofName?_name {sym : Keysym} (hsym : sym < 0x100000000) (h : ¬IsCapital sym) :
    ofName? (name sym) = some sym := by
  rcases shown_cases sym with ⟨e, he, rfl, hname⟩ | ⟨hnone, ⟨c, hchar, hname⟩ | ⟨hchar, hname⟩⟩
  · rw [hname]
    rcases name_cases he with ⟨c, rfl⟩ | ⟨c, d, rest, hlong, -⟩
    · have hsmall : c.toLower.toNat = c.toNat := by
        exact (Text.toNat_toLower c).trans (if_neg h)
      rw [← hsmall]
      exact ofChar?_of_isAsciiWord (isAsciiWord_of_mem he (List.mem_singleton_self c))
    · have hfound := find?_of_mem he
      have hlength : e.1.length ≠ 1 := by
        rw [hlong]
        exact Nat.ne_of_gt (Nat.succ_lt_succ (Nat.succ_pos rest.length))
      rw [ofName?_of_length hlength, hfound]
      rfl
  · obtain ⟨hbeyond, hvalue⟩ := toNat_of_unicodeChar? hchar
    rw [hname, ← hvalue]
    exact ofChar?_of_beyond hbeyond
  · rw [hname]
    exact ofName?_hex hsym

/-- Whether a keysym is shown as a character that is read as something else: as a capital, or as a
blank. -/
def IsShownAmiss (sym : Keysym) : Prop :=
  IsCapital sym ∨ (unicodeChar? sym).any Text.isBlank = true

instance : DecidablePred IsShownAmiss := fun sym =>
  inferInstanceAs (Decidable (IsCapital sym ∨ (unicodeChar? sym).any Text.isBlank = true))

/-- A blank beyond Latin-1 has no name but is shown as it is. -/
theorem name_of_blank {sym : Keysym} {c : Char} (hchar : unicodeChar? sym = some c)
    (hblank : Text.isBlank c = true) : name sym = [c] := by
  rcases shown_cases sym with ⟨e, he, rfl, -⟩ | ⟨-, ⟨d, hchar', hname⟩ | ⟨hnone, -⟩⟩
  · exact absurd hblank (Bool.eq_false_iff.mp (not_isBlank_of_mem he hchar))
  · rw [hname, Option.some.inj (hchar'.symm.trans hchar)]
  · exact absurd (hnone.symm.trans hchar) (Option.some_ne_none c).symm

theorem not_isSeparator_of_beyond {c : Char} (h : 0x100 ≤ c.toNat) : isSeparator c = false := by
  refine Bool.eq_false_iff.mpr fun hsep => ?_
  have hcode := Chord.toNat_of_isSeparator hsep
  omega

/-- Any other keysym is shown as a part of its own. -/
theorem isPart_name {sym : Keysym} (h : (unicodeChar? sym).any Text.isBlank = false) :
    Chord.IsPart (name sym) ∧ Modifier.ofName? (name sym) = none := by
  rcases shown_cases sym with ⟨e, he, rfl, hname⟩ | ⟨-, ⟨c, hchar, hname⟩ | ⟨-, hname⟩⟩
  · rw [hname]
    have hne : e.1 ≠ [] := by
      rcases name_cases he with ⟨c, rfl⟩ | ⟨c, d, rest, hlong, -⟩
      · exact List.cons_ne_nil c []
      · rw [hlong]
        exact List.cons_ne_nil c _
    exact ⟨Chord.isPart_of_isAsciiWord hne fun c hc => isAsciiWord_of_mem he hc, ofName?_of_mem he⟩
  · rw [hname]
    refine ⟨⟨List.cons_ne_nil c [], fun d hd => ?_⟩, ?_⟩
    · rw [List.mem_singleton.mp hd]
      exact ⟨not_isSeparator_of_beyond (toNat_of_unicodeChar? hchar).1,
        (Option.any_eq_false _ _).mp h c hchar⟩
    · refine Option.eq_none_iff_forall_ne_some.mpr fun m hm => ?_
      exact absurd (Modifier.length_of_ofName? hm).1 (show ¬3 ≤ 1 by decide)
  · rw [hname]
    refine ⟨Chord.isPart_of_isAsciiWord (List.cons_ne_nil '0' _) fun c hc => ?_,
      Modifier.ofName?_of_digit (by decide) _⟩
    rcases List.mem_append.mp hc with hlead | hdigit
    · exact List.all_eq_true.mp (show "0x".toList.all Text.isAsciiWord = true by decide) c hlead
    · obtain ⟨d, hd, rfl⟩ := Text.exists_digit_of_mem_toDigits (by decide) hdigit
      exact (Text.isAsciiWord_digitChar hd).1

end Keysym

namespace Chord

/-! ## Chords -/

theorem targets_map_name (modifiers : List Modifier) :
    targets (modifiers.map Modifier.name) = [] := by
  refine List.filter_eq_nil_iff.mpr fun part hpart => ?_
  obtain ⟨m, -, rfl⟩ := List.mem_map.mp hpart
  rw [Modifier.ofName?_name]
  exact Bool.false_ne_true

/-- The text of a chord is taken apart into the modifiers and the text of the target. -/
theorem analyse_text {c : Chord} (hmods : Modifier.IsUnion c.mods)
    (hpart : IsPart (targetText c.target)) (hname : Modifier.ofName? (targetText c.target) = none) :
    analyse (text c) = .ok (c.mods, targetText c.target) := by
  have hpieces :
      ∀ piece ∈ c.modifiers.map Modifier.name ++ [targetText c.target], IsPart piece := by
    intro piece hpiece
    rcases List.mem_append.mp hpiece with hmodifier | htarget
    · obtain ⟨m, -, rfl⟩ := List.mem_map.mp hmodifier
      exact isPart_modifierName m
    · exact List.mem_singleton.mp htarget ▸ hpart
  rw [analyse_eq_ok_iff, text,
    parts_join fun piece hpiece ch hch => ((hpieces piece hpiece).2 ch hch).1,
    filter_map_trim hpieces]
  constructor
  · rw [targets, List.filter_append, ← targets, ← targets, targets_map_name,
      targets_cons_of_none hname]
    rfl
  · rw [Modifier.union_append, modifiers, Modifier.union_names_ofMask hmods,
      Modifier.union_cons_of_none hname]
    rfl

/-- A chord whose target is shown as a blank has a text without target. -/
theorem analyse_text_of_blank {c : Chord} {ch : Char} (hsep : isSeparator ch = false)
    (hblank : Text.isBlank ch = true) (htarget : targetText c.target = [ch]) (mods : Mask)
    (part : Text) : analyse (text c) ≠ .ok (mods, part) := by
  intro hanalyse
  have hmodifiers : ∀ piece ∈ c.modifiers.map Modifier.name, IsPart piece := by
    intro piece hpiece
    obtain ⟨m, -, rfl⟩ := List.mem_map.mp hpiece
    exact isPart_modifierName m
  have htrim : Text.trim [ch] = [] :=
    Text.trim_eq_nil_iff.mpr fun d hd => List.mem_singleton.mp hd ▸ hblank
  have hparts : parts (text c) = c.modifiers.map Modifier.name := by
    rw [text, parts_join, List.map_append, List.filter_append, filter_map_trim hmodifiers, htarget,
      List.map_singleton, htrim]
    · exact List.append_nil _
    · intro piece hpiece d hd
      rcases List.mem_append.mp hpiece with hmodifier | htext
      · exact ((hmodifiers piece hmodifier).2 d hd).1
      · rw [List.mem_singleton.mp htext, htarget] at hd
        exact List.mem_singleton.mp hd ▸ hsep
  have htargets := (analyse_eq_ok_iff.mp hanalyse).1
  rw [hparts, targets_map_name] at htargets
  exact List.cons_ne_nil part [] htargets.symm

theorem isPart_ofNat (n : Nat) : IsPart (Text.ofNat n) :=
  isPart_of_isAsciiWord (Text.toDigits_ne_nil (by decide) n) fun _ hc =>
    Text.isAsciiWord_of_isDigit (Text.isDigit_of_mem_ofNat hc)

theorem ofName?_ofNat (n : Nat) : Modifier.ofName? (Text.ofNat n) = none :=
  Modifier.ofName?_of_isDigit (Text.toDigits_ne_nil (by decide) n) fun _ hc =>
    Text.isDigit_of_mem_ofNat hc

theorem buttonNumber?_ofNat {number : Nat} (h : 0 < number ∧ number ≤ 255) :
    buttonNumber? (Text.ofNat number) = some number := by
  rw [buttonNumber?, after?_mouse_of_isDigit fun _ hc => Text.isDigit_of_mem_ofNat hc,
    Option.getD_none, Text.ofNat, Text.signedNumeral?_toDigits (by decide) (by decide)]
  exact if_pos (by simpa using h)

theorem ofKeyText_text_iff {c : Chord} {sym : Keysym} (hmods : Modifier.IsUnion c.mods)
    (hsym : sym < 0x100000000) (htarget : c.target = .key sym) :
    ofKeyText (text c) = .ok c ↔ ¬Keysym.IsShownAmiss sym := by
  have htext : targetText c.target = Keysym.name sym := by rw [htarget, targetText]
  rw [ofKeyText_eq_ok_iff, htarget]
  constructor
  · rintro ⟨part, sym', hanalyse, hread, heq⟩ hamiss
    cases heq
    by_cases hblank : (Keysym.unicodeChar? sym).any Text.isBlank = true
    · obtain ⟨ch, hchar, hblank⟩ := (Option.any_eq_true _ _).mp hblank
      exact analyse_text_of_blank
        (Keysym.not_isSeparator_of_beyond (Keysym.toNat_of_unicodeChar? hchar).1) hblank
        (htext.trans (Keysym.name_of_blank hchar hblank)) c.mods part hanalyse
    · have hcapital := hamiss.resolve_right hblank
      obtain ⟨hpart, hname⟩ := Keysym.isPart_name (Bool.eq_false_iff.mpr hblank)
      have htaken := analyse_text hmods (htext ▸ hpart) (htext ▸ hname)
      rw [hanalyse] at htaken
      have hsame : part = Keysym.name sym := (Prod.mk.inj (Except.ok.inj htaken)).2.trans htext
      rw [hsame, Keysym.ofName?_name_of_isCapital hcapital] at hread
      exact Nat.ne_of_gt (Nat.lt_add_of_pos_right (by decide)) (Option.some.inj hread)
  · intro hright
    obtain ⟨hpart, hname⟩ :=
      Keysym.isPart_name (Bool.eq_false_iff.mpr fun hblank => hright (Or.inr hblank))
    have htaken := analyse_text hmods (htext ▸ hpart) (htext ▸ hname)
    refine ⟨_, sym, htaken, ?_, rfl⟩
    rw [htext]
    exact Keysym.ofName?_name hsym fun hcapital => hright (Or.inl hcapital)

/-- The text of a chord that was read is read as the chord itself, unless it is the chord of a key
that is shown as a capital or as a blank. -/
theorem text_reread (s : Text) (c : Chord) :
    (ofKeyText s = .ok c →
      (ofKeyText (text c) = .ok c ↔ ∀ sym, c.target = .key sym → ¬Keysym.IsShownAmiss sym)) ∧
      (ofButtonText s = .ok c → ofButtonText (text c) = .ok c) := by
  constructor
  · intro hread
    obtain ⟨part, sym, hanalyse, hsym, htarget⟩ := ofKeyText_eq_ok_iff.mp hread
    rw [ofKeyText_text_iff (isUnion_of_analyse hanalyse) (Keysym.lt_of_ofName? hsym) htarget,
      htarget]
    constructor
    · intro hright sym' heq
      exact Target.key.inj heq ▸ hright
    · intro hright
      exact hright sym rfl
  · intro hread
    obtain ⟨part, number, hanalyse, hnumber, htarget⟩ := ofButtonText_eq_ok_iff.mp hread
    have htext : targetText c.target = Text.ofNat number := by rw [htarget, targetText]
    have htaken := analyse_text (isUnion_of_analyse hanalyse) (htext ▸ isPart_ofNat number)
      (htext ▸ ofName?_ofNat number)
    rw [ofButtonText_eq_ok_iff]
    have hreread := buttonNumber?_ofNat (bounds_of_buttonNumber? hnumber)
    exact ⟨_, number, htaken, htext ▸ hreread, htarget⟩

/-- A chord with a keysym as a number and one with a button are shown in the usual order and read
again. -/
theorem text_reread_of_number :
    let key : Chord := { mods := 0x44, target := .key 0xe8 }
    let button : Chord := { mods := 0x40, target := .button 4 }
    ofKeyText "0xe8+super + Ctrl".toList = .ok key ∧ text key = "control-mod4-egrave".toList ∧
      ofKeyText (text key) = .ok key ∧ ofButtonText "super+mouse4".toList = .ok button ∧
      ofButtonText (text button) = .ok button := by
  intro key button
  have hliteral : "0xe8".toList = "0x".toList ++ Text.ofNatHex 0xe8 := by decide
  have hkey : ofKeyText "0xe8+super + Ctrl".toList = .ok key :=
    ofKeyText_eq_ok_iff.mpr ⟨"0xe8".toList, 0xe8, analyse_eq_ok_iff.mpr (by decide),
      (congrArg Keysym.ofName? hliteral).trans (Keysym.ofName?_hex (by decide)), rfl⟩
  have hbutton : ofButtonText "super+mouse4".toList = .ok button :=
    ofButtonText_eq_ok_iff.mpr ⟨"mouse4".toList, 4, analyse_eq_ok_iff.mpr (by decide),
      by decide, rfl⟩
  have hright : ∀ sym, key.target = .key sym → ¬Keysym.IsShownAmiss sym := by
    rintro sym heq
    rw [← Target.key.inj heq]
    decide
  exact ⟨hkey, by decide +kernel, ((text_reread _ key).1 hkey).mpr hright, hbutton,
    (text_reread _ button).2 hbutton⟩

/-- A capital is read as the small letter, a blank not at all. -/
theorem not_reread_of_capital_or_blank :
    let capital : Chord := { mods := 0, target := .key 0x41 }
    let blank : Chord := { mods := 0, target := .key 0x1002028 }
    ofKeyText "0x41".toList = .ok capital ∧ ofKeyText (text capital) ≠ .ok capital ∧
      ofKeyText "0x1002028".toList = .ok blank ∧ ofKeyText (text blank) ≠ .ok blank := by
  intro capital blank
  have hmods : Modifier.IsUnion 0 := Modifier.isUnion_union_zero []
  have hcapital : Keysym.ofName? "0x41".toList = some 0x41 := by
    have hliteral : "0x41".toList = "0x".toList ++ Text.ofNatHex 0x41 := by decide
    rw [hliteral, Keysym.ofName?_hex (by decide)]
  have hblank : Keysym.ofName? "0x1002028".toList = some 0x1002028 := by
    have hliteral : "0x1002028".toList = "0x".toList ++ Text.ofNatHex 0x1002028 := by decide
    rw [hliteral, Keysym.ofName?_hex (by decide)]
  refine ⟨?_, ?_, ?_, ?_⟩
  · exact ofKeyText_eq_ok_iff.mpr ⟨_, _, analyse_eq_ok_iff.mpr (by decide), hcapital, rfl⟩
  · rw [ne_eq, ofKeyText_text_iff hmods (Keysym.lt_of_ofName? hcapital) rfl]
    decide
  · exact ofKeyText_eq_ok_iff.mpr ⟨_, _, analyse_eq_ok_iff.mpr (by decide), hblank, rfl⟩
  · rw [ne_eq, ofKeyText_text_iff hmods (Keysym.lt_of_ofName? hblank) rfl]
    decide

end Chord

end Hotkeys.Keys
