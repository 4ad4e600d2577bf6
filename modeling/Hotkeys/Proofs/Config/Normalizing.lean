import Hotkeys.Config.Normal
import Hotkeys.Proofs.Text.Lowering
import Hotkeys.Proofs.Text.Pieces

/-!
# Normal forms are normal, with one exception

A normal form has the normal parts of the binding as its parts (`chordParts_normalText`), and a part
in normal form stays as it is unless it is a mouse button and the event is one of a button
(`normalPart_normalPart_eq_iff`).  The event is read again from the normal form, where the parts are
no longer apart: it is one of a button if the form begins with `mouse`
(`isButton_eventOf_normalText`).  So normalizing twice is normalizing once, except for the bindings
that hide a button (`normalText_normalText_iff`).
-/

set_option autoImplicit false

namespace Hotkeys.Config

/-! ## Bare parts -/

/-- Whether a text is a part of a binding without markers. -/
def IsBare (part : Text) : Prop :=
  part ≠ [] ∧ ∀ c ∈ part, Keys.isSeparator c = false ∧ isMarker c = false

theorem isBare_of_mem {binding part : Text} (h : part ∈ chordParts binding) : IsBare part := by
  rw [chordParts, List.mem_filter, Bool.not_eq_true', List.isEmpty_eq_false_iff] at h
  obtain ⟨hpart, hne⟩ := h
  obtain ⟨piece, hpiece, rfl⟩ := List.mem_map.mp hpart
  refine ⟨hne, fun c hc => ?_⟩
  rw [List.mem_filter, Bool.not_eq_true'] at hc
  exact ⟨Text.not_sep_of_mem_splitOn hpiece hc.1, hc.2⟩

/-- Bare parts are the parts of the text that joins them. -/
theorem chordParts_join {parts : List Text} (h : ∀ part ∈ parts, IsBare part) :
    chordParts (Text.join ['-'] parts) = parts := by
  cases parts with
  | nil => rfl
  | cons first rest =>
      rw [chordParts, Text.splitOn_join rfl (List.cons_ne_nil first rest) fun part hpart c hc =>
        ((h part hpart).2 c hc).1]
      have hmarkers : ∀ part ∈ first :: rest, (part.filter fun c => !isMarker c) = part := by
        intro part hpart
        refine List.filter_eq_self.mpr fun c hc => ?_
        rw [((h part hpart).2 c hc).2, Bool.not_false]
      rw [List.map_congr_left hmarkers, List.map_id']
      refine List.filter_eq_self.mpr fun part hpart => ?_
      rw [Bool.not_eq_true', List.isEmpty_eq_false_iff]
      exact (h part hpart).1

/-- Separators and markers have no case. -/
theorem isCaseless_of_punctuation {c : Char} (h : Keys.isSeparator c = true ∨ isMarker c = true) :
    Text.isCaseless c = true := by
  refine List.all_eq_true.mp (show ['+', '-', '@', '!'].all Text.isCaseless = true by decide) c ?_
  simp only [Keys.isSeparator, isMarker, Bool.or_eq_true, beq_iff_eq] at h
  simp only [List.mem_cons, List.not_mem_nil, or_false]
  tauto

theorem isBare_lowercase {part : Text} (h : IsBare part) : IsBare (Text.lowercase part) := by
  refine ⟨fun hnil => h.1 (Text.lowercase_eq_nil_iff.mp hnil), fun c hc => ?_⟩
  by_contra hpunctuation
  have hsign : Keys.isSeparator c = true ∨ isMarker c = true := by
    simp only [not_and_or, Bool.not_eq_false] at hpunctuation
    exact hpunctuation
  have hmem := Text.mem_of_mem_lowercase (isCaseless_of_punctuation hsign) hc
  exact hpunctuation (h.2 c hmem)

/-! ## Names in normal form -/

/-- The names that stand for the three shorthands. -/
theorem resolveShorthand_cases (part : Text) :
    resolveShorthand part = part ∨
      resolveShorthand part ∈ ["mod4".toList, "control".toList, "mod1".toList] := by
  rw [resolveShorthand]
  split_ifs <;> simp

theorem resolveShorthand_resolveShorthand (part : Text) :
    resolveShorthand (resolveShorthand part) = resolveShorthand part := by
  rcases resolveShorthand_cases part with hsame | hname
  · rw [hsame, hsame]
  · have hall : ∀ name ∈ ["mod4".toList, "control".toList, "mod1".toList],
        resolveShorthand name = name := by decide
    exact hall _ hname

/-- A property of the three names and of the part itself is one of the part with its shorthand
resolved. -/
theorem of_resolveShorthand {P : Text → Prop} {part : Text}
    (hnames : ∀ name ∈ ["mod4".toList, "control".toList, "mod1".toList], P name) (hpart : P part) :
    P (resolveShorthand part) := by
  rcases resolveShorthand_cases part with hsame | hname
  · rwa [hsame]
  · exact hnames _ hname

/-- What does not tell the three names from their shorthands does not tell a part from the part with
its shorthand resolved. -/
theorem congr_resolveShorthand {α : Type} {f : Text → α}
    (hsuper : f "mod4".toList = f "super".toList) (hctrl : f "control".toList = f "ctrl".toList)
    (halt : f "mod1".toList = f "alt".toList) (part : Text) :
    f (resolveShorthand part) = f part := by
  rw [resolveShorthand]
  split_ifs with hpart hpart hpart
  · rw [hpart, hsuper]
  · rw [hpart, hctrl]
  · rw [hpart, halt]
  · rfl

/-- The name that a part stands for. -/
def nameOf (part : Text) : Text :=
  resolveShorthand (Text.lowercase part)

theorem stable_nameOf (part : Text) : ∀ c ∈ nameOf part, Text.Stable c := by
  have hsmall : ∀ name ∈ ["mod4".toList, "control".toList, "mod1".toList],
      name.all Text.isSmallAscii = true := by decide
  refine of_resolveShorthand (P := fun t => ∀ c ∈ t, Text.Stable c) (fun name hname c hc => ?_)
    fun c hc => Text.stable_of_mem_lowercase hc
  exact Text.stable_of_isSmallAscii (List.all_eq_true.mp (hsmall name hname) c hc)

theorem isBare_nameOf {part : Text} (h : IsBare part) : IsBare (nameOf part) := by
  refine of_resolveShorthand (fun name hname => ?_) (isBare_lowercase h)
  have hall : ∀ name ∈ ["mod4".toList, "control".toList, "mod1".toList],
      name ≠ [] ∧ (name.all fun c => !Keys.isSeparator c && !isMarker c) = true := by decide
  obtain ⟨hne, hchars⟩ := hall name hname
  simp only [List.all_eq_true, Bool.and_eq_true, Bool.not_eq_true'] at hchars
  exact ⟨hne, hchars⟩

/-- A name in normal form is no hardware key. -/
theorem not_isHardwareKey_of_stable {part : Text} (h : ∀ c ∈ part, Text.Stable c) :
    isHardwareKey part = false := by
  rw [isHardwareKey]
  cases hafter : Text.after? "XF86".toList part with
  | none => rfl
  | some rest =>
      rw [Text.after?_eq_some_iff] at hafter
      have hcapital : 'X' ∈ part := hafter ▸ List.mem_cons_self
      exact absurd (h 'X' hcapital).2 (by decide)

theorem nameOf_nameOf (part : Text) : nameOf (nameOf part) = nameOf part := by
  rw [nameOf, Text.lowercase_of_stable (stable_nameOf part)]
  exact resolveShorthand_resolveShorthand (Text.lowercase part)

/-! ## Buttons -/

theorem buttonDigits?_eq_some_iff {part digits : Text} :
    buttonDigits? part = some digits ↔
      part = "mouse".toList ++ digits ∧ digits ≠ [] ∧ ∀ c ∈ digits, c.isDigit = true := by
  rw [buttonDigits?]
  cases hafter : Text.after? "mouse".toList part with
  | none =>
      refine ⟨fun h => absurd h (Option.some_ne_none digits).symm, fun h => ?_⟩
      rw [Text.after?_eq_some_iff.mpr h.1] at hafter
      exact absurd hafter (Option.some_ne_none digits)
  | some rest =>
      simp only [Option.ite_none_right_eq_some, Bool.and_eq_true, Bool.not_eq_true',
        List.isEmpty_eq_false_iff, List.all_eq_true, Option.some.injEq,
        Text.after?_eq_some_iff.mp hafter, List.append_cancel_left_eq]
      constructor
      · rintro ⟨hdigits, rfl⟩
        exact ⟨rfl, hdigits⟩
      · rintro ⟨rfl, hdigits⟩
        exact ⟨hdigits, rfl⟩

/-- Digits are in normal form. -/
theorem stable_of_isDigit {digits : Text} (h : ∀ c ∈ digits, c.isDigit = true) :
    ∀ c ∈ digits, Text.Stable c :=
  fun c hc => Text.stable_of_isSmallAscii (Text.isSmallAscii_of_isDigit (h c hc))

theorem nameOf_of_isDigit {digits : Text} (h : ∀ c ∈ digits, c.isDigit = true) :
    nameOf digits = digits := by
  have hletter : ∀ c, c ∈ digits → c ≠ 's' ∧ c ≠ 'c' ∧ c ≠ 'a' := by
    rintro c hc
    refine ⟨?_, ?_, ?_⟩ <;> rintro rfl <;> exact absurd (h _ hc) (by decide)
  rw [nameOf, Text.lowercase_of_stable (stable_of_isDigit h), resolveShorthand, if_neg, if_neg,
    if_neg]
  · rintro rfl
    exact (hletter 'a' List.mem_cons_self).2.2 rfl
  · rintro rfl
    exact (hletter 'c' List.mem_cons_self).2.1 rfl
  · rintro rfl
    exact (hletter 's' List.mem_cons_self).1 rfl

theorem buttonDigits?_of_isDigit {digits : Text} (h : ∀ c ∈ digits, c.isDigit = true) :
    buttonDigits? digits = none := by
  refine Option.eq_none_iff_forall_ne_some.mpr fun more hmore => ?_
  obtain ⟨hcons, -⟩ := buttonDigits?_eq_some_iff.mp hmore
  exact absurd (h 'm' (hcons ▸ List.mem_cons_self)) (by decide)

theorem buttonDigits?_resolveShorthand (part : Text) :
    buttonDigits? (resolveShorthand part) = buttonDigits? part :=
  congr_resolveShorthand (by decide) (by decide) (by decide) part

theorem beginsWith_resolveShorthand (part : Text) :
    Text.beginsWith (resolveShorthand part) "mouse".toList =
      Text.beginsWith part "mouse".toList :=
  congr_resolveShorthand (f := fun part => Text.beginsWith part "mouse".toList) (by decide)
    (by decide) (by decide) part

/-! ## Parts in normal form -/

theorem normalPart_of_isHardwareKey {part : Text} (h : isHardwareKey part = true)
    (event : EventKind) : normalPart event part = part :=
  if_pos h

theorem normalPart_of_key {event : EventKind} (hevent : event.isButton = false) {part : Text}
    (h : isHardwareKey part = false) : normalPart event part = nameOf part := by
  rw [normalPart, if_neg (Bool.eq_false_iff.mp h), hevent]
  dsimp only
  split <;> rfl

theorem normalPart_of_button {event : EventKind} (hevent : event.isButton = true) {part : Text}
    (h : isHardwareKey part = false) :
    normalPart event part = (buttonDigits? (nameOf part)).getD (nameOf part) := by
  rw [normalPart, if_neg (Bool.eq_false_iff.mp h), hevent]
  dsimp only
  split
  case h_1 digits hdigits => exact (congrArg (·.getD (nameOf part)) hdigits).symm
  case h_2 hnone => exact (congrArg (·.getD (nameOf part)) hnone).symm

/-- A part that is no hardware key is normalized to the name that it stands for, or to the number
of the button that it names. -/
theorem normalPart_cases (event : EventKind) {part : Text} (h : isHardwareKey part = false) :
    (normalPart event part = nameOf part ∧
        (event.isButton = true → buttonDigits? (nameOf part) = none)) ∨
      (event.isButton = true ∧ buttonDigits? (nameOf part) = some (normalPart event part)) := by
  cases hevent : event.isButton with
  | false => exact .inl ⟨normalPart_of_key hevent h, nofun⟩
  | true =>
      rw [normalPart_of_button hevent h]
      cases hdigits : buttonDigits? (nameOf part) with
      | none => exact .inl ⟨rfl, fun _ => rfl⟩
      | some number => exact .inr ⟨rfl, rfl⟩

theorem isBare_normalPart (event : EventKind) {part : Text} (h : IsBare part) :
    IsBare (normalPart event part) := by
  cases hhardware : isHardwareKey part with
  | true => rwa [normalPart_of_isHardwareKey hhardware]
  | false =>
      rcases normalPart_cases event hhardware with ⟨hform, -⟩ | ⟨-, hdigits⟩
      · rw [hform]
        exact isBare_nameOf h
      · obtain ⟨hname, hne, -⟩ := buttonDigits?_eq_some_iff.mp hdigits
        refine ⟨hne, fun c hc => (isBare_nameOf h).2 c ?_⟩
        rw [hname]
        exact List.mem_append_right _ hc

/-- A name in normal form is normalized as the button that it may be, and otherwise left. -/
theorem normalPart_of_settled {name : Text} (hstable : ∀ c ∈ name, Text.Stable c)
    (hname : nameOf name = name) (again : EventKind) :
    normalPart again name =
      if again.isButton then (buttonDigits? name).getD name else name := by
  have hhardware := not_isHardwareKey_of_stable hstable
  cases hagain : again.isButton with
  | false => rw [normalPart_of_key hagain hhardware, hname, if_neg Bool.false_ne_true]
  | true => rw [normalPart_of_button hagain hhardware, hname, if_pos rfl]

theorem normalPart_nameOf (again : EventKind) (part : Text) :
    normalPart again (nameOf part) =
      if again.isButton then (buttonDigits? (nameOf part)).getD (nameOf part) else nameOf part :=
  normalPart_of_settled (stable_nameOf part) (nameOf_nameOf part) again

theorem normalPart_of_isDigit {digits : Text} (h : ∀ c ∈ digits, c.isDigit = true)
    (again : EventKind) : normalPart again digits = digits := by
  rw [normalPart_of_settled (stable_of_isDigit h) (nameOf_of_isDigit h),
    buttonDigits?_of_isDigit h, Option.getD_none, ite_self]

/-- Normalizing a part again changes it only if it is a mouse button and the event has become one
of a button. -/
theorem normalPart_normalPart_eq_iff (event again : EventKind) (part : Text) :
    normalPart again (normalPart event part) = normalPart event part ↔
      ¬(again.isButton = true ∧ event.isButton = false ∧ isHardwareKey part = false ∧
        (buttonDigits? (nameOf part)).isSome = true) := by
  cases hhardware : isHardwareKey part with
  | true => simp [normalPart_of_isHardwareKey hhardware]
  | false =>
      cases hdigits : buttonDigits? (nameOf part) with
      | none =>
          have hform : normalPart event part = nameOf part := by
            cases hevent : event.isButton with
            | false => exact normalPart_of_key hevent hhardware
            | true => rw [normalPart_of_button hevent hhardware, hdigits, Option.getD_none]
          rw [hform, normalPart_nameOf, hdigits, Option.getD_none, ite_self]
          simp
      | some digits =>
          obtain ⟨hname, hne, hall⟩ := buttonDigits?_eq_some_iff.mp hdigits
          cases hevent : event.isButton with
          | true =>
              rw [normalPart_of_button hevent hhardware, hdigits, Option.getD_some,
                normalPart_of_isDigit hall]
              simp
          | false =>
              have hdiffer : digits ≠ nameOf part := by
                intro heq
                have hlength := congrArg List.length (heq.trans hname)
                rw [List.length_append, Nat.right_eq_add] at hlength
                exact absurd hlength (by decide)
              rw [normalPart_of_key hevent hhardware, normalPart_nameOf, hdigits]
              cases again.isButton <;> simp [hdiffer]

/-! ## The normal form -/

/-- The parts of a normal form are the normal forms of the parts. -/
theorem chordParts_normalText (binding : Text) :
    chordParts (normalText binding) =
      (chordParts binding).map (normalPart (eventOf binding)) := by
  refine chordParts_join fun part hpart => ?_
  obtain ⟨whole, hwhole, rfl⟩ := List.mem_map.mp hpart
  exact isBare_normalPart (eventOf binding) (isBare_of_mem hwhole)

/-- A binding joined of bare parts is in normal form if all its parts are. -/
theorem normalText_join_eq_iff {parts : List Text} (h : ∀ part ∈ parts, IsBare part) :
    normalText (Text.join ['-'] parts) = Text.join ['-'] parts ↔
      ∀ part ∈ parts, normalPart (eventOf (Text.join ['-'] parts)) part = part := by
  constructor
  · intro hsame part hpart
    have hparts := chordParts_normalText (Text.join ['-'] parts)
    rw [hsame, chordParts_join h] at hparts
    exact List.map_inj_left.mp (hparts.symm.trans (List.map_id' parts).symm) part hpart
  · intro hall
    rw [normalText, chordText, chordParts_join h, List.map_congr_left hall, List.map_id']

/-! ## The event of a normal form -/

theorem eventParts_of_bare {t : Text} (h : ∀ c ∈ t, c ≠ '+' ∧ isMarker c = false) :
    eventParts t = [Text.lowercase t] := by
  have hkept : t.filter (· != '!') = t := by
    refine List.filter_eq_self.mpr fun c hc => bne_iff_ne.mpr ?_
    rintro rfl
    exact absurd (h _ hc).2 (by decide)
  rw [eventParts, Text.splitOn_eq_singleton fun c hc => beq_eq_false_iff_ne.mpr (h c hc).1,
    List.map_singleton, hkept]

theorem size_of_mouse (rest : Text) : 1 < Text.Utf8.size ("mouse".toList ++ rest) := by
  have hlength : ("mouse".toList.flatMap String.utf8EncodeChar).length = 5 := by decide
  rw [Text.Utf8.size, Text.Utf8.encode, List.flatMap_append, List.length_append, hlength]
  omega

/-- The event of a text without plus signs and markers is one of a button if the lowered text begins
with `mouse`. -/
theorem isButton_eventOf {t : Text} (h : ∀ c ∈ t, c ≠ '+' ∧ isMarker c = false) :
    (eventOf t).isButton = Text.beginsWith (Text.lowercase t) "mouse".toList := by
  have hmarker : ∀ lead, '@' ∈ lead → Text.beginsWith (Text.lowercase t) lead = false := by
    intro lead hlead
    refine Bool.eq_false_iff.mpr fun hbegins => ?_
    have hmem := (Text.beginsWith_iff.mp hbegins).subset hlead
    have hmem := Text.mem_of_mem_lowercase (by decide) hmem
    exact absurd (h _ hmem).2 (by decide)
  have hclass : classify (Text.lowercase t) =
      if Text.beginsWith (Text.lowercase t) "mouse".toList then .buttonPress else .keyPress := by
    rw [classify, hmarker "@mouse".toList (by decide),
      hmarker "@".toList (by decide)]
    rfl
  have hevent : eventOf t =
      if 1 < Text.Utf8.size (Text.lowercase t) then classify (Text.lowercase t)
      else .keyPress := by
    rw [eventOf, eventParts_of_bare h]
    by_cases hsize : 1 < Text.Utf8.size (Text.lowercase t)
    · simp only [List.filter_cons, hsize, decide_true, if_true, List.filter_nil, List.foldl_cons,
        List.foldl_nil]
      cases classify (Text.lowercase t) <;> rfl
    · simp only [List.filter_cons, hsize, decide_false, Bool.false_eq_true, if_false,
        List.filter_nil, List.foldl_nil]
  rw [hevent, hclass]
  cases hmouse : Text.beginsWith (Text.lowercase t) "mouse".toList with
  | true =>
      obtain ⟨rest, hrest⟩ := Text.beginsWith_iff.mp hmouse
      have hsize := size_of_mouse rest
      rw [hrest] at hsize
      rw [if_pos hsize, if_pos rfl]
      rfl
  | false =>
      rw [if_neg Bool.false_ne_true, ite_self]
      rfl

/-- A minus sign is lowered to itself and ends a word, so that what stands before it is lowered as
if nothing followed. -/
theorem exists_lowercase_append_minus (t rest : Text) :
    ∃ more, Text.lowercase (t ++ '-' :: rest) = Text.lowercase t ++ '-' :: more := by
  have hbreaks : Text.breaksWord '-' = true := by decide +kernel
  have hstable : Text.Stable '-' := ⟨by decide, by decide⟩
  exact Text.exists_lowercase_append_cons hbreaks hstable t rest

theorem beginsWith_lowercase_join {first : Text} (hstable : ∀ c ∈ first, Text.Stable c)
    (rest : List Text) :
    Text.beginsWith (Text.lowercase (Text.join ['-'] (first :: rest))) "mouse".toList =
      Text.beginsWith first "mouse".toList := by
  cases rest with
  | nil => rw [Text.join_singleton, Text.lowercase_of_stable hstable]
  | cons next more =>
      obtain ⟨lowered, hlower⟩ :=
        exists_lowercase_append_minus first (Text.join ['-'] (next :: more))
      rw [Text.join_cons_cons, List.append_assoc, List.singleton_append, hlower,
        Text.lowercase_of_stable hstable, Text.beginsWith_append_cons (by decide)]

/-- A hardware key begins with a capital that no other part begins with once lowered. -/
theorem beginsWith_lowercase_of_isHardwareKey {part : Text} (h : isHardwareKey part = true)
    (rest : Text) :
    Text.beginsWith (Text.lowercase (part ++ rest)) "mouse".toList = false := by
  rw [isHardwareKey] at h
  cases hafter : Text.after? "XF86".toList part with
  | none =>
      rw [hafter] at h
      exact absurd h Bool.false_ne_true
  | some name =>
      have hsmall : Text.lowerBetween [] 'X' (("F86".toList ++ name) ++ rest) = ['x'] := by
        rw [Text.lowerBetween_of_ne (by decide), Text.lowerChar_of_ascii (by decide)]
        rfl
      have hpart : part = 'X' :: ("F86".toList ++ name) := Text.after?_eq_some_iff.mp hafter
      rw [hpart, List.cons_append, Text.lowercase, Text.lowerAfter, hsmall]
      rfl

theorem not_isHardwareKey_of_mouse {part : Text}
    (h : Text.beginsWith (Text.lowercase part) "mouse".toList = true) :
    isHardwareKey part = false := by
  refine Bool.eq_false_iff.mpr fun hhardware => ?_
  have hnot := beginsWith_lowercase_of_isHardwareKey hhardware []
  rw [List.append_nil] at hnot
  exact Bool.false_ne_true (hnot.symm.trans h)

theorem mouse_of_buttonDigits? {part : Text} (h : (buttonDigits? part).isSome = true) :
    Text.beginsWith part "mouse".toList = true := by
  obtain ⟨digits, hdigits⟩ := Option.isSome_iff_exists.mp h
  exact Text.beginsWith_iff.mpr ⟨digits, (buttonDigits?_eq_some_iff.mp hdigits).1.symm⟩

theorem not_punctuation_of_mem_normalText {binding : Text} :
    ∀ c ∈ normalText binding, c ≠ '+' ∧ isMarker c = false := by
  intro c hc
  rcases Text.mem_join hc with rfl | ⟨part, hpart, hmem⟩
  · decide
  · obtain ⟨whole, hwhole, rfl⟩ := List.mem_map.mp hpart
    obtain ⟨hsep, hmarker⟩ := (isBare_normalPart (eventOf binding) (isBare_of_mem hwhole)).2 c hmem
    refine ⟨?_, hmarker⟩
    rintro rfl
    exact absurd hsep (by decide)

/-- A binding of a key becomes one of a button if its first part begins like a button. -/
theorem isButton_eventOf_normalText {binding : Text} (h : (eventOf binding).isButton = false) :
    (eventOf (normalText binding)).isButton =
      ((chordParts binding).map Text.lowercase).head?.any fun part =>
        Text.beginsWith part "mouse".toList := by
  rw [isButton_eventOf not_punctuation_of_mem_normalText, normalText, chordText]
  cases chordParts binding with
  | nil => rfl
  | cons first rest =>
      rw [List.map_cons, List.map_cons, List.head?_cons, Option.any_some]
      cases hhardware : isHardwareKey first with
      | true =>
          have hnot := beginsWith_lowercase_of_isHardwareKey hhardware
          have hfirst := hnot []
          rw [List.append_nil] at hfirst
          rw [normalPart_of_isHardwareKey hhardware, hfirst]
          cases rest with
          | nil => rw [List.map_nil, Text.join_singleton, hfirst]
          | cons next more => rw [List.map_cons, Text.join_cons_cons, List.append_assoc, hnot]
      | false =>
          rw [normalPart_of_key h hhardware, beginsWith_lowercase_join (stable_nameOf first),
            nameOf, beginsWith_resolveShorthand]

/-! ## Normalizing twice -/

/-- Whether a binding of a key hides a button: one of its parts is a mouse button, which has no say
in the event, and the first part begins like a button, so that the normal form is read as one. -/
def hidesButton (binding : Text) : Bool :=
  let parts := (chordParts binding).map Text.lowercase
  !(eventOf binding).isButton &&
    (parts.head?.any fun part => Text.beginsWith part "mouse".toList) &&
    parts.any fun part => (buttonDigits? part).isSome

/-- What hides a button: a part that is a mouse button, and a normal form that is read as one where
the binding is not. -/
theorem hidesButton_iff {binding : Text} :
    hidesButton binding = true ↔
      ((eventOf (normalText binding)).isButton = true ∧ (eventOf binding).isButton = false) ∧
        ∃ part ∈ chordParts binding,
          isHardwareKey part = false ∧ (buttonDigits? (nameOf part)).isSome = true := by
  simp only [hidesButton, Bool.and_eq_true, Bool.not_eq_true', and_assoc, List.any_map,
    List.any_eq_true, Function.comp_apply, nameOf, buttonDigits?_resolveShorthand]
  constructor
  · rintro ⟨hevent, hfirst, part, hpart, hdigits⟩
    exact ⟨(isButton_eventOf_normalText hevent).trans hfirst, hevent, part, hpart,
      not_isHardwareKey_of_mouse (mouse_of_buttonDigits? hdigits), hdigits⟩
  · rintro ⟨hagain, hevent, part, hpart, -, hdigits⟩
    exact ⟨hevent, (isButton_eventOf_normalText hevent).symm.trans hagain, part, hpart, hdigits⟩

/-- A normal form is its own normal form, unless the binding hides a button. -/
theorem normalText_normalText_iff (binding : Text) :
    normalText (normalText binding) = normalText binding ↔ hidesButton binding = false := by
  have hbare : ∀ part ∈ (chordParts binding).map (normalPart (eventOf binding)), IsBare part := by
    intro part hpart
    obtain ⟨whole, hwhole, rfl⟩ := List.mem_map.mp hpart
    exact isBare_normalPart (eventOf binding) (isBare_of_mem hwhole)
  have hparts : normalText (normalText binding) = normalText binding ↔
      ∀ part ∈ chordParts binding,
        ¬((eventOf (normalText binding)).isButton = true ∧ (eventOf binding).isButton = false ∧
          isHardwareKey part = false ∧ (buttonDigits? (nameOf part)).isSome = true) := by
    refine (normalText_join_eq_iff hbare).trans ?_
    rw [List.forall_mem_map]
    exact forall₂_congr fun part _ => normalPart_normalPart_eq_iff _ _ part
  rw [hparts, ← Bool.not_eq_true (hidesButton binding), hidesButton_iff]
  constructor
  · rintro hnone ⟨⟨hagain, hevent⟩, part, hpart, hbutton⟩
    exact hnone part hpart ⟨hagain, hevent, hbutton⟩
  · rintro hhidden part hpart ⟨hagain, hevent, hbutton⟩
    exact hhidden ⟨⟨hagain, hevent⟩, part, hpart, hbutton⟩

/-- The button behind a separator is no button of the event, but the normal form is read as one. -/
theorem not_normal_of_hidden_button :
    normalText (normalText "-mouse1".toList) ≠ normalText "-mouse1".toList := by
  decide

end Hotkeys.Config
