import Hotkeys.Proofs.Config.Normalizing
import Mathlib.Data.List.Forall2

/-!
# The shape of normal forms

A normal form is joined of components, one for each token of the binding that holds more than
markers.  What a component may look like, and what it has to be for its token, is said here without
the functions that normalize (`IsComponent`, `Renames`).

Main statement: `normalText_has_shape`.
-/

set_option autoImplicit false

namespace Hotkeys.Config

/-! ## Tokens -/

/-- The tokens of a binding between plus and minus signs, without `@` and `!`.  Those that held
nothing else are left out. -/
def bareTokens (binding : Text) : List Text :=
  ((Text.splitOn (· ∈ ['+', '-']) binding).map fun token => token.filter (· ∉ ['@', '!'])).filter
    (· ≠ [])

theorem chordParts_eq_bareTokens (binding : Text) : chordParts binding = bareTokens binding := by
  have hseparator : Keys.isSeparator = fun c => decide (c ∈ ['+', '-']) := by
    funext c
    simp [Keys.isSeparator, Bool.beq_eq_decide_eq]
  have hmarker : (fun c => !isMarker c) = fun c => decide (c ∉ ['@', '!']) := by
    funext c
    simp [isMarker, Bool.beq_eq_decide_eq]
  have hempty : (fun part : Text => !part.isEmpty) = fun part => decide (part ≠ []) := by
    funext part
    cases part <;> rfl
  rw [chordParts, bareTokens, hseparator, hmarker, hempty]

/-! ## Components -/

/-- Whether a token names a hardware key: it is `XF86` and one or more word characters. -/
def IsHardwareName (token : Text) : Prop :=
  ∃ name, token = "XF86".toList ++ name ∧ name ≠ [] ∧ ∀ c ∈ name, Text.isWord c = true

/-- Whether a token names a pointer button by its number. -/
def IsButtonName (token number : Text) : Prop :=
  token = "mouse".toList ++ number ∧ number ≠ [] ∧ ∀ c ∈ number, c.isDigit = true

/-- The names that stand for others, each with the name it stands for. -/
def shorthands : List (Text × Text) :=
  [("super".toList, "mod4".toList), ("ctrl".toList, "control".toList),
    ("alt".toList, "mod1".toList)]

/-- What a lowered token is called in the normal form of a binding for an event. -/
inductive Renames (event : EventKind) : (lowered component : Text) → Prop where
  /-- A shorthand is called by its name. -/
  | shorthand {lowered name : Text} (h : (lowered, name) ∈ shorthands) :
      Renames event lowered name
  /-- If the event is one of a button, a button is called by its number. -/
  | button {lowered number : Text} (hevent : event.isButton = true)
      (h : IsButtonName lowered number) : Renames event lowered number
  /-- Any other token keeps its text. -/
  | same {lowered : Text} (hshorthand : ∀ name, (lowered, name) ∉ shorthands)
      (hbutton : event.isButton = true → ∀ number, ¬IsButtonName lowered number) :
      Renames event lowered lowered

/-- Whether a text can be the component that a token makes in a normal form. -/
structure IsComponent (event : EventKind) (token component : Text) : Prop where
  /-- It is not empty. -/
  ne_nil : component ≠ []
  /-- It can be told from its neighbours, and it marks nothing. -/
  bare : ∀ c ∈ component, c ∉ ['-', '+', '@', '!']
  /-- The name of a hardware key is kept. -/
  hardware : IsHardwareName token → component = token
  /-- Any other token is lowered and renamed. -/
  renamed : ¬IsHardwareName token → Renames event (Text.lowercase token) component
  /-- What is not the name of a hardware key has no capitals left. -/
  lowered : ¬IsHardwareName token → Text.lowercase component = component
  /-- Nor is it a shorthand. -/
  resolved : ¬IsHardwareName token →
    component ∉ ["super".toList, "ctrl".toList, "alt".toList]

/-! ## Names -/

theorem isHardwareKey_iff {token : Text} : isHardwareKey token = true ↔ IsHardwareName token := by
  rw [isHardwareKey]
  cases hafter : Text.after? "XF86".toList token with
  | none =>
      refine ⟨fun h => absurd h Bool.false_ne_true, ?_⟩
      rintro ⟨name, hname, -⟩
      rw [Text.after?_eq_some_iff.mpr hname] at hafter
      cases hafter
  | some rest =>
      obtain rfl := Text.after?_eq_some_iff.mp hafter
      simp only [IsHardwareName, List.append_cancel_left_eq, exists_eq_left', Bool.and_eq_true,
        Bool.not_eq_true', List.isEmpty_eq_false_iff, List.all_eq_true]

theorem resolveShorthand_eq {lowered name : Text} (h : (lowered, name) ∈ shorthands) :
    resolveShorthand lowered = name := by
  simp only [shorthands, List.mem_cons, List.not_mem_nil, or_false, Prod.mk.injEq] at h
  rcases h with ⟨rfl, rfl⟩ | ⟨rfl, rfl⟩ | ⟨rfl, rfl⟩ <;> rfl

theorem resolveShorthand_of_not {lowered : Text} (h : ∀ name, (lowered, name) ∉ shorthands) :
    resolveShorthand lowered = lowered := by
  have hnot : ∀ s ∈ shorthands, lowered ≠ s.1 := by
    rintro ⟨short, name⟩ hmem rfl
    exact h name hmem
  rw [resolveShorthand, if_neg (hnot ("super".toList, "mod4".toList) (by decide)),
    if_neg (hnot ("ctrl".toList, "control".toList) (by decide)),
    if_neg (hnot ("alt".toList, "mod1".toList) (by decide))]

/-- A name that shorthands were resolved in is none of them. -/
theorem resolveShorthand_not_mem (lowered : Text) :
    resolveShorthand lowered ∉ ["super".toList, "ctrl".toList, "alt".toList] := by
  rw [resolveShorthand]
  split_ifs with hsuper hctrl halt
  · decide
  · decide
  · decide
  · simp only [List.mem_cons, List.not_mem_nil, or_false, not_or]
    exact ⟨hsuper, hctrl, halt⟩

/-! ## Components of a normal form -/

/-- The name that a token stands for is what it is called where it is no button. -/
theorem renames_nameOf (event : EventKind) {token : Text}
    (h : event.isButton = true → buttonDigits? (nameOf token) = none) :
    Renames event (Text.lowercase token) (nameOf token) := by
  by_cases hshorthand : ∃ name, (Text.lowercase token, name) ∈ shorthands
  · obtain ⟨name, hname⟩ := hshorthand
    rw [nameOf, resolveShorthand_eq hname]
    exact .shorthand hname
  · have hnone := not_exists.mp hshorthand
    have hsame : nameOf token = Text.lowercase token := resolveShorthand_of_not hnone
    rw [hsame] at h ⊢
    refine .same hnone fun hevent number hnumber => ?_
    have hsome := buttonDigits?_eq_some_iff.mpr hnumber
    rw [h hevent] at hsome
    cases hsome

/-- A button is no shorthand, so that it is called by its number. -/
theorem renames_digits {event : EventKind} (hevent : event.isButton = true) {token number : Text}
    (h : buttonDigits? (nameOf token) = some number) :
    Renames event (Text.lowercase token) number := by
  rw [nameOf, buttonDigits?_resolveShorthand] at h
  exact .button hevent (buttonDigits?_eq_some_iff.mp h)

/-- A part in normal form is a component for the part. -/
theorem isComponent_normalPart (event : EventKind) {token : Text} (htoken : IsBare token) :
    IsComponent event token (normalPart event token) := by
  have hbare := isBare_normalPart event htoken
  have hsigns : ∀ c ∈ normalPart event token, c ∉ ['-', '+', '@', '!'] := by
    intro c hc hsign
    obtain ⟨hseparator, hmarker⟩ := hbare.2 c hc
    simp only [List.mem_cons, List.not_mem_nil, or_false] at hsign
    rcases hsign with rfl | rfl | rfl | rfl
    · exact absurd hseparator (by decide)
    · exact absurd hseparator (by decide)
    · exact absurd hmarker (by decide)
    · exact absurd hmarker (by decide)
  cases hhardware : isHardwareKey token with
  | true =>
      have hname := isHardwareKey_iff.mp hhardware
      exact ⟨hbare.1, hsigns, fun _ => normalPart_of_isHardwareKey hhardware event,
        fun hnot => absurd hname hnot, fun hnot => absurd hname hnot,
        fun hnot => absurd hname hnot⟩
  | false =>
      have hnot : ¬IsHardwareName token := fun hname =>
        Bool.false_ne_true (hhardware.symm.trans (isHardwareKey_iff.mpr hname))
      rcases normalPart_cases event hhardware with ⟨hform, hbutton⟩ | ⟨hevent, hdigits⟩
      · rw [hform] at hbare hsigns ⊢
        exact ⟨hbare.1, hsigns, fun hname => absurd hname hnot,
          fun _ => renames_nameOf event hbutton,
          fun _ => Text.lowercase_of_stable (stable_nameOf token),
          fun _ => resolveShorthand_not_mem _⟩
      · obtain ⟨-, -, hnumber⟩ := buttonDigits?_eq_some_iff.mp hdigits
        generalize normalPart event token = number at *
        refine ⟨hbare.1, hsigns, fun hname => absurd hname hnot,
          fun _ => renames_digits hevent hdigits,
          fun _ => Text.lowercase_of_stable (stable_of_isDigit hnumber), fun _ hmem => ?_⟩
        simp only [List.mem_cons, List.not_mem_nil, or_false] at hmem
        rcases hmem with rfl | rfl | rfl
        · exact absurd (hnumber 's' (by decide)) (by decide)
        · exact absurd (hnumber 'c' (by decide)) (by decide)
        · exact absurd (hnumber 'a' (by decide)) (by decide)

/-! ## Main statement -/

/-- A normal form holds no plus sign and no marker.  It is joined of one component for each bare
token of the binding, in order. -/
theorem normalText_has_shape (binding : Text) :
    (∀ c ∈ normalText binding, c ∉ ['@', '!', '+']) ∧
      ∃ components, normalText binding = Text.join ['-'] components ∧
        List.Forall₂ (IsComponent (eventOf binding)) (bareTokens binding) components := by
  refine ⟨fun c hc hsign => ?_, (chordParts binding).map (normalPart (eventOf binding)), rfl, ?_⟩
  · obtain ⟨hplus, hmarker⟩ := not_punctuation_of_mem_normalText c hc
    simp only [List.mem_cons, List.not_mem_nil, or_false] at hsign
    rcases hsign with rfl | rfl | rfl
    · exact absurd hmarker (by decide)
    · exact absurd hmarker (by decide)
    · exact hplus rfl
  · rw [← chordParts_eq_bareTokens, List.forall₂_map_right_iff, List.forall₂_same]
    exact fun token htoken => isComponent_normalPart _ (isBare_of_mem htoken)

/-- A binding of a button with a shorthand and a hardware key beside it, and markers, one of which
stands alone. -/
theorem normalText_has_shape_of_button :
    let binding := "!Super+XF86Back-@+@Mouse4".toList
    eventOf binding = .buttonRelease ∧ normalText binding = "mod4-XF86Back-4".toList ∧
      List.Forall₂ (IsComponent .buttonRelease)
        ["Super".toList, "XF86Back".toList, "Mouse4".toList]
        ["mod4".toList, "XF86Back".toList, "4".toList] := by
  intro binding
  have hevent : eventOf binding = .buttonRelease := by decide +kernel
  have htext : normalText binding = "mod4-XF86Back-4".toList := by decide +kernel
  have htokens : bareTokens binding = ["Super".toList, "XF86Back".toList, "Mouse4".toList] := by
    decide +kernel
  obtain ⟨-, components, hjoin, hshape⟩ := normalText_has_shape binding
  rw [hevent, htokens] at hshape
  have hne : components ≠ [] := by
    rintro rfl
    cases hshape
  have hbare : ∀ component ∈ components, ∀ c ∈ component, (c == '-') = false := by
    intro component hmem c hc
    obtain ⟨i, hi, rfl⟩ := List.getElem_of_mem hmem
    have hsigns := (hshape.get (hshape.length_eq ▸ hi) hi).bare c hc
    simpa using fun hminus : c = '-' => hsigns (hminus ▸ List.mem_cons_self)
  have hcomponents : Text.splitOn (· == '-') (Text.join ['-'] components) = components :=
    Text.splitOn_join (by decide) hne hbare
  rw [← hjoin, htext] at hcomponents
  have hcut : Text.splitOn (· == '-') "mod4-XF86Back-4".toList =
      ["mod4".toList, "XF86Back".toList, "4".toList] := by decide
  exact ⟨hevent, htext, hcut.symm.trans hcomponents ▸ hshape⟩

end Hotkeys.Config
