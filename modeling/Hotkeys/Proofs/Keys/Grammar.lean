import Hotkeys.Proofs.Keys.Analysis
import Hotkeys.Proofs.Text.Numerals

/-!
# The grammar of chords

What a chord text is read as depends on its parts alone: on whether there are any, on those of them
that name no modifier, and on which modifiers the others name (`Follows`).  The modifiers count as a
set, since their masks are united bit by bit (`maskOf_congr`), so that the order of the parts makes
no difference, nor do repeated modifiers (`SameParts`, `Alike`).

Main statement: `chord_texts_follow_grammar`.
-/

set_option autoImplicit false

namespace Hotkeys.Keys

/-! ## Masks of modifiers -/

namespace Modifier

/-- The modifiers that parts name, in order. -/
def named (parts : List Text) : List Modifier :=
  parts.filterMap ofName?

/-- The bits of all of the modifiers. -/
def maskOf (modifiers : List Modifier) : Mask :=
  modifiers.foldr (fun m mask => m.mask ||| mask) 0

/-- A bit is in the mask just when it is the bit of one of the modifiers. -/
theorem getLsbD_maskOf (modifiers : List Modifier) (i : Nat) :
    (maskOf modifiers).getLsbD i = true ↔ ∃ m ∈ modifiers, m.mask.getLsbD i = true := by
  induction modifiers with
  | nil => simp [maskOf]
  | cons m rest ih =>
      have hcons : maskOf (m :: rest) = m.mask ||| maskOf rest := rfl
      rw [hcons, BitVec.getLsbD_or, Bool.or_eq_true, ih]
      simp

/-- The mask does not tell in which order the modifiers came, nor how often each did. -/
theorem maskOf_congr {ms ns : List Modifier} (h : ∀ m, m ∈ ms ↔ m ∈ ns) :
    maskOf ms = maskOf ns := by
  apply BitVec.eq_of_getLsbD_eq
  intro i _
  rw [Bool.eq_iff_iff, getLsbD_maskOf, getLsbD_maskOf]
  simp only [h]

theorem union_eq_maskOf (mods : Mask) (parts : List Text) :
    union mods parts = mods ||| maskOf (named parts) := by
  fun_induction union mods parts with
  | case1 mods => exact BitVec.or_zero.symm
  | case2 mods part parts m hm ih =>
      have hnamed : named (part :: parts) = m :: named parts := List.filterMap_cons_some hm
      have hcons : maskOf (m :: named parts) = m.mask ||| maskOf (named parts) := rfl
      rw [ih, hnamed, hcons, BitVec.or_assoc]
  | case3 mods part parts hm ih =>
      have hnamed : named (part :: parts) = named parts := List.filterMap_cons_none hm
      rw [ih, hnamed]

end Modifier

/-! ## Kinds of errors -/

/-- What is wrong with a text, apart from where. -/
inductive ChordError.Kind where
  /-- It has no parts. -/
  | empty
  /-- Its key is unknown. -/
  | unknownKey
  /-- Its button is no number from 1 to 255. -/
  | invalidButton
  /-- All its parts are modifiers. -/
  | missingKey
  /-- More than one part is no modifier. -/
  | multipleKeys
  deriving DecidableEq, Repr

/-- The kind of an error. -/
def ChordError.kind : ChordError → ChordError.Kind
  | .empty => .empty
  | .unknownKey _ => .unknownKey
  | .invalidButton _ => .invalidButton
  | .missingKey _ => .missingKey
  | .multipleKeys _ => .multipleKeys

namespace Chord

open Modifier (named maskOf)

/-! ## The grammar -/

/-- What a text is read as by its parts.  Here `names` says what a part stands for that names no
modifier, and `fault` what is wrong with one that stands for nothing. -/
inductive Reads (names : Text → Target → Prop) (fault : Text → ChordError) (s : Text) :
    Except ChordError Chord → Prop where
  /-- There has to be a part. -/
  | empty (hparts : parts s = []) : Reads names fault s (.error .empty)
  /-- There has to be a part that names no modifier. -/
  | missing (hparts : parts s ≠ []) (htargets : targets (parts s) = []) :
      Reads names fault s (.error (.missingKey s))
  /-- There must not be two of these. -/
  | multiple (htargets : 1 < (targets (parts s)).length) :
      Reads names fault s (.error (.multipleKeys s))
  /-- The one has to stand for something. -/
  | unknown {part : Text} (htargets : targets (parts s) = [part])
      (hnames : ∀ target, ¬ names part target) : Reads names fault s (.error (fault part))
  /-- Then it is the target, and the other parts are the modifiers. -/
  | chord {part : Text} {target : Target} (htargets : targets (parts s) = [part])
      (hnames : names part target) :
      Reads names fault s (.ok ⟨maskOf (named (parts s)), target⟩)

/-- Whether a part stands for a key. -/
def NamesKey (part : Text) (target : Target) : Prop :=
  ∃ sym, Keysym.ofName? part = some sym ∧ target = .key sym

/-- Whether a part stands for a button: it is a decimal number from 1 to 255, with or without the
word `mouse` before it. -/
def NamesButton (part : Text) (target : Target) : Prop :=
  ∃ digits, (part = digits ∨ part = "mouse".toList ++ digits) ∧ digits ≠ [] ∧
    (∀ c ∈ digits, c.isDigit = true) ∧ 1 ≤ Text.decimal digits ∧ Text.decimal digits ≤ 255 ∧
      target = .button (Text.decimal digits)

/-! ## Reading by parts -/

section ReadWith

variable {found? : Text → Option Target} {fault : Text → ChordError} {s : Text}

theorem analyse_of_parts (h : parts s ≠ []) : analyse s = sortParts s 0 none (parts s) := by
  unfold analyse
  split
  case h_1 hparts => exact absurd hparts h
  case h_2 => rfl

theorem readWith_of_no_parts (h : parts s = []) : readWith found? fault s = .error .empty := by
  unfold readWith analyse
  rw [h]
  rfl

theorem readWith_of_no_target (h : parts s ≠ []) (htargets : targets (parts s) = []) :
    readWith found? fault s = .error (.missingKey s) := by
  unfold readWith
  rw [analyse_of_parts h, sortParts_none, htargets]
  rfl

theorem readWith_of_target {part : Text} (htargets : targets (parts s) = [part]) :
    readWith found? fault s =
      (found? part).elim (.error (fault part)) fun target =>
        .ok ⟨maskOf (named (parts s)), target⟩ := by
  have htaken : analyse s = .ok (maskOf (named (parts s)), part) := by
    rw [analyse_eq_ok_iff, Modifier.union_eq_maskOf]
    exact ⟨htargets, BitVec.zero_or.symm⟩
  unfold readWith
  rw [htaken]
  rfl

theorem readWith_of_targets (htargets : 1 < (targets (parts s)).length) :
    readWith found? fault s = .error (.multipleKeys s) := by
  have hparts : parts s ≠ [] := by
    intro h
    rw [h] at htargets
    exact absurd htargets (by decide)
  unfold readWith
  rw [analyse_of_parts hparts, sortParts_none]
  rcases hlist : targets (parts s) with _ | ⟨first, _ | ⟨second, rest⟩⟩
  · simp [hlist] at htargets
  · simp [hlist] at htargets
  · rfl

theorem mem_parts_of_targets {part : Text} (htargets : targets (parts s) = [part]) :
    part ∈ parts s := by
  have hmem : part ∈ targets (parts s) := htargets ▸ List.mem_singleton_self part
  exact (List.mem_filter.mp hmem).1

/-- A text is read by its parts, provided that what is found for a part is what it names. -/
theorem readWith_eq_iff {names : Text → Target → Prop}
    (hfound : ∀ part ∈ parts s, ∀ target, found? part = some target ↔ names part target)
    {outcome : Except ChordError Chord} :
    readWith found? fault s = outcome ↔ Reads names fault s outcome := by
  constructor
  · rintro rfl
    by_cases hparts : parts s = []
    · rw [readWith_of_no_parts hparts]
      exact .empty hparts
    rcases htargets : targets (parts s) with _ | ⟨part, _ | ⟨second, rest⟩⟩
    · rw [readWith_of_no_target hparts htargets]
      exact .missing hparts htargets
    · have hpart := hfound part (mem_parts_of_targets htargets)
      rw [readWith_of_target htargets]
      cases htarget : found? part with
      | none =>
          refine .unknown htargets fun target hnames => ?_
          exact absurd ((hpart target).mpr hnames) (by simp [htarget])
      | some target => exact .chord htargets ((hpart target).mp htarget)
    · have hlength : 1 < (targets (parts s)).length := by simp [htargets]
      rw [readWith_of_targets hlength]
      exact .multiple hlength
  · intro h
    cases h with
    | empty hparts => exact readWith_of_no_parts hparts
    | missing hparts htargets => exact readWith_of_no_target hparts htargets
    | multiple htargets => exact readWith_of_targets htargets
    | @unknown part htargets hnames =>
        have hnone : found? part = none := by
          refine Option.eq_none_iff_forall_ne_some.mpr fun target htarget => ?_
          exact hnames target ((hfound part (mem_parts_of_targets htargets) target).mp htarget)
        rw [readWith_of_target htargets, hnone]
        rfl
    | @chord part target htargets hnames =>
        have htarget := (hfound part (mem_parts_of_targets htargets) target).mpr hnames
        rw [readWith_of_target htargets, htarget]
        rfl

end ReadWith

/-! ## Buttons -/

theorem buttonNumber?_eq_some_iff {part : Text} (hplus : '+' ∉ part) {target : Target} :
    (buttonNumber? part).map .button = some target ↔ NamesButton part target := by
  unfold buttonNumber?
  rw [Option.map_eq_some_iff]
  simp only [Option.filter_eq_some_iff, Bool.and_eq_true, decide_eq_true_eq]
  constructor
  · rintro ⟨number, ⟨hread, hlow, hhigh⟩, rfl⟩
    cases hafter : Text.after? "mouse".toList part with
    | none =>
        rw [hafter, Option.getD_none, Text.signedNumeral?_of_not_plus hplus,
          Text.numeral?_eq_some_iff] at hread
        obtain ⟨hne, hdigits, rfl⟩ := hread
        exact ⟨part, .inl rfl, hne, hdigits, hlow, hhigh, rfl⟩
    | some digits =>
        rw [Text.after?_eq_some_iff] at hafter
        subst hafter
        rw [List.mem_append, not_or] at hplus
        rw [Text.after?_eq_some_iff.mpr rfl, Option.getD_some,
          Text.signedNumeral?_of_not_plus hplus.2, Text.numeral?_eq_some_iff] at hread
        obtain ⟨hne, hdigits, rfl⟩ := hread
        exact ⟨digits, .inr rfl, hne, hdigits, hlow, hhigh, rfl⟩
  · rintro ⟨digits, hpart, hne, hdigits, hlow, hhigh, rfl⟩
    have hrest : (Text.after? "mouse".toList part).getD part = digits := by
      rcases hpart with rfl | rfl
      · rw [after?_mouse_of_isDigit hdigits, Option.getD_none]
      · rw [Text.after?_eq_some_iff.mpr rfl, Option.getD_some]
    have hsign : '+' ∉ digits := fun hc => absurd (hdigits _ hc) (by decide)
    refine ⟨Text.decimal digits, ⟨?_, hlow, hhigh⟩, rfl⟩
    rw [hrest, Text.signedNumeral?_of_not_plus hsign, Text.numeral?_eq_some_iff]
    exact ⟨hne, hdigits, rfl⟩

/-! ## What makes no difference -/

/-- Parts with the same targets and the same set of modifiers. -/
structure SameParts (ps qs : List Text) : Prop where
  /-- The same parts name no modifier, each as often as before. -/
  targets : (targets ps).Perm (targets qs)
  /-- The same modifiers are named. -/
  modifiers : ∀ m, m ∈ named ps ↔ m ∈ named qs

namespace SameParts

variable {ps qs rs : List Text}

theorem of_perm (h : ps.Perm qs) : SameParts ps qs where
  targets := h.filter _
  modifiers := fun _ => (h.filterMap _).mem_iff

theorem refl (ps : List Text) : SameParts ps ps :=
  of_perm (List.Perm.refl ps)

theorem symm (h : SameParts ps qs) : SameParts qs ps where
  targets := h.targets.symm
  modifiers := fun m => (h.modifiers m).symm

theorem trans (h : SameParts ps qs) (h' : SameParts qs rs) : SameParts ps rs where
  targets := h.targets.trans h'.targets
  modifiers := fun m => (h.modifiers m).trans (h'.modifiers m)

/-- A modifier may be named once more. -/
theorem again {before after : List Text} {part : Text} {m : Modifier}
    (hpart : Modifier.ofName? part = some m) (hm : m ∈ named (before ++ after)) :
    SameParts (before ++ after) (before ++ part :: after) := by
  have hcons : named (part :: after) = m :: named after := List.filterMap_cons_some hpart
  constructor
  · unfold Chord.targets
    rw [List.filter_append, List.filter_append, List.filter_cons_of_neg (by simp [hpart])]
  · intro n
    unfold named at hm hcons ⊢
    rw [List.filterMap_append] at hm ⊢
    rw [List.filterMap_append, hcons]
    simp only [List.mem_append, List.mem_cons] at hm ⊢
    constructor
    · rintro (hbefore | hafter)
      · exact .inl hbefore
      · exact .inr (.inr hafter)
    · rintro (hbefore | rfl | hafter)
      · exact .inl hbefore
      · exact hm
      · exact .inr hafter

/-- Every part is a target or a modifier, so that the texts have parts or have none. -/
theorem eq_nil (h : SameParts ps qs) (hps : ps = []) : qs = [] := by
  subst hps
  have htargets : Chord.targets qs = [] := List.nil_perm.mp h.targets
  rw [List.eq_nil_iff_forall_not_mem]
  intro part hpart
  cases hname : Modifier.ofName? part with
  | none =>
      have hmem : part ∈ Chord.targets qs :=
        List.mem_filter.mpr ⟨hpart, Option.isNone_iff_eq_none.mpr hname⟩
      rw [htargets] at hmem
      exact List.not_mem_nil hmem
  | some m =>
      have hmem : m ∈ named qs := List.mem_filterMap.mpr ⟨part, hpart, hname⟩
      exact List.not_mem_nil ((h.modifiers m).mpr hmem)

end SameParts

/-- Texts with the same parts, in this sense, are the same chord or wrong in the same way. -/
theorem SameParts.readWith {s t : Text} (h : SameParts (parts s) (parts t))
    (found? : Text → Option Target) (fault : Text → ChordError) :
    (Chord.readWith found? fault s).mapError ChordError.kind =
      (Chord.readWith found? fault t).mapError ChordError.kind := by
  by_cases hparts : parts s = []
  · rw [readWith_of_no_parts hparts, readWith_of_no_parts (h.eq_nil hparts)]
  have hparts' : parts t ≠ [] := fun ht => hparts (h.symm.eq_nil ht)
  rcases htargets : Chord.targets (parts s) with _ | ⟨part, _ | ⟨second, rest⟩⟩
  · have htargets' : Chord.targets (parts t) = [] := List.nil_perm.mp (htargets ▸ h.targets)
    rw [readWith_of_no_target hparts htargets, readWith_of_no_target hparts' htargets']
    rfl
  · have htargets' : Chord.targets (parts t) = [part] :=
      (List.singleton_perm.mp (htargets ▸ h.targets)).symm
    rw [readWith_of_target htargets, readWith_of_target htargets',
      Modifier.maskOf_congr h.modifiers]
  · have hlength : 1 < (Chord.targets (parts s)).length := by simp [htargets]
    rw [readWith_of_targets hlength, readWith_of_targets (h.targets.length_eq ▸ hlength)]
    rfl

/-- Texts that differ in nothing that counts. -/
inductive Alike : Text → Text → Prop where
  /-- Their parts come in different orders. -/
  | order {s t : Text} (h : (parts s).Perm (parts t)) : Alike s t
  /-- One names a modifier again that the other names already. -/
  | again {s t : Text} {before after : List Text} {part : Text} {m : Modifier}
      (hs : parts s = before ++ after) (ht : parts t = before ++ part :: after)
      (hpart : Modifier.ofName? part = some m) (hm : m ∈ named (before ++ after)) : Alike s t
  /-- They have separators in the same places, but other ones. -/
  | separators {s t : Text}
      (h : List.Forall₂ (fun c d => c = d ∨ isSeparator c ∧ isSeparator d) s t) : Alike s t
  /-- What stands between their separators differs in the blanks around it. -/
  | blanks {s t : Text}
      (h : (Text.splitOn isSeparator s).map Text.trim =
        (Text.splitOn isSeparator t).map Text.trim) : Alike s t
  /-- The other way round. -/
  | symm {s t : Text} (h : Alike s t) : Alike t s
  /-- One difference after the other. -/
  | trans {s t u : Text} (h : Alike s t) (h' : Alike t u) : Alike s u

theorem splitOn_of_separators {s t : Text}
    (h : List.Forall₂ (fun c d => c = d ∨ isSeparator c ∧ isSeparator d) s t) :
    Text.splitOn isSeparator s = Text.splitOn isSeparator t := by
  induction h with
  | nil => rfl
  | cons hcd _ ih =>
      unfold Text.splitOn
      rcases hcd with rfl | ⟨hc, hd⟩
      · rw [ih]
      · rw [if_pos hc, if_pos hd, ih]

theorem Alike.sameParts {s t : Text} (h : Alike s t) : SameParts (parts s) (parts t) := by
  induction h with
  | order h => exact .of_perm h
  | again hs ht hpart hm =>
      rw [hs, ht]
      exact .again hpart hm
  | @separators s t h =>
      have hparts : parts s = parts t := by
        unfold parts
        rw [splitOn_of_separators h]
      rw [hparts]
      exact .refl _
  | @blanks s t h =>
      have hparts : parts s = parts t := by
        unfold parts
        rw [h]
      rw [hparts]
      exact .refl _
  | symm _ ih => exact ih.symm
  | trans _ _ ih ih' => exact ih.trans ih'

/-! ## Main statement -/

/-- A text is read as a chord by its parts, and texts that differ in nothing that counts are the
same chord or wrong in the same way. -/
theorem chord_texts_follow_grammar :
    (∀ s outcome, ofKeyText s = outcome ↔ Reads NamesKey .unknownKey s outcome) ∧
      (∀ s outcome, ofButtonText s = outcome ↔ Reads NamesButton .invalidButton s outcome) ∧
      ∀ s t, Alike s t →
        (ofKeyText s).mapError ChordError.kind = (ofKeyText t).mapError ChordError.kind ∧
          (ofButtonText s).mapError ChordError.kind =
            (ofButtonText t).mapError ChordError.kind := by
  refine ⟨fun s outcome => ?_, fun s outcome => ?_, fun s t halike => ⟨?_, ?_⟩⟩
  · rw [ofKeyText_eq_readWith]
    refine readWith_eq_iff fun part _ target => ?_
    rw [Option.map_eq_some_iff]
    unfold NamesKey
    simp only [eq_comm]
  · rw [ofButtonText_eq_readWith]
    refine readWith_eq_iff fun part hpart target => ?_
    exact buttonNumber?_eq_some_iff fun hplus =>
      absurd (not_isSeparator_of_mem_parts hpart hplus) (by decide)
  · rw [ofKeyText_eq_readWith, ofKeyText_eq_readWith]
    exact halike.sameParts.readWith _ _
  · rw [ofButtonText_eq_readWith, ofButtonText_eq_readWith]
    exact halike.sameParts.readWith _ _

/-- Other separators, other blanks and another order, and a modifier that is named once more by
another of its names. -/
theorem chord_of_repeated_modifier :
    let s := "a-super+shift".toList
    let t := " shift++ mod4-super +a".toList
    Alike s t ∧ ofKeyText s = .ok ⟨0x41, .key 0x61⟩ ∧
      (ofKeyText s).mapError ChordError.kind = (ofKeyText t).mapError ChordError.kind ∧
      (ofButtonText s).mapError ChordError.kind =
        (ofButtonText t).mapError ChordError.kind := by
  intro s t
  have horder : Alike s "shift+super-a".toList := .order (by decide)
  have hseparators : Alike "shift+super-a".toList "shift-super+a".toList :=
    .separators (by decide)
  have hblanks : Alike "shift-super+a".toList " shift- super +a".toList := .blanks (by decide)
  have hagain : Alike " shift- super +a".toList t :=
    @Alike.again _ _ ["shift".toList] ["super".toList, "a".toList] "mod4".toList .mod4
      (by decide) (by decide) (by decide) (by decide)
  have halike : Alike s t := ((horder.trans hseparators).trans hblanks).trans hagain
  refine ⟨halike, ?_, chord_texts_follow_grammar.2.2 s t halike⟩
  exact ofKeyText_eq_ok_iff.mpr
    ⟨"a".toList, 0x61, analyse_eq_ok_iff.mpr (by decide), by decide, rfl⟩

end Chord

end Hotkeys.Keys
