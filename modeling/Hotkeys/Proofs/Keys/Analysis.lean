import Hotkeys.Keys.Chord
import Hotkeys.Proofs.Text.Ascii
import Hotkeys.Proofs.Text.Pieces
import Hotkeys.Proofs.Text.Trimming

/-!
# Which texts are chords

The parts of a chord text are sorted one after the other, but the outcome depends only on which of
them name no modifier: there has to be exactly one (`analyse_eq_ok_iff`).  The modifiers are those
that any of the parts names, and their mask names them again (`union_names_ofMask`).
-/

set_option autoImplicit false

namespace Hotkeys.Keys

namespace Modifier

/-! ## Names of modifiers -/

theorem ofName?_asciiLower (part : Text) : ofName? (Text.asciiLower part) = ofName? part := by
  rw [ofName?, ofName?, Text.asciiLower_asciiLower]

theorem ofName?_name (m : Modifier) : ofName? m.name = some m := by
  cases m <;> decide

/-- The names and aliases of modifiers. -/
def spellings : List Text :=
  all.map name ++ aliases.map Prod.fst

theorem asciiLower_mem_spellings {part : Text} {m : Modifier} (h : ofName? part = some m) :
    Text.asciiLower part ∈ spellings := by
  simp only [ofName?] at h
  split at h
  case h_1 found hfound =>
    have hname := List.find?_some hfound
    rw [← beq_iff_eq.mp hname]
    exact List.mem_append_left _ (List.mem_map_of_mem (List.mem_of_find?_eq_some hfound))
  case h_2 =>
    obtain ⟨other, hother, _⟩ := Option.map_eq_some_iff.mp h
    have hname := List.find?_some hother
    rw [← beq_iff_eq.mp hname]
    exact List.mem_append_right _ (List.mem_map_of_mem (List.mem_of_find?_eq_some hother))

/-- A property of the eleven spellings is one of every name of a modifier in small letters. -/
theorem of_spellings {P : Text → Prop} (hall : ∀ spelling ∈ spellings, P spelling) {part : Text}
    {m : Modifier} (h : ofName? part = some m) : P (Text.asciiLower part) :=
  hall _ (asciiLower_mem_spellings h)

theorem length_of_ofName? {part : Text} {m : Modifier} (h : ofName? part = some m) :
    3 ≤ part.length ∧ part.length ≤ 7 := by
  have hlength := of_spellings (P := fun spelling => 3 ≤ spelling.length ∧ spelling.length ≤ 7)
    (by decide) h
  rwa [Text.length_asciiLower] at hlength

theorem ofName?_of_length {part : Text} (h : part.length < 3) : ofName? part = none :=
  Option.eq_none_iff_forall_ne_some.mpr fun _ hm =>
    absurd (length_of_ofName? hm).1 (Nat.not_le.mpr h)

theorem ascii_of_ofName? {part : Text} {m : Modifier} (h : ofName? part = some m) :
    Text.Ascii part := by
  have hascii := of_spellings (P := Text.Ascii) (by decide) h
  exact Text.ascii_asciiLower_iff.mp hascii

/-- No name of a modifier begins with a decimal digit. -/
theorem ofName?_of_digit {c : Char} (hc : c.toNat < 58) (cs : Text) :
    ofName? (c :: cs) = none := by
  cases hmodifier : ofName? (c :: cs) with
  | none => rfl
  | some m =>
      have hhead := of_spellings (P := fun spelling => 58 ≤ (spelling.headD ' ').toNat)
        (by decide) hmodifier
      change 58 ≤ c.toLower.toNat at hhead
      rw [Text.toNat_toLower, if_neg (by omega)] at hhead
      exact absurd hhead (Nat.not_le.mpr hc)

/-- Digits name no modifier. -/
theorem ofName?_of_isDigit {digits : Text} (hne : digits ≠ [])
    (h : ∀ c ∈ digits, c.isDigit = true) : ofName? digits = none := by
  obtain ⟨c, cs, rfl⟩ := List.exists_cons_of_ne_nil hne
  have hrange := (Text.isDigit_iff c).mp (h c List.mem_cons_self)
  exact ofName?_of_digit (by omega) cs

/-! ## Masks -/

/-- The mask `mods` with every modifier that a part names. -/
def union (mods : Mask) : List Text → Mask
  | [] => mods
  | part :: parts =>
    match ofName? part with
    | some m => union (mods ||| m.mask) parts
    | none => union mods parts

theorem union_cons_of_some {part : Text} {m : Modifier} (h : ofName? part = some m) (mods : Mask)
    (parts : List Text) : union mods (part :: parts) = union (mods ||| m.mask) parts := by
  simp only [union, h]

theorem union_cons_of_none {part : Text} (h : ofName? part = none) (mods : Mask)
    (parts : List Text) : union mods (part :: parts) = union mods parts := by
  simp only [union, h]

theorem union_append (mods : Mask) (parts more : List Text) :
    union mods (parts ++ more) = union (union mods parts) more := by
  fun_induction union mods parts with
  | case1 mods => rfl
  | case2 mods part parts m hm ih => rw [List.cons_append, union_cons_of_some hm, ih]
  | case3 mods part parts hm ih => rw [List.cons_append, union_cons_of_none hm, ih]

theorem union_filter (mods : Mask) (parts : List Text) :
    union mods (parts.filter fun part => !part.isEmpty) = union mods parts := by
  induction parts generalizing mods with
  | nil => rfl
  | cons part rest ih =>
      cases part with
      | nil => exact ih mods
      | cons c cs =>
          rw [List.filter_cons_of_pos rfl]
          cases hname : ofName? (c :: cs) with
          | some m => rw [union_cons_of_some hname, union_cons_of_some hname, ih]
          | none => rw [union_cons_of_none hname, union_cons_of_none hname, ih]

/-- Two readings of the same pieces that agree on the modifiers have the same union. -/
theorem union_congr (mods : Mask) {pieces : List Text} {f g : Text → Text}
    (h : ∀ piece ∈ pieces, ofName? (g piece) = ofName? (f piece)) :
    union mods (pieces.map g) = union mods (pieces.map f) := by
  induction pieces generalizing mods with
  | nil => rfl
  | cons piece rest ih =>
      have hrest := fun mods => ih mods fun p hp => h p (List.mem_cons_of_mem piece hp)
      have hpiece := h piece List.mem_cons_self
      rw [List.map_cons, List.map_cons]
      cases hname : ofName? (f piece) with
      | some m => rw [union_cons_of_some (hpiece.trans hname), union_cons_of_some hname, hrest]
      | none => rw [union_cons_of_none (hpiece.trans hname), union_cons_of_none hname, hrest]

theorem union_map_name (mods : Mask) (modifiers : List Modifier) :
    union mods (modifiers.map name) = modifiers.foldl (fun mask m => mask ||| m.mask) mods := by
  induction modifiers generalizing mods with
  | nil => rfl
  | cons m rest ih => rw [List.map_cons, union_cons_of_some (ofName?_name m), ih, List.foldl_cons]

/-- Whether a mask holds nothing but modifiers. -/
def IsUnion (mods : Mask) : Prop :=
  mods.toNat < 256

theorem isUnion_union {mods : Mask} (h : IsUnion mods) (parts : List Text) :
    IsUnion (union mods parts) := by
  fun_induction union mods parts with
  | case1 mods => exact h
  | case2 mods part parts m hm ih =>
      have hmask : m.mask.toNat < 2 ^ 8 := by cases m <;> decide
      refine ih ?_
      rw [IsUnion, BitVec.toNat_or]
      exact Nat.or_lt_two_pow h hmask
  | case3 mods part parts hm ih => exact ih h

theorem isUnion_union_zero (parts : List Text) : IsUnion (union 0 parts) :=
  isUnion_union (show (0 : Mask).toNat < 256 by decide) parts

/-- The modifiers of a mask make up the mask. -/
theorem union_names_ofMask {mods : Mask} (h : IsUnion mods) :
    union 0 ((ofMask mods).map name) = mods := by
  have hall : ∀ n < 256, (ofMask (BitVec.ofNat 16 n)).foldl (fun mask m => mask ||| m.mask) 0 =
      BitVec.ofNat 16 n := by decide +kernel
  have hmods := hall mods.toNat h
  rw [BitVec.ofNat_toNat, BitVec.setWidth_eq] at hmods
  rw [union_map_name, hmods]

end Modifier

namespace Chord

/-! ## Parts of joined texts -/

/-- Pieces without separators, joined by one, are the parts of the joined text: trimmed, and without
those that are blank. -/
theorem parts_join {pieces : List Text} (h : ∀ piece ∈ pieces, ∀ c ∈ piece, isSeparator c = false) :
    parts (Text.join ['-'] pieces) = (pieces.map Text.trim).filter fun part => !part.isEmpty := by
  cases pieces with
  | nil => rfl
  | cons piece rest => rw [parts, Text.splitOn_join rfl (List.cons_ne_nil piece rest) h]

/-- Whether a text is a part as it stands: it has no separators and no blanks. -/
def IsPart (piece : Text) : Prop :=
  piece ≠ [] ∧ ∀ c ∈ piece, isSeparator c = false ∧ Text.isBlank c = false

theorem IsPart.trim {piece : Text} (h : IsPart piece) : Text.trim piece = piece :=
  Text.trim_eq_self_of_not_blank fun c hc => (h.2 c hc).2

theorem toNat_of_isSeparator {c : Char} (h : isSeparator c = true) :
    c.toNat = 43 ∨ c.toNat = 45 := by
  rcases Bool.or_eq_true_iff.mp h with hplus | hminus
  · exact Or.inl (congrArg Char.toNat (beq_iff_eq.mp hplus))
  · exact Or.inr (congrArg Char.toNat (beq_iff_eq.mp hminus))

theorem not_isSeparator_of_isAsciiWord {c : Char} (h : Text.isAsciiWord c = true) :
    isSeparator c = false := by
  have hranges := (Text.isAsciiWord_iff c).mp h
  refine Bool.eq_false_iff.mpr fun hsep => ?_
  have hcode := toNat_of_isSeparator hsep
  omega

theorem isPart_of_isAsciiWord {piece : Text} (hne : piece ≠ [])
    (h : ∀ c ∈ piece, Text.isAsciiWord c = true) : IsPart piece := by
  refine ⟨hne, fun c hc => ?_⟩
  exact ⟨not_isSeparator_of_isAsciiWord (h c hc), Text.not_isBlank_of_isAsciiWord (h c hc)⟩

theorem isPart_modifierName (m : Modifier) : IsPart m.name :=
  isPart_of_isAsciiWord (by cases m <;> decide) (List.all_eq_true.mp (by cases m <;> decide))

theorem filter_map_trim {pieces : List Text} (h : ∀ piece ∈ pieces, IsPart piece) :
    ((pieces.map Text.trim).filter fun part => !part.isEmpty) = pieces := by
  rw [List.map_congr_left fun piece hpiece => (h piece hpiece).trim, List.map_id']
  refine List.filter_eq_self.mpr fun piece hpiece => ?_
  rw [Bool.not_eq_true', List.isEmpty_eq_false_iff]
  exact (h piece hpiece).1

/-- No part holds a separator. -/
theorem not_isSeparator_of_mem_parts {s part : Text} (h : part ∈ parts s) {c : Char}
    (hc : c ∈ part) : isSeparator c = false := by
  obtain ⟨piece, hpiece, rfl⟩ := List.mem_map.mp (List.mem_filter.mp h).1
  exact Text.not_sep_of_mem_splitOn hpiece (Text.mem_of_mem_trim hc)

/-! ## Sorting the parts -/

/-- The parts that name no modifier. -/
def targets (parts : List Text) : List Text :=
  parts.filter fun part => (Modifier.ofName? part).isNone

theorem targets_cons_of_some {part : Text} {m : Modifier} (h : Modifier.ofName? part = some m)
    (parts : List Text) : targets (part :: parts) = targets parts :=
  List.filter_cons_of_neg (by simp [h])

theorem targets_cons_of_none {part : Text} (h : Modifier.ofName? part = none)
    (parts : List Text) : targets (part :: parts) = part :: targets parts :=
  List.filter_cons_of_pos (by simp [h])

/-- Once the target is known, all other parts have to be modifiers. -/
theorem sortParts_some (s : Text) (mods : Mask) (target : Text) (parts : List Text) :
    sortParts s mods (some target) parts =
      if targets parts = [] then .ok (Modifier.union mods parts, target)
      else .error (.multipleKeys s) := by
  induction parts generalizing mods with
  | nil => rfl
  | cons part parts ih =>
      cases h : Modifier.ofName? part with
      | some m =>
          rw [targets_cons_of_some h, Modifier.union_cons_of_some h, ← ih]
          simp only [sortParts, h]
      | none =>
          rw [targets_cons_of_none h, if_neg (List.cons_ne_nil _ _)]
          simp only [sortParts, h]

theorem sortParts_none (s : Text) (mods : Mask) (parts : List Text) :
    sortParts s mods none parts =
      match targets parts with
      | [] => .error (.missingKey s)
      | [target] => .ok (Modifier.union mods parts, target)
      | _ => .error (.multipleKeys s) := by
  induction parts generalizing mods with
  | nil => rfl
  | cons part parts ih =>
      cases h : Modifier.ofName? part with
      | some m =>
          rw [targets_cons_of_some h, Modifier.union_cons_of_some h, ← ih]
          simp only [sortParts, h]
      | none =>
          have hstep : sortParts s mods none (part :: parts) =
              sortParts s mods (some part) parts := by
            simp only [sortParts, h]
          rw [hstep, sortParts_some, targets_cons_of_none h, Modifier.union_cons_of_none h]
          cases targets parts with
          | nil => rfl
          | cons other rest => rfl

/-- A chord text has to have exactly one part that names no modifier. -/
theorem analyse_eq_ok_iff {s : Text} {mods : Mask} {part : Text} :
    analyse s = .ok (mods, part) ↔
      targets (parts s) = [part] ∧ mods = Modifier.union 0 (parts s) := by
  rw [analyse]
  split
  case h_1 hparts => simp [hparts, targets]
  case h_2 =>
    rw [sortParts_none]
    split
    case h_1 htargets => simp [htargets]
    case h_2 target htargets => simp [htargets, eq_comm, and_comm]
    case h_3 hnone hone =>
      refine ⟨fun h => ?_, fun h => absurd h.1 (hone part)⟩
      cases h

theorem isUnion_of_analyse {s : Text} {mods : Mask} {part : Text}
    (h : analyse s = .ok (mods, part)) : Modifier.IsUnion mods := by
  rw [(analyse_eq_ok_iff.mp h).2]
  exact Modifier.isUnion_union_zero (parts s)

theorem ofName?_of_analyse {s : Text} {mods : Mask} {part : Text}
    (h : analyse s = .ok (mods, part)) : part ∈ parts s ∧ Modifier.ofName? part = none := by
  have hmem : part ∈ targets (parts s) := (analyse_eq_ok_iff.mp h).1 ▸ List.mem_singleton_self part
  rw [targets, List.mem_filter, Option.isNone_iff_eq_none] at hmem
  exact hmem

/-- Every part is a modifier or the target. -/
theorem modifier_or_target {s : Text} {mods : Mask} {part : Text}
    (h : analyse s = .ok (mods, part)) {other : Text} (hother : other ∈ parts s) :
    (∃ m, Modifier.ofName? other = some m) ∨ other = part := by
  cases hname : Modifier.ofName? other with
  | some m => exact Or.inl ⟨m, rfl⟩
  | none =>
      have hmem : other ∈ targets (parts s) :=
        List.mem_filter.mpr ⟨hother, Option.isNone_iff_eq_none.mpr hname⟩
      rw [(analyse_eq_ok_iff.mp h).1, List.mem_singleton] at hmem
      exact Or.inr hmem

/-- Whether a trimmed piece is a target: neither empty nor a modifier. -/
def isTarget (part : Text) : Bool :=
  !part.isEmpty && (Modifier.ofName? part).isNone

theorem targets_filter_map (pieces : List Text) (f : Text → Text) :
    targets ((pieces.map f).filter fun part => !part.isEmpty) =
      (pieces.filter fun piece => isTarget (f piece)).map f := by
  rw [targets, List.filter_filter, List.filter_map]
  congr 2
  funext piece
  rw [Function.comp_apply, isTarget, Bool.and_comm]

/-- Two texts whose parts are readings `f` and `g` of the same pieces, with the same modifiers and
the same blanks, have their targets in the same piece. -/
theorem analyse_of_pieces {s t : Text} {pieces : List Text} {f g : Text → Text}
    (hs : parts s = (pieces.map f).filter fun part => !part.isEmpty)
    (ht : parts t = (pieces.map g).filter fun part => !part.isEmpty)
    (hname : ∀ piece ∈ pieces, Modifier.ofName? (g piece) = Modifier.ofName? (f piece))
    (hblank : ∀ piece ∈ pieces, g piece = [] ↔ f piece = []) {mods : Mask} {part : Text}
    (h : analyse s = .ok (mods, part)) :
    ∃ piece ∈ pieces, f piece = part ∧ analyse t = .ok (mods, g piece) ∧
      ∀ other ∈ pieces, f other = part → other = piece := by
  have hsame : (pieces.filter fun piece => isTarget (g piece)) =
      pieces.filter fun piece => isTarget (f piece) := by
    refine List.filter_congr fun piece hpiece => ?_
    have hempty : (g piece).isEmpty = (f piece).isEmpty := by
      rw [Bool.eq_iff_iff, List.isEmpty_iff, List.isEmpty_iff, hblank piece hpiece]
    rw [isTarget, isTarget, hname piece hpiece, hempty]
  obtain ⟨htargets, hmods⟩ := analyse_eq_ok_iff.mp h
  rw [hs, targets_filter_map] at htargets
  obtain ⟨piece, hpieces, hpart⟩ := List.map_eq_singleton_iff.mp htargets
  have hkept := List.mem_singleton_self piece
  rw [← hpieces, List.mem_filter] at hkept
  refine ⟨piece, hkept.1, hpart, ?_, fun other hother heq => ?_⟩
  · rw [analyse_eq_ok_iff, ht, targets_filter_map, hsame, hpieces, hmods, hs,
      Modifier.union_filter, Modifier.union_filter, Modifier.union_congr 0 hname]
    exact ⟨rfl, rfl⟩
  · have hfound : other ∈ pieces.filter fun piece => isTarget (f piece) := by
      rw [List.mem_filter, heq, ← hpart]
      exact ⟨hother, hkept.2⟩
    rw [hpieces] at hfound
    exact List.mem_singleton.mp hfound

/-! ## Keys and buttons -/

/-- The digits of a button are not taken for the word that may stand before them. -/
theorem after?_mouse_of_isDigit {digits : Text} (h : ∀ c ∈ digits, c.isDigit = true) :
    Text.after? "mouse".toList digits = none :=
  Text.after?_of_not_mem (List.mem_cons_self : 'm' ∈ "mouse".toList) fun hmem =>
    absurd (h 'm' hmem) (by decide)

/-- The chord of a text whose target is found by `found?`. -/
def readWith (found? : Text → Option Target) (fault : Text → ChordError) (s : Text) :
    Except ChordError Chord :=
  (analyse s).bind fun taken =>
    (found? taken.2).elim (.error (fault taken.2)) fun target => .ok ⟨taken.1, target⟩

theorem ofKeyText_eq_readWith (s : Text) :
    ofKeyText s = readWith (fun part => (Keysym.ofName? part).map .key) .unknownKey s := by
  unfold readWith
  refine congrArg (analyse s).bind (funext fun taken => ?_)
  obtain ⟨mods, part⟩ := taken
  dsimp only
  cases Keysym.ofName? part <;> rfl

theorem ofButtonText_eq_readWith (s : Text) :
    ofButtonText s = readWith (fun part => (buttonNumber? part).map .button) .invalidButton s := by
  unfold readWith
  refine congrArg (analyse s).bind (funext fun taken => ?_)
  obtain ⟨mods, part⟩ := taken
  dsimp only
  cases buttonNumber? part <;> rfl

/-- A chord is read from a text whose one target is found, whatever the targets are. -/
theorem readWith_eq_ok_iff {found? : Text → Option Target} {fault : Text → ChordError} {s : Text}
    {c : Chord} :
    readWith found? fault s = .ok c ↔
      ∃ part, analyse s = .ok (c.mods, part) ∧ found? part = some c.target := by
  rw [readWith]
  constructor
  · intro h
    cases hanalyse : analyse s with
    | error e =>
        rw [hanalyse] at h
        cases h
    | ok taken =>
        rw [hanalyse, Except.bind] at h
        cases hfound : found? taken.2 with
        | none =>
            rw [hfound] at h
            cases h
        | some target =>
            rw [hfound] at h
            cases h
            exact ⟨taken.2, rfl, hfound⟩
  · rintro ⟨part, hanalyse, hfound⟩
    rw [hanalyse, Except.bind, hfound, Option.elim_some]

/-- The text of a key chord: its one target names a keysym. -/
theorem ofKeyText_eq_ok_iff {s : Text} {c : Chord} :
    ofKeyText s = .ok c ↔
      ∃ part sym, analyse s = .ok (c.mods, part) ∧ Keysym.ofName? part = some sym ∧
        c.target = .key sym := by
  rw [ofKeyText_eq_readWith, readWith_eq_ok_iff]
  simp only [Option.map_eq_some_iff, exists_and_left, eq_comm (a := c.target)]

theorem bounds_of_buttonNumber? {part : Text} {number : Nat}
    (h : buttonNumber? part = some number) : 0 < number ∧ number ≤ 255 := by
  rw [buttonNumber?] at h
  have hbounds := (Option.filter_eq_some_iff.mp h).2
  simpa using hbounds

/-- The text of a button chord: its one target is the number of a button. -/
theorem ofButtonText_eq_ok_iff {s : Text} {c : Chord} :
    ofButtonText s = .ok c ↔
      ∃ part number, analyse s = .ok (c.mods, part) ∧ buttonNumber? part = some number ∧
        c.target = .button number := by
  rw [ofButtonText_eq_readWith, readWith_eq_ok_iff]
  simp only [Option.map_eq_some_iff, exists_and_left, eq_comm (a := c.target)]

end Chord

end Hotkeys.Keys
