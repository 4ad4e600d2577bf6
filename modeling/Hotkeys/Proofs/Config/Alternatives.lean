import Hotkeys.Config.Expansion
import Hotkeys.Proofs.Text.Numerals
import Hotkeys.Proofs.Text.Trimming

/-!
# Alternatives

A reference for the expansion of groups.  A member of a binding group and the command member beside
it stand for alternatives, a range for one at each step; the expansion resolves a range to members
first and looks at their values later, which comes to the same (`map_value_steps`).
-/

set_option autoImplicit false

namespace Hotkeys.Config

/-- A member of a binding group and the command member beside it. -/
abbrev Cell := Text × Text

/-! ## What a cell stands for -/

/-- What stands beside step `i` of a range: nothing beside `_`, and else a command range at its own
step `i`, which goes through numbers or through letters. -/
def counted (command : Text) (i : Nat) : Text :=
  if isBlankMember command then []
  else
    match Text.splitFirst '-' (Text.trim command) with
    | some (low, _) =>
      if isNumeral low then Text.ofNat ((Text.numeral? 10 low).getD 0 + i)
      else low.map (charAfter · i)
    | none => []

/-- The alternatives of a cell: those of each step for a range, and else the two members
themselves, `_` being nothing and escapes removed. -/
def alternatives (cell : Cell) : List Cell :=
  match rangeEnds? cell.1 with
  | some (low, high) =>
    (List.range (high.toNat - low.toNat + 1)).map fun i =>
      ([charAfter low i], counted cell.2 i)
  | none => [(unescape (memberValue cell.1), unescape (memberValue cell.2))]

/-- The alternatives of each group of a pair. -/
def groupAlternatives (p : Pair) : List (List Cell) :=
  List.zipWith (fun binding command => (binding.zip command).flatMap alternatives)
    (Template.ofText p.binding).groups (Template.ofText p.command).groups

/-- The text of a template with the given texts in the places of its groups. -/
def Template.fill : Template → (values : List Text) → Text
  | [], _ => []
  | .text t :: rest, values => t ++ Template.fill rest values
  | .group _ :: rest, [] => Template.fill rest []
  | .group _ :: rest, value :: values => value ++ Template.fill rest values

/-- The pair that a choice of one alternative for each group makes of a pair. -/
def chosenPair (p : Pair) (chosen : List Cell) : Pair :=
  { binding := collapse ((Template.ofText p.binding).fill (chosen.map Prod.fst))
    command := (Template.ofText p.command).fill (chosen.map Prod.snd)
    line := p.line }

theorem Template.render_eq_fill (t : Template) (picks : List Text) :
    t.render picks = t.fill (picks.map unescape) := by
  fun_induction Template.render t picks with
  | case1 => rfl
  | case2 t rest picks ih => rw [fill, ih]
  | case3 members rest ih => rw [List.map_nil, fill, ih, List.map_nil]
  | case4 members rest pick picks ih => rw [List.map_cons, fill, ih]

/-! ## Values of members -/

/-- What the members of a cell contribute. -/
def Cell.value (cell : Cell) : Cell :=
  (unescape (memberValue cell.1), unescape (memberValue cell.2))

theorem unescape_of_not_mem {t : Text} (h : '\\' ∉ t) : unescape t = t := by
  induction t with
  | nil => rfl
  | cons c cs ih =>
      obtain ⟨hc, hcs⟩ := List.ne_and_not_mem_of_not_mem_cons h
      rw [unescape, if_neg fun hescape => hc hescape.1.symm, ih hcs]

/-- A member without a `_` or a backslash contributes itself. -/
theorem value_of_not_mem {t : Text} (hblank : '_' ∉ t) (hescape : '\\' ∉ t) :
    unescape (memberValue t) = t := by
  have hmember : isBlankMember t = false := by
    rw [isBlankMember, beq_eq_false_iff_ne]
    exact fun h => hblank (Text.mem_of_mem_trim (h ▸ List.mem_singleton_self '_'))
  rw [memberValue, if_neg (Bool.eq_false_iff.mp hmember), unescape_of_not_mem hescape]

theorem value_ofNat (n : Nat) : unescape (memberValue (Text.ofNat n)) = Text.ofNat n :=
  value_of_not_mem (fun h => absurd (Text.isDigit_of_mem_ofNat h) (by decide))
    (fun h => absurd (Text.isDigit_of_mem_ofNat h) (by decide))

/-! ## Characters of ranges -/

/-- Two digits or two small letters. -/
def SameClass (low high : Char) : Prop :=
  (low.isDigit ∧ high.isDigit) ∨ (low.isLower ∧ high.isLower)

/-- The characters of a range contribute themselves. -/
theorem SameClass.value_charAfter {low high : Char} (h : SameClass low high) {i : Nat}
    (hi : low.toNat + i ≤ high.toNat) :
    unescape (memberValue [charAfter low i]) = [charAfter low i] := by
  have hbounds : (48 ≤ low.toNat + i ∧ low.toNat + i ≤ 57) ∨
      (97 ≤ low.toNat + i ∧ low.toNat + i ≤ 122) := by
    rw [SameClass, Text.isDigit_iff, Text.isDigit_iff, Text.isLower_iff, Text.isLower_iff] at h
    omega
  have hvalid : (low.toNat + i).isValidChar := Or.inl (by omega)
  have hcode : (charAfter low i).toNat = low.toNat + i := by
    rw [charAfter, Char.ofNat, dif_pos hvalid]
    rfl
  have hne : ∀ c : Char, c.toNat = 92 ∨ c.toNat = 95 → c ∉ [charAfter low i] := by
    intro c hc hmem
    rw [List.mem_singleton.mp hmem, hcode] at hc
    omega
  exact value_of_not_mem (hne '_' (Or.inr rfl)) (hne '\\' (Or.inl rfl))

theorem sameClass_of_rangeEnds? {member : Text} {low high : Char}
    (h : rangeEnds? member = some (low, high)) : SameClass low high := by
  rw [rangeEnds?] at h
  split at h
  case h_1 a mark b _ =>
    split at h
    case isTrue hclass =>
      cases h
      exact hclass.2
    case isFalse => exact absurd h.symm (Option.some_ne_none _)
  case h_2 => exact absurd h.symm (Option.some_ne_none _)

/-! ## Command ranges -/

/-- A command range counts from its lower end, and what it counts contributes itself. -/
theorem value?_of_commandEnds? {low high : Text} {range : CommandRange} {steps : Int}
    (h : commandEnds? low high = some (range, steps)) {i : Nat} (hi : (i : Int) ≤ steps) :
    ∃ t, range.value? i = some t ∧ unescape (memberValue t) = t ∧
      t = if isNumeral low then Text.ofNat ((Text.numeral? 10 low).getD 0 + i)
        else low.map (charAfter · i) := by
  unfold commandEnds? at h
  split at h
  case isTrue hnumerals =>
    split at h
    case h_1 l r hl hr =>
      cases h
      obtain ⟨hlow, -⟩ := Option.filter_eq_some_iff.mp hl
      refine ⟨Text.ofNat (l + i), rfl, value_ofNat _, ?_⟩
      rw [if_pos (Bool.and_eq_true_iff.mp hnumerals).1, hlow, Option.getD_some]
    case h_2 => exact absurd h.symm (Option.some_ne_none _)
  case isFalse =>
    split at h
    case h_1 a b _ =>
      split at h
      case isTrue hletters =>
        cases h
        rw [Bool.and_eq_true] at hletters
        have hnumeral : isNumeral [a] = false := by
          have hdigit : a.isDigit = false := by
            rw [Bool.eq_false_iff, Ne, Text.isDigit_iff]
            have hlower := (Text.isLower_iff a).mp hletters.1
            omega
          rw [isNumeral, List.all_cons, hdigit]
          rfl
        refine ⟨[charAfter a i], rfl, SameClass.value_charAfter (Or.inr hletters) (by omega), ?_⟩
        rw [if_neg (Bool.eq_false_iff.mp hnumeral), List.map_singleton]
      case isFalse => exact absurd h.symm (Option.some_ne_none _)
    case h_2 => exact absurd h.symm (Option.some_ne_none _)

/-- What stands beside a range is `_` or a command range of the same length. -/
theorem commandRange_cases {binding member : Text} {span : Nat} {range : CommandRange}
    (h : commandRange binding member span = .ok range) :
    (isBlankMember member = true ∧ range = .keep) ∨
      (isBlankMember member = false ∧ ∃ low high,
        Text.splitFirst '-' (Text.trim member) = some (low, high) ∧
          commandEnds? low high = some (range, (span : Int))) := by
  rw [commandRange] at h
  split at h
  case isTrue hblank =>
    cases h
    exact Or.inl ⟨hblank, rfl⟩
  case isFalse hblank =>
    refine Or.inr ⟨Bool.eq_false_iff.mpr hblank, ?_⟩
    split at h
    case h_1 => cases h
    case h_2 found steps hfound =>
      split at h
      case isFalse => cases h
      case isTrue hsteps =>
        cases h
        obtain ⟨⟨low, high⟩, hsplit, hends⟩ := Option.bind_eq_some_iff.mp hfound
        exact ⟨low, high, hsplit, hsteps ▸ hends⟩

/-- What a command range holds at a step contributes what is counted. -/
theorem value_of_commandRange {binding member : Text} {span : Nat} {range : CommandRange}
    (h : commandRange binding member span = .ok range) {i : Nat} (hi : i ≤ span) :
    unescape (memberValue ((range.value? i).getD member)) = counted member i := by
  rw [counted]
  rcases commandRange_cases h with ⟨hblank, rfl⟩ | ⟨hblank, low, high, hsplit, hends⟩
  · rw [CommandRange.value?, Option.getD_none, memberValue, if_pos hblank, if_pos hblank]
    rfl
  · obtain ⟨t, hvalue, hself, ht⟩ := value?_of_commandEnds? hends (Int.ofNat_le.mpr hi)
    rw [hvalue, Option.getD_some, hself, ht, if_neg (Bool.eq_false_iff.mp hblank), hsplit]

/-- The steps of a range contribute its alternatives, in order. -/
theorem map_value_steps {b c : Text} {low high : Char} {range : CommandRange}
    (hb : rangeEnds? b = some (low, high))
    (hc : commandRange b c (high.toNat - low.toNat) = .ok range) (hascends : low < high) :
    ((List.range (high.toNat - low.toNat + 1)).map fun i =>
      Cell.value ([charAfter low i], (range.value? i).getD c)) = alternatives (b, c) := by
  rw [alternatives, hb]
  refine List.map_congr_left fun i hi => ?_
  have hspan : i ≤ high.toNat - low.toNat := Nat.le_of_lt_succ (List.mem_range.mp hi)
  have hle : low.toNat + i ≤ high.toNat := by
    have hlt : low.toNat < high.toNat := hascends
    omega
  rw [Cell.value, value_of_commandRange hc hspan,
    (sameClass_of_rangeEnds? hb).value_charAfter hle]

theorem alternatives_ne_nil (cell : Cell) : alternatives cell ≠ [] := by
  rw [alternatives]
  split
  case h_1 => exact mt List.map_eq_nil_iff.mp (mt List.range_eq_nil.mp (Nat.succ_ne_zero _))
  case h_2 => exact List.cons_ne_nil _ _

end Hotkeys.Config
