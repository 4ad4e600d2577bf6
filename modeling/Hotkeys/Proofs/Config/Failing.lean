import Hotkeys.Proofs.Config.Firsts
import Hotkeys.Proofs.Text.Numerals
import Hotkeys.Proofs.Text.Pieces

/-!
# Pairs that cannot be expanded

What stands in the way of an expansion, told without the order in which it is looked for: groups or
members without a partner, a range that does not ascend, and a command member that cannot stand
beside a range.

Main statements: a pair cannot be expanded just when it has one of these
(`exists_expand_eq_error_iff`), and where it can be, it stands for some pair (`expand_ne_nil`).
-/

set_option autoImplicit false

namespace Hotkeys.Config

/-! ## Ranges of a binding -/

/-- Whether a binding member is the range from `low` to `high`. -/
def IsRange (member : Text) (low high : Char) : Prop :=
  Text.trim member = [low, '-', high] ∧ SameClass low high

theorem rangeEnds?_eq_some_iff {member : Text} {low high : Char} :
    rangeEnds? member = some (low, high) ↔ IsRange member low high := by
  constructor
  · intro h
    refine ⟨?_, sameClass_of_rangeEnds? h⟩
    rw [rangeEnds?] at h
    split at h
    case h_1 a mark b htrim =>
      obtain ⟨hclass, hends⟩ := Option.ite_none_right_eq_some.mp h
      cases hends
      rw [htrim, hclass.1]
    case h_2 => exact absurd h.symm (Option.some_ne_none _)
  · rintro ⟨htrim, hclass⟩
    rw [rangeEnds?, htrim]
    exact if_pos ⟨rfl, hclass⟩

/-! ## Beside a range -/

/-- What a command member may be beside a range of `span` steps. -/
inductive StandsBeside (span : Nat) (member : Text) : Prop where
  /-- It stays. -/
  | blank (hmember : Text.trim member = ['_'])
  /-- It counts through as many numbers, none of them too large. -/
  | numbers {low high : Text} {first : Nat} (hmember : Text.trim member = low ++ '-' :: high)
      (hlow : Text.numeral? 10 low = some first)
      (hhigh : Text.numeral? 10 high = some (first + span))
      (hlargest : first + span ≤ maxCommandNumber)
  /-- It goes through as many small letters. -/
  | letters {low high : Char} (hmember : Text.trim member = [low, '-', high])
      (hlow : low.isLower) (hhigh : high.isLower) (hspan : high.toNat = low.toNat + span)

theorem isNumeral_of_numeral? {t : Text} {n : Nat} (h : Text.numeral? 10 t = some n) :
    isNumeral t = true := by
  rw [isNumeral, Bool.and_eq_true, Bool.not_eq_true', List.isEmpty_eq_false_iff,
    List.all_eq_true]
  exact ⟨(Text.digits_of_numeral? h).1, Text.isDigit_of_numeral? h⟩

/-- The ends of a command range of `span` steps. -/
theorem commandEnds?_cases {low high : Text} {range : CommandRange} {span : Nat}
    (h : commandEnds? low high = some (range, (span : Int))) :
    (∃ first, range = .numbers first ∧ Text.numeral? 10 low = some first ∧
        Text.numeral? 10 high = some (first + span) ∧ first + span ≤ maxCommandNumber) ∨
      ∃ a b : Char, range = .letters a ∧ low = [a] ∧ high = [b] ∧ a.isLower ∧ b.isLower ∧
        b.toNat = a.toNat + span := by
  unfold commandEnds? at h
  split at h
  case isTrue =>
    split at h
    case h_1 first last hfirst hlast =>
      obtain ⟨hlow, -⟩ := Option.filter_eq_some_iff.mp hfirst
      obtain ⟨hhigh, hlargest⟩ := Option.filter_eq_some_iff.mp hlast
      obtain ⟨rfl, hsteps⟩ := Prod.mk.inj (Option.some.inj h)
      obtain rfl : last = first + span := by omega
      exact Or.inl ⟨first, rfl, hlow, hhigh, of_decide_eq_true hlargest⟩
    case h_2 => exact absurd h.symm (Option.some_ne_none _)
  case isFalse =>
    split at h
    case h_1 a b _ =>
      obtain ⟨hletters, hends⟩ := Option.ite_none_right_eq_some.mp h
      obtain ⟨rfl, hsteps⟩ := Prod.mk.inj (Option.some.inj hends)
      obtain ⟨ha, hb⟩ := Bool.and_eq_true_iff.mp hletters
      exact Or.inr ⟨a, b, rfl, rfl, rfl, ha, hb, by omega⟩
    case h_2 => exact absurd h.symm (Option.some_ne_none _)

theorem commandEnds?_numbers {low high : Text} {first span : Nat}
    (hlow : Text.numeral? 10 low = some first)
    (hhigh : Text.numeral? 10 high = some (first + span))
    (hlargest : first + span ≤ maxCommandNumber) :
    commandEnds? low high = some (.numbers first, (span : Int)) := by
  have hfirst : commandNumber? low = some first :=
    Option.filter_eq_some_iff.mpr
      ⟨hlow, decide_eq_true (Nat.le_trans (Nat.le_add_right first span) hlargest)⟩
  have hlast : commandNumber? high = some (first + span) :=
    Option.filter_eq_some_iff.mpr ⟨hhigh, decide_eq_true hlargest⟩
  have hsteps : ((first + span : Nat) : Int) - first = span := by omega
  unfold commandEnds?
  rw [isNumeral_of_numeral? hlow, isNumeral_of_numeral? hhigh, Bool.and_self, if_pos rfl, hfirst,
    hlast, ← hsteps]

theorem commandEnds?_letters {a b : Char} {span : Nat} (ha : a.isLower) (hb : b.isLower)
    (hspan : b.toNat = a.toNat + span) :
    commandEnds? [a] [b] = some (.letters a, (span : Int)) := by
  have hnumeral : isNumeral [a] = false := by
    have hdigit : a.isDigit = false := by
      rw [Bool.eq_false_iff, Ne, Text.isDigit_iff]
      have hlower := (Text.isLower_iff a).mp ha
      omega
    rw [isNumeral, List.all_cons, hdigit]
    rfl
  have hsteps : (b.toNat : Int) - a.toNat = span := by omega
  rw [commandEnds?, hnumeral, Bool.false_and, if_neg Bool.false_ne_true]
  simp only [ha, hb, Bool.and_self, if_true, hsteps]

/-- A member with ends of the right distance is a command range, unless it stays. -/
theorem exists_commandRange {binding member low high : Text} {span : Nat} {range : CommandRange}
    (hsplit : Text.splitFirst '-' (Text.trim member) = some (low, high))
    (hends : commandEnds? low high = some (range, (span : Int))) :
    ∃ range, commandRange binding member span = .ok range := by
  rw [commandRange]
  by_cases hblank : isBlankMember member
  · exact ⟨.keep, if_pos hblank⟩
  · simp only [if_neg hblank, hsplit, Option.bind_some, hends, if_true]
    exact ⟨range, rfl⟩

theorem exists_commandRange_iff (binding : Text) {member : Text} {span : Nat} :
    (∃ range, commandRange binding member span = .ok range) ↔ StandsBeside span member := by
  constructor
  · rintro ⟨range, hrange⟩
    rcases commandRange_cases hrange with ⟨hblank, -⟩ | ⟨-, low, high, hsplit, hends⟩
    · exact .blank (beq_iff_eq.mp hblank)
    · obtain ⟨-, hmember⟩ := Text.splitFirst_eq_some_iff.mp hsplit
      rcases commandEnds?_cases hends with
        ⟨first, -, hlow, hhigh, hlargest⟩ | ⟨a, b, -, rfl, rfl, ha, hb, hspan⟩
      · exact .numbers hmember hlow hhigh hlargest
      · exact .letters hmember ha hb hspan
  · intro h
    cases h with
    | blank hmember => exact ⟨.keep, if_pos (beq_iff_eq.mpr hmember)⟩
    | numbers hmember hlow hhigh hlargest =>
        have hmark : '-' ∉ _ := fun hc => absurd (Text.isDigit_of_numeral? hlow _ hc) (by decide)
        exact exists_commandRange (Text.splitFirst_eq_some_iff.mpr ⟨hmark, hmember⟩)
          (commandEnds?_numbers hlow hhigh hlargest)
    | @letters low high hmember hlow hhigh hspan =>
        have hmark : '-' ∉ [low] := fun hc =>
          absurd (List.mem_singleton.mp hc ▸ hlow) (by decide)
        exact exists_commandRange (Text.splitFirst_eq_some_iff.mpr ⟨hmark, hmember⟩)
          (commandEnds?_letters hlow hhigh hspan)

/-! ## Cells -/

/-- Whether a cell cannot be expanded: its binding member is a range that does not ascend, or one
beside which its command member cannot stand. -/
def Cell.Fails (cell : Cell) : Prop :=
  ∃ low high, IsRange cell.1 low high ∧
    (high ≤ low ∨ ¬ StandsBeside (high.toNat - low.toNat) cell.2)

theorem exists_rangeAt_iff {group member : Nat} {b c : Text} :
    (∃ found, rangeAt group member b c = .ok found) ↔ ¬ Cell.Fails (b, c) := by
  rw [rangeAt]
  cases hends : rangeEnds? b with
  | none =>
      refine iff_of_true ⟨none, rfl⟩ ?_
      rintro ⟨low, high, hrange, -⟩
      cases hends.symm.trans (rangeEnds?_eq_some_iff.mpr hrange)
  | some ends =>
      obtain ⟨low, high⟩ := ends
      have hrange := rangeEnds?_eq_some_iff.mp hends
      by_cases hascends : high ≤ low
      · refine iff_of_false ?_ (not_not.mpr ⟨low, high, hrange, Or.inl hascends⟩)
        rintro ⟨found, hfound⟩
        cases (if_pos hascends).symm.trans hfound
      · -- The range ascends, so that only the command member is left to fail.
        have hcell : Cell.Fails (b, c) ↔ ¬ StandsBeside (high.toNat - low.toNat) c := by
          constructor
          · rintro ⟨low', high', hrange', hfails⟩
            cases hends.symm.trans (rangeEnds?_eq_some_iff.mpr hrange')
            exact hfails.resolve_left hascends
          · exact fun hbeside => ⟨low, high, hrange, Or.inr hbeside⟩
        rw [hcell, not_not, ← exists_commandRange_iff b]
        simp only [if_neg hascends]
        constructor
        · rintro ⟨found, hfound⟩
          obtain ⟨range, hcommand, -⟩ := exists_of_bind_eq_ok hfound
          exact ⟨range, hcommand⟩
        · rintro ⟨range, hcommand⟩
          rw [hcommand]
          exact ⟨_, rfl⟩

/-- Of two computations one after the other, where the second does not look at what the first
gives, both have to succeed. -/
theorem exists_both_iff {ε α β γ : Type} {x : Except ε α} {y : Except ε β} (f : α → β → γ) :
    (∃ c, (do let a ← x; let b ← y; return f a b) = Except.ok c) ↔
      (∃ a, x = .ok a) ∧ ∃ b, y = .ok b := by
  constructor
  · rintro ⟨c, h⟩
    obtain ⟨a, ha, h⟩ := exists_of_bind_eq_ok h
    obtain ⟨b, hb, -⟩ := exists_of_bind_eq_ok h
    exact ⟨⟨a, ha⟩, b, hb⟩
  · rintro ⟨⟨a, rfl⟩, b, rfl⟩
    exact ⟨f a b, rfl⟩

/-- Lists of which one is empty have no members side by side. -/
theorem forall_mem_zip {α : Type} {as bs : List α} {P : α × α → Prop}
    (h : ∀ a as' b bs', as = a :: as' → bs = b :: bs' → False) : ∀ row ∈ as.zip bs, P row := by
  cases as with
  | nil => exact List.forall_mem_nil P
  | cons a as =>
      cases bs with
      | nil => exact List.forall_mem_nil P
      | cons b bs => exact (h a as b bs rfl rfl).elim

theorem exists_groupRanges_iff {group member : Nat} {bs cs : List Text} :
    (∃ ranges, groupRanges group member bs cs = .ok ranges) ↔
      ∀ cell ∈ bs.zip cs, ¬ Cell.Fails cell := by
  fun_induction groupRanges group member bs cs with
  | case1 member b bs c cs ih =>
      rw [exists_both_iff, ih, exists_rangeAt_iff, List.zip_cons_cons, List.forall_mem_cons]
  | case2 bs member cs hcons => exact iff_of_true ⟨[], rfl⟩ (forall_mem_zip hcons)

theorem exists_rangesFrom_iff {group : Nat} {bs cs : List (List Text)} :
    (∃ ranges, rangesFrom group bs cs = .ok ranges) ↔
      ∀ row ∈ bs.zip cs, ∀ cell ∈ row.1.zip row.2, ¬ Cell.Fails cell := by
  fun_induction rangesFrom group bs cs with
  | case1 group b bs c cs ih =>
      rw [exists_both_iff, ih, exists_groupRanges_iff, List.zip_cons_cons, List.forall_mem_cons]
  | case2 bs group cs hcons => exact iff_of_true ⟨[], rfl⟩ (forall_mem_zip hcons)

/-! ## Pairs -/

theorem unevenGroup?_eq_none_iff {bs cs : List (List Text)} :
    unevenGroup? bs cs = none ↔ ∀ row ∈ bs.zip cs, row.1.length = row.2.length := by
  fun_induction unevenGroup? bs cs with
  | case1 b bs c cs hsize ih =>
      rw [Option.map_eq_none_iff, ih, List.zip_cons_cons, List.forall_mem_cons, and_iff_right hsize]
  | case2 b bs c cs hsize =>
      refine iff_of_false (Option.some_ne_none 0) fun h => hsize ?_
      exact h (b, c) List.mem_cons_self
  | case3 bs cs hcons => exact iff_of_true rfl (forall_mem_zip hcons)

/-- Whether a pair cannot be expanded: its binding has groups, and either the command has another
number of them, or a group has another number of members there, or a cell fails. -/
def Pair.Fails (p : Pair) : Prop :=
  let bs := (Template.ofText p.binding).groups
  let cs := (Template.ofText p.command).groups
  bs ≠ [] ∧
    (bs.length ≠ cs.length ∨
      (∃ row ∈ bs.zip cs, row.1.length ≠ row.2.length) ∨
      ∃ row ∈ bs.zip cs, ∃ cell ∈ row.1.zip row.2, Cell.Fails cell)

/-- A computation fails just when it does not succeed. -/
theorem exists_eq_error_iff {ε α : Type} {x : Except ε α} :
    (∃ e, x = .error e) ↔ ¬ ∃ a, x = .ok a := by
  cases x with
  | error e =>
      refine iff_of_true ⟨e, rfl⟩ ?_
      rintro ⟨a, h⟩
      cases h
  | ok a =>
      refine iff_of_false ?_ (not_not.mpr ⟨a, rfl⟩)
      rintro ⟨e, h⟩
      cases h

/-- The three checks of a pair with groups. -/
theorem not_fails_iff {p : Pair} (hgroups : (Template.ofText p.binding).groups ≠ []) :
    ¬ p.Fails ↔
      (Template.ofText p.binding).groups.length = (Template.ofText p.command).groups.length ∧
        unevenGroup? (Template.ofText p.binding).groups (Template.ofText p.command).groups = none ∧
          ∃ ranges, rangesFrom 0 (Template.ofText p.binding).groups
            (Template.ofText p.command).groups = .ok ranges := by
  rw [Pair.Fails, unevenGroup?_eq_none_iff, exists_rangesFrom_iff]
  push Not
  exact ⟨fun h => h hgroups, fun h _ => h⟩

theorem exists_allPairs_iff {p : Pair} (hgroups : (Template.ofText p.binding).groups ≠ []) :
    (∃ all, allPairs p = .ok all) ↔ ¬ p.Fails := by
  rw [not_fails_iff hgroups, allPairs]
  constructor
  · rintro ⟨all, hall⟩
    split at hall
    case isTrue => cases hall
    case isFalse hlength =>
      split at hall
      case h_1 => cases hall
      case h_2 heven =>
        obtain ⟨ranges, hranges, -⟩ := exists_of_bind_eq_ok hall
        exact ⟨not_not.mp hlength, heven, ranges, hranges⟩
  · rintro ⟨hlength, heven, ranges, hranges⟩
    simp only [if_neg (not_not.mpr hlength), heven, hranges]
    exact ⟨_, rfl⟩

/-- A pair can be expanded just when it does not fail. -/
theorem exists_expand_iff {p : Pair} : (∃ pairs, expand p = .ok pairs) ↔ ¬ p.Fails := by
  by_cases hgroups : (Template.ofText p.binding).groups = []
  · rw [expand_of_no_groups hgroups]
    exact iff_of_true ⟨[p], rfl⟩ fun hfails => hfails.1 hgroups
  · rw [← exists_allPairs_iff hgroups, expand_of_groups hgroups]
    constructor
    · rintro ⟨pairs, hpairs⟩
      cases hall : allPairs p with
      | error e =>
          rw [hall] at hpairs
          cases hpairs
      | ok all => exact ⟨all, rfl⟩
    · rintro ⟨all, hall⟩
      rw [hall]
      exact ⟨_, rfl⟩

theorem exists_expand_eq_error_iff {p : Pair} : (∃ e, expand p = .error e) ↔ p.Fails := by
  rw [exists_eq_error_iff, exists_expand_iff, not_not]

/-! ## Pairs that can be expanded -/

theorem ne_nil_of_readGroup {t : Text} {g : List Text × Text} (h : readGroup t = some g) :
    g.1 ≠ [] := by
  have hextend : ∀ (lead : Text) (members : List Text), extendFirst lead members ≠ [] := by
    intro lead members
    cases members <;> exact List.cons_ne_nil _ _
  fun_induction readGroup t generalizing g with
  | case1 => exact absurd h.symm (Option.some_ne_none _)
  | case2 => exact absurd h.symm (Option.some_ne_none _)
  | case3 d ds ih =>
      obtain ⟨g', -, rfl⟩ := Option.map_eq_some_iff.mp h
      exact hextend _ _
  | case4 cs _ ih =>
      obtain ⟨g', -, rfl⟩ := Option.map_eq_some_iff.mp h
      exact List.cons_ne_nil _ _
  | case5 =>
      cases h
      exact List.cons_ne_nil _ _
  | case6 => exact absurd h.symm (Option.some_ne_none _)
  | case7 c cs _ _ _ _ ih =>
      obtain ⟨g', -, rfl⟩ := Option.map_eq_some_iff.mp h
      exact hextend _ _

/-- Every group has a member. -/
theorem ne_nil_of_mem_groups {t : Text} :
    ∀ members ∈ (Template.ofText t).groups, members ≠ [] := by
  refine Template.ofText_induction (P := fun t => ∀ members ∈ t.groups, members ≠ [])
    (List.forall_mem_nil _) (fun _ ih => ?_) (fun hread ih => ?_) t
  · rwa [Template.groups_extend]
  · exact List.forall_mem_cons.mpr ⟨ne_nil_of_readGroup hread, ih⟩

theorem meanings_ne_nil {p : Pair} (h : ¬ p.Fails) : p.meanings ≠ [] := by
  by_cases hgroups : (Template.ofText p.binding).groups = []
  · rw [Pair.meanings, if_pos hgroups]
    exact List.cons_ne_nil _ _
  · obtain ⟨hlength, heven, -⟩ := (not_fails_iff hgroups).mp h
    obtain ⟨hbs, -⟩ := zipWith_zip_sides hlength heven
    -- A group has a member, and a member has an alternative, so that there is a choice.
    have halternatives : ∀ cells ∈ groupAlternatives p, cells ≠ [] := by
      rw [groupAlternatives_eq]
      intro cells hcells hnil
      obtain ⟨row, hrow, rfl⟩ := List.mem_map.mp hcells
      have hmembers : row.map Prod.fst ∈ (Template.ofText p.binding).groups := by
        rw [← hbs]
        exact List.mem_map_of_mem hrow
      obtain ⟨cell, hcell⟩ := List.exists_mem_of_ne_nil row
        (mt List.map_eq_nil_iff.mpr (ne_nil_of_mem_groups _ hmembers))
      exact alternatives_ne_nil cell (List.flatMap_eq_nil_iff.mp hnil cell hcell)
    obtain ⟨chosen, hchosen⟩ := List.exists_mem_of_ne_nil _ (selections_ne_nil halternatives)
    rw [Pair.meanings, if_neg hgroups]
    exact List.ne_nil_of_mem (mem_assigned.mpr ⟨chosen, mem_selections.mp hchosen, rfl⟩)

/-- A pair that can be expanded stands for some pair. -/
theorem expand_ne_nil {p : Pair} {pairs : List Pair} (h : expand p = .ok pairs) : pairs ≠ [] := by
  rw [expand_eq_firsts h, Ne, firsts_eq_nil_iff]
  exact meanings_ne_nil (exists_expand_iff.mp ⟨pairs, h⟩)

end Hotkeys.Config
