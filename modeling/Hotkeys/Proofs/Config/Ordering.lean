import Hotkeys.Proofs.Config.Firsts
import Mathlib.Data.List.Lex
import Mathlib.Data.Prod.Lex
import Mathlib.Order.Bounds.Basic

/-!
# The order of an expansion

An expansion is told by numbers.  A choice gives a step for every range, group by group and member
by member, and a place for every group; choices come in lexicographic order, the steps before the
places (`Choice.lt_iff`).  All choices there are, in this order, make the pairs of an expansion
before repeated chords are left out (`Pair.assigned_eq_map`), so that of the choices for a chord the
least one counts (`mem_firsts_map_iff`).

Main statement: `expand_in_order`.
-/

set_option autoImplicit false

namespace Hotkeys.Config

/-! ## Choices -/

/-- A step for every range of a pair and a place for every group. -/
structure Choice where
  /-- The steps, in the order of the ranges. -/
  steps : List Nat
  /-- The places, in the order of the groups. -/
  places : List Nat
  deriving DecidableEq, Repr

namespace Choice

/-- What choices are compared by. -/
def key (c : Choice) : List Nat ×ₗ List Nat :=
  toLex (c.steps, c.places)

theorem key_injective : Function.Injective key := by
  rintro ⟨steps, places⟩ ⟨steps', places'⟩ h
  cases h
  rfl

instance : LinearOrder Choice :=
  LinearOrder.lift' key key_injective

theorem lt_iff {c d : Choice} :
    c < d ↔ c.steps < d.steps ∨ c.steps = d.steps ∧ c.places < d.places :=
  Prod.Lex.toLex_lt_toLex

end Choice

/-- The choices of an index below each size come in lexicographic order. -/
theorem choices_pairwise (sizes : List Nat) : (choices sizes).Pairwise (· < ·) := by
  induction sizes with
  | nil => exact List.pairwise_singleton _ _
  | cons n ns ih =>
      refine List.pairwise_flatMap.mpr ⟨fun k _ => ?_, ?_⟩
      · refine List.pairwise_map.mpr (ih.imp fun h => ?_)
        exact List.cons_lt_cons_iff.mpr (.inr ⟨rfl, h⟩)
      · refine List.pairwise_lt_range.imp fun hlt ks hks ks' hks' => ?_
        obtain ⟨rest, -, rfl⟩ := List.mem_map.mp hks
        obtain ⟨rest', -, rfl⟩ := List.mem_map.mp hks'
        exact List.cons_lt_cons_iff.mpr (.inl hlt)

theorem choices_eq_selections (sizes : List Nat) :
    choices sizes = selections (sizes.map List.range) := by
  induction sizes with
  | nil => rfl
  | cons n ns ih => rw [choices, List.map_cons, selections, ih]

theorem mem_choices {sizes indices : List Nat} :
    indices ∈ choices sizes ↔ List.Forall₂ (· < ·) indices sizes := by
  rw [choices_eq_selections, mem_selections, List.forall₂_map_right_iff]
  simp only [List.mem_range]

theorem choices_append (sizes more : List Nat) :
    choices (sizes ++ more) =
      (choices sizes).flatMap fun ks => (choices more).map fun ls => ks ++ ls := by
  induction sizes with
  | nil => simp [choices]
  | cons n ns ih =>
      rw [List.cons_append, choices, choices, ih, List.flatMap_assoc]
      refine List.flatMap_congr fun k _ => ?_
      rw [List.map_flatMap, List.flatMap_map]
      refine List.flatMap_congr fun ks _ => ?_
      rw [List.map_map]
      rfl

/-! ## What a choice chooses -/

/-- The number of steps of each range in a row of cells. -/
def stepCounts (row : List Cell) : List Nat :=
  row.filterMap fun cell => (rangeEnds? cell.1).map fun (low, high) => high.toNat - low.toNat + 1

/-- The cells of a row when its ranges stand at the given steps. -/
def atSteps : (row : List Cell) → (steps : List Nat) → List Cell
  | [], _ => []
  | cell :: row, steps =>
    match rangeEnds? cell.1 with
    | none => cell.value :: atSteps row steps
    | some (low, _) =>
      ([charAfter low (steps.headD 0)], counted cell.2 (steps.headD 0)) :: atSteps row steps.tail

/-- The cells of rows when their ranges stand at the given steps, the ranges of the first row at the
first ones. -/
def rowsAtSteps : (rows : List (List Cell)) → (steps : List Nat) → List (List Cell)
  | [], _ => []
  | row :: rows, steps =>
    atSteps row steps :: rowsAtSteps rows (steps.drop (stepCounts row).length)

/-- The cells at the given places, one in each row. -/
def cellsAt (rows : List (List Cell)) (places : List Nat) : List Cell :=
  List.zipWith (fun row k => (row[k]?).getD ([], [])) rows places

namespace Pair

/-- Whether a choice is one for a pair: it has a step for each of its ranges and a place for each of
its groups, and no others. -/
structure Admits (p : Pair) (c : Choice) : Prop where
  /-- Each range has the step. -/
  steps : List.Forall₂ (· < ·) c.steps (stepCounts p.rows.flatten)
  /-- Each group has the place. -/
  places : List.Forall₂ (· < ·) c.places (p.rows.map List.length)

/-- What a choice makes of a pair. -/
def choicePair (p : Pair) (c : Choice) : Pair :=
  chosenPair p (cellsAt (rowsAtSteps p.rows c.steps) c.places)

/-- All choices for a pair, in order. -/
def allChoices (p : Pair) : List Choice :=
  (choices (stepCounts p.rows.flatten)).flatMap fun steps =>
    (choices (p.rows.map List.length)).map fun places => ⟨steps, places⟩

theorem mem_allChoices {p : Pair} {c : Choice} : c ∈ p.allChoices ↔ p.Admits c := by
  simp only [allChoices, List.mem_flatMap, List.mem_map, mem_choices]
  constructor
  · rintro ⟨steps, hsteps, places, hplaces, rfl⟩
    exact ⟨hsteps, hplaces⟩
  · rintro ⟨hsteps, hplaces⟩
    exact ⟨c.steps, hsteps, c.places, hplaces, rfl⟩

theorem allChoices_pairwise (p : Pair) : p.allChoices.Pairwise (· < ·) := by
  refine List.pairwise_flatMap.mpr ⟨fun steps _ => ?_, ?_⟩
  · refine List.pairwise_map.mpr ((choices_pairwise _).imp fun h => ?_)
    exact Choice.lt_iff.mpr (.inr ⟨rfl, h⟩)
  · refine (choices_pairwise _).imp fun hlt c hc d hd => ?_
    obtain ⟨_, -, rfl⟩ := List.mem_map.mp hc
    obtain ⟨_, -, rfl⟩ := List.mem_map.mp hd
    exact Choice.lt_iff.mpr (.inl hlt)

end Pair

/-! ## Alternatives by number -/

section Cells

variable {cell : Cell} {low high : Char}

theorem stepCounts_cons_none (h : rangeEnds? cell.1 = none) (row : List Cell) :
    stepCounts (cell :: row) = stepCounts row :=
  List.filterMap_cons_none (by rw [h]; rfl)

theorem stepCounts_cons_some (h : rangeEnds? cell.1 = some (low, high)) (row : List Cell) :
    stepCounts (cell :: row) = (high.toNat - low.toNat + 1) :: stepCounts row :=
  List.filterMap_cons_some (by rw [h]; rfl)

theorem atSteps_cons_none (h : rangeEnds? cell.1 = none) (row : List Cell) (steps : List Nat) :
    atSteps (cell :: row) steps = cell.value :: atSteps row steps := by
  rw [atSteps, h]

theorem atSteps_cons_some (h : rangeEnds? cell.1 = some (low, high)) (row : List Cell) (k : Nat)
    (steps : List Nat) :
    atSteps (cell :: row) (k :: steps) =
      ([charAfter low k], counted cell.2 k) :: atSteps row steps := by
  rw [atSteps, h]
  rfl

end Cells

/-- The selections of alternatives for a row are those of steps for its ranges: a cell that is no
range has one alternative. -/
theorem selections_alternatives (row : List Cell) :
    selections (row.map alternatives) = (choices (stepCounts row)).map (atSteps row) := by
  induction row with
  | nil => rfl
  | cons cell row ih =>
      rw [List.map_cons, selections, ih, alternatives]
      cases hends : rangeEnds? cell.1 with
      | none =>
          rw [stepCounts_cons_none hends]
          simp only [List.flatMap_singleton, List.map_map]
          refine List.map_congr_left fun steps _ => ?_
          exact (atSteps_cons_none hends row steps).symm
      | some ends =>
          rw [stepCounts_cons_some hends, choices]
          simp only [List.flatMap_map, List.map_flatMap, List.map_map]
          refine List.flatMap_congr fun k _ => List.map_congr_left fun steps _ => ?_
          exact (atSteps_cons_some hends row k steps).symm

theorem length_atSteps (row : List Cell) (steps : List Nat) :
    (atSteps row steps).length = row.length := by
  fun_induction atSteps row steps with
  | case1 => rfl
  | case2 cell row steps _ ih => rw [List.length_cons, ih, List.length_cons]
  | case3 cell row steps low high _ ih => rw [List.length_cons, ih, List.length_cons]

/-- A row does not look at more steps than it has ranges. -/
theorem atSteps_append {row : List Cell} {steps : List Nat}
    (h : steps.length = (stepCounts row).length) (more : List Nat) :
    atSteps row (steps ++ more) = atSteps row steps := by
  induction row generalizing steps with
  | nil => rfl
  | cons cell row ih =>
      cases hends : rangeEnds? cell.1 with
      | none =>
          rw [stepCounts_cons_none hends] at h
          rw [atSteps_cons_none hends, atSteps_cons_none hends, ih h]
      | some ends =>
          rw [stepCounts_cons_some hends, List.length_cons] at h
          obtain ⟨k, ks, rfl⟩ := List.exists_cons_of_length_eq_add_one h
          rw [List.cons_append, atSteps_cons_some hends, atSteps_cons_some hends,
            ih (Nat.succ.inj h)]

/-- The steps of all rows are those of the first row and those of the others. -/
theorem selections_selections (rows : List (List Cell)) :
    selections (rows.map fun row => selections (row.map alternatives)) =
      (choices (stepCounts rows.flatten)).map (rowsAtSteps rows) := by
  induction rows with
  | nil => rfl
  | cons row rows ih =>
      have hcounts : stepCounts (row :: rows).flatten =
          stepCounts row ++ stepCounts rows.flatten := List.filterMap_append
      rw [List.map_cons, selections, ih, selections_alternatives, hcounts, choices_append,
        List.flatMap_map, List.map_flatMap]
      refine List.flatMap_congr fun steps hsteps => ?_
      have hlength := (mem_choices.mp hsteps).length_eq
      rw [List.map_map, List.map_map]
      refine List.map_congr_left fun more _ => ?_
      rw [Function.comp_apply, Function.comp_apply, rowsAtSteps, atSteps_append hlength, ← hlength,
        List.drop_left]

theorem length_rowsAtSteps (rows : List (List Cell)) (steps : List Nat) :
    (rowsAtSteps rows steps).map List.length = rows.map List.length := by
  induction rows generalizing steps with
  | nil => rfl
  | cons row rows ih => rw [rowsAtSteps, List.map_cons, ih, length_atSteps, List.map_cons]

/-- The selections from rows are those of places in them. -/
theorem selections_eq_map (rows : List (List Cell)) :
    selections rows = (choices (rows.map List.length)).map (cellsAt rows) := by
  induction rows with
  | nil => rfl
  | cons row rows ih =>
      have hplaces := flatMap_range_getElem? row fun cell =>
        (selections rows).map fun cells => cell.getD ([], []) :: cells
      simp only [Option.getD_some] at hplaces
      rw [selections, ← hplaces, List.map_cons, choices, List.map_flatMap, ih]
      refine List.flatMap_congr fun k _ => ?_
      rw [List.map_map, List.map_map]
      rfl

/-- The pairs that a pair stands for, told by choices. -/
theorem Pair.assigned_eq_map (p : Pair) : p.assigned = p.allChoices.map p.choicePair := by
  rw [assigned, allChoices, selections_selections, List.flatMap_map, List.map_flatMap]
  refine List.flatMap_congr fun steps _ => ?_
  rw [selections_eq_map, length_rowsAtSteps, List.map_map, List.map_map]
  rfl

/-! ## Least choices -/

/-- Of elements that are made in order, those stay whose origin is the least for their key. -/
theorem mem_firsts_map_iff {α β : Type} [LinearOrder β] (key : α → Text) (f : β → α) {l : List β}
    (hl : l.Pairwise (· < ·)) {a : α} :
    a ∈ firsts key (l.map f) ↔ ∃ b, IsLeast {c | c ∈ l ∧ key (f c) = key a} b ∧ a = f b := by
  induction l with
  | nil =>
      refine iff_of_false List.not_mem_nil ?_
      rintro ⟨b, hb, -⟩
      exact List.not_mem_nil hb.1.1
  | cons b bs ih =>
      obtain ⟨hfirst, hbs⟩ := List.pairwise_cons.mp hl
      rw [List.map_cons, firsts_cons, List.mem_cons, List.mem_filter, bne_iff_ne, ih hbs]
      constructor
      · rintro (rfl | ⟨⟨c, ⟨⟨hc, hkey⟩, hleast⟩, rfl⟩, hother⟩)
        · refine ⟨b, ⟨⟨List.mem_cons_self, rfl⟩, ?_⟩, rfl⟩
          rintro c ⟨hc, -⟩
          rcases List.mem_cons.mp hc with rfl | hc
          · exact le_refl _
          · exact (hfirst c hc).le
        · refine ⟨c, ⟨⟨List.mem_cons_of_mem b hc, hkey⟩, ?_⟩, rfl⟩
          rintro d ⟨hd, hsame⟩
          rcases List.mem_cons.mp hd with rfl | hd
          · exact absurd hsame.symm hother
          · exact hleast ⟨hd, hsame⟩
      · rintro ⟨c, ⟨⟨hc, hkey⟩, hleast⟩, rfl⟩
        rcases List.mem_cons.mp hc with rfl | hc
        · exact .inl rfl
        · refine .inr ⟨⟨c, ⟨⟨hc, hkey⟩, ?_⟩, rfl⟩, fun hsame => ?_⟩
          · exact fun d hd => hleast ⟨List.mem_cons_of_mem b hd.1, hd.2⟩
          -- The first element would be before the least one.
          · exact absurd (hleast ⟨List.mem_cons_self, hsame.symm⟩) (not_le_of_gt (hfirst c hc))

/-! ## Main statement -/

/-- A pair with groups is expanded to what its choices make of it, in the order of the choices, and
of those for one chord the first.  So a pair is in the expansion just when the least of all choices
for its chord makes it. -/
theorem expand_in_order (p : Pair) (pairs : List Pair)
    (hgroups : (Template.ofText p.binding).groups ≠ []) (h : expand p = .ok pairs) :
    ∃ cs : List Choice, (∀ c, c ∈ cs ↔ p.Admits c) ∧ cs.Pairwise (· < ·) ∧
      pairs = (cs.map p.choicePair).eraseDupsBy
        (fun q r => normalText q.binding == normalText r.binding) ∧
      ∀ q, q ∈ pairs ↔
        ∃ c, IsLeast {d | p.Admits d ∧
          normalText (p.choicePair d).binding = normalText q.binding} c ∧ q = p.choicePair c := by
  have hpairs : pairs = firsts (fun q => normalText q.binding) (p.allChoices.map p.choicePair) := by
    rw [expand_eq_firsts h, Pair.meanings, if_neg hgroups, p.assigned_eq_map]
  refine ⟨p.allChoices, fun c => Pair.mem_allChoices, p.allChoices_pairwise, ?_, fun q => ?_⟩
  · rw [hpairs, firsts_eq_eraseDupsBy]
  · rw [hpairs, mem_firsts_map_iff _ _ p.allChoices_pairwise]
    simp only [Pair.mem_allChoices]

/-- A range in either group, and a capital that is the same chord as the first step of the second
range: the command of the range is kept, since its group member comes first. -/
theorem expand_in_order_of_ranges :
    let p : Pair :=
      { binding := "\x7b1-2,x\x7d+\x7ba-b,A\x7d".toList
        command := "\x7b5-6,_\x7d \x7bc-d,u\x7d".toList
        line := 4 }
    let pairs : List Pair :=
      [⟨"1+a".toList, "5 c".toList, 4⟩, ⟨"x+a".toList, " c".toList, 4⟩,
        ⟨"1+b".toList, "5 d".toList, 4⟩, ⟨"x+b".toList, " d".toList, 4⟩,
        ⟨"2+a".toList, "6 c".toList, 4⟩, ⟨"2+b".toList, "6 d".toList, 4⟩]
    (Template.ofText p.binding).groups ≠ [] ∧ expand p = .ok pairs ∧
      ∃ cs : List Choice, (∀ c, c ∈ cs ↔ p.Admits c) ∧ cs.Pairwise (· < ·) ∧
        pairs = (cs.map p.choicePair).eraseDupsBy
          (fun q r => normalText q.binding == normalText r.binding) ∧
        ∀ q, q ∈ pairs ↔
          ∃ c, IsLeast {d | p.Admits d ∧
            normalText (p.choicePair d).binding = normalText q.binding} c ∧ q = p.choicePair c :=
  ⟨by decide +kernel, ok_of_toOption (by decide +kernel),
    expand_in_order _ _ (by decide +kernel) (ok_of_toOption (by decide +kernel))⟩

end Hotkeys.Config
