import Mathlib.Data.List.Forall2
import Hotkeys.Proofs.Config.Alternatives

/-!
# Candidates

What the ranges of a pair make of its groups.  A candidate is looked at as rows of cells, one row
for each group.  Resolving the ranges of a row selects an alternative for each of its cells
(`exists_resolve_row`), and so for all rows (`exists_resolve_rows`); the choices of indices then
select one cell from each row (`map_choices`).
-/

set_option autoImplicit false

namespace Hotkeys.Config

/-- Where a computation succeeds, its first part does. -/
theorem exists_of_bind_eq_ok {ε α β : Type} {x : Except ε α} {f : α → Except ε β} {b : β}
    (h : x >>= f = .ok b) : ∃ a, x = .ok a ∧ f a = .ok b := by
  cases x with
  | error e => cases h
  | ok a => exact ⟨a, rfl, h⟩

/-! ## Rows of cells -/

/-- The candidate with the given cells, a row for each group. -/
def Candidate.ofRows (rows : List (List Cell)) : Candidate :=
  { binding := rows.map (List.map Prod.fst), command := rows.map (List.map Prod.snd) }

/-- A list with an element between others. -/
theorem replaceMember_append (above below : List (List Text)) (left right : List Text)
    (member value : Text) :
    replaceMember (above ++ (left ++ member :: right) :: below) above.length left.length value =
      above ++ (left ++ value :: right) :: below := by
  have hset : (left ++ member :: right).set left.length value = left ++ value :: right := by
    rw [List.set_append_right _ _ (Nat.le_refl _), Nat.sub_self, List.set_cons_zero]
  induction above with
  | nil => exact congrArg (· :: below) hset
  | cons row above ih => exact congrArg (row :: ·) ih

/-- A range changes the cell at its place. -/
theorem Range.assign_ofRows {above below : List (List Cell)} {left right : List Cell} {r : Range}
    (hgroup : r.group = above.length) (hmember : r.member = left.length) (cell : Cell) (i : Nat) :
    r.assign (.ofRows (above ++ (left ++ cell :: right) :: below)) i =
      .ofRows (above ++
        (left ++ ([charAfter r.first i], (r.command.value? i).getD cell.2) :: right) :: below) := by
  have hbinding := replaceMember_append (above.map (List.map Prod.fst))
    (below.map (List.map Prod.fst)) (left.map Prod.fst) (right.map Prod.fst) cell.1
    [charAfter r.first i]
  rw [List.length_map, List.length_map, ← hgroup, ← hmember] at hbinding
  simp only [assign, Candidate.ofRows, List.map_append, List.map_cons, hbinding]
  cases r.command.value? i with
  | none => rfl
  | some value =>
      have hcommand := replaceMember_append (above.map (List.map Prod.snd))
        (below.map (List.map Prod.snd)) (left.map Prod.snd) (right.map Prod.snd) cell.2 value
      rw [List.length_map, List.length_map, ← hgroup, ← hmember] at hcommand
      simp only [hcommand, Option.getD_some]

/-! ## Selections -/

/-- Every list of one element from each of the given lists, those of the first list varying
slowest. -/
def selections {α : Type} : List (List α) → List (List α)
  | [] => [[]]
  | l :: ls => l.flatMap fun a => (selections ls).map fun as => a :: as

theorem mem_selections {α : Type} {ls : List (List α)} {as : List α} :
    as ∈ selections ls ↔ List.Forall₂ (· ∈ ·) as ls := by
  induction ls generalizing as with
  | nil => rw [selections, List.mem_singleton, List.forall₂_nil_right_iff]
  | cons l ls ih =>
      simp only [selections, List.mem_flatMap, List.mem_map, ih, List.forall₂_cons_right_iff]
      constructor
      · rintro ⟨a, ha, as, has, rfl⟩
        exact ⟨a, as, ha, has, rfl⟩
      · rintro ⟨a, as, ha, has, rfl⟩
        exact ⟨a, ha, as, has, rfl⟩

theorem selections_ne_nil {α : Type} {ls : List (List α)} (h : ∀ l ∈ ls, l ≠ []) :
    selections ls ≠ [] := by
  induction ls with
  | nil => exact List.cons_ne_nil _ _
  | cons l ls ih =>
      obtain ⟨hl, hls⟩ := List.forall_mem_cons.mp h
      obtain ⟨a, l, rfl⟩ := List.exists_cons_of_ne_nil hl
      rw [selections, List.flatMap_cons]
      exact List.append_ne_nil_of_left_ne_nil (mt List.map_eq_nil_iff.mp (ih hls)) _

/-- Elements may be replaced before or after the selection. -/
theorem selections_map {α β : Type} (f : α → β) (ls : List (List α)) :
    selections (ls.map (List.map f)) = (selections ls).map (List.map f) := by
  induction ls with
  | nil => rfl
  | cons l ls ih =>
      rw [List.map_cons, selections, selections, ih, List.flatMap_map, List.map_flatMap]
      refine List.flatMap_congr fun a _ => ?_
      rw [List.map_map, List.map_map]
      rfl

/-! ## Resolving ranges -/

theorem resolve_append (before after : List Range) (c : Candidate) :
    resolve (before ++ after) c = (resolve before c).flatMap (resolve after) := by
  induction before generalizing c with
  | nil => exact (List.flatMap_singleton (resolve after) c).symm
  | cons r before ih =>
      rw [List.cons_append, resolve, resolve, List.flatMap_assoc]
      exact List.flatMap_congr fun i _ => ih (r.assign c i)

/-- The range at a place, if there is one, puts other cells there, which contribute the
alternatives of the cell. -/
theorem exists_resolve_cell {group member : Nat} {cell : Cell} {found : Option Range}
    (h : rangeAt group member cell.1 cell.2 = .ok found) :
    ∃ cells : List Cell, cells.map Cell.value = alternatives cell ∧
      ∀ (above below : List (List Cell)) (left right : List Cell), above.length = group →
        left.length = member →
        resolve found.toList (.ofRows (above ++ (left ++ cell :: right) :: below)) =
          cells.map fun x => .ofRows (above ++ (left ++ x :: right) :: below) := by
  obtain ⟨b, c⟩ := cell
  rw [rangeAt] at h
  split at h
  case h_1 hb =>
    cases h
    refine ⟨[(b, c)], ?_, fun above below left right _ _ => rfl⟩
    rw [alternatives, hb]
    rfl
  case h_2 low high hb =>
    split at h
    case isTrue => cases h
    case isFalse hascends =>
      obtain ⟨range, hcommand, hfound⟩ := exists_of_bind_eq_ok h
      cases hfound
      refine ⟨(List.range (high.toNat - low.toNat + 1)).map fun i =>
        ([charAfter low i], (range.value? i).getD c), ?_,
        fun above below left right habove hleft => ?_⟩
      · rw [List.map_map]
        exact map_value_steps hb hcommand (Char.not_le.mp hascends)
      · rw [Option.toList_some, resolve, List.map_map, List.map_eq_flatMap]
        refine List.flatMap_congr fun i _ => ?_
        rw [resolve, Range.assign_ofRows habove.symm hleft.symm]
        rfl

theorem groupRanges_cons {group member : Nat} {cell : Cell} {row : List Cell} {ranges : List Range}
    (h : groupRanges group member ((cell :: row).map Prod.fst) ((cell :: row).map Prod.snd) =
      .ok ranges) :
    ∃ here rest, rangeAt group member cell.1 cell.2 = .ok here ∧
      groupRanges group (member + 1) (row.map Prod.fst) (row.map Prod.snd) = .ok rest ∧
        ranges = here.toList ++ rest := by
  obtain ⟨here, hhere, hbelow⟩ := exists_of_bind_eq_ok h
  obtain ⟨rest, hrest, hranges⟩ := exists_of_bind_eq_ok hbelow
  cases hranges
  exact ⟨here, rest, hhere, hrest, rfl⟩

/-- The ranges of a row select one of its cells' alternatives for each of them.  The induction is on
the cells from some member on; those to the left are resolved already. -/
theorem exists_resolve_row {group member : Nat} {row : List Cell} {ranges : List Range}
    (h : groupRanges group member (row.map Prod.fst) (row.map Prod.snd) = .ok ranges) :
    ∃ cells : List (List Cell), cells.map (List.map Cell.value) = row.map alternatives ∧
      ∀ (above below : List (List Cell)) (left : List Cell), above.length = group →
        left.length = member →
        resolve ranges (.ofRows (above ++ (left ++ row) :: below)) =
          (selections cells).map fun row' => .ofRows (above ++ (left ++ row') :: below) := by
  induction row generalizing member ranges with
  | nil =>
      cases h
      exact ⟨[], rfl, fun above below left _ _ => rfl⟩
  | cons cell row ih =>
      obtain ⟨here, rest, hhere, hrest, rfl⟩ := groupRanges_cons h
      obtain ⟨first, hvalues, hfirst⟩ := exists_resolve_cell hhere
      obtain ⟨cells, hcells, hresolve⟩ := ih hrest
      refine ⟨first :: cells, ?_, fun above below left habove hleft => ?_⟩
      · rw [List.map_cons, List.map_cons, hvalues, hcells]
      · rw [resolve_append, hfirst above below left row habove hleft, List.flatMap_map, selections,
          List.map_flatMap]
        refine List.flatMap_congr fun x _ => ?_
        -- Whatever the first cell is resolved to joins those to the left.
        have hnext := hresolve above below (left ++ [x]) habove
          (by rw [List.length_append, hleft, List.length_singleton])
        simp only [List.append_assoc, List.singleton_append] at hnext
        rw [hnext, List.map_map]
        rfl

theorem rangesFrom_cons {group : Nat} {row : List Cell} {rows : List (List Cell)}
    {ranges : List Range}
    (h : rangesFrom group ((row :: rows).map (List.map Prod.fst))
      ((row :: rows).map (List.map Prod.snd)) = .ok ranges) :
    ∃ here rest, groupRanges group 0 (row.map Prod.fst) (row.map Prod.snd) = .ok here ∧
      rangesFrom (group + 1) (rows.map (List.map Prod.fst)) (rows.map (List.map Prod.snd)) =
        .ok rest ∧ ranges = here ++ rest := by
  obtain ⟨here, hhere, hbelow⟩ := exists_of_bind_eq_ok h
  obtain ⟨rest, hrest, hranges⟩ := exists_of_bind_eq_ok hbelow
  cases hranges
  exact ⟨here, rest, hhere, hrest, rfl⟩

/-- All ranges together select an alternative for each cell of each row. -/
theorem exists_resolve_rows {group : Nat} {rows : List (List Cell)} {ranges : List Range}
    (h : rangesFrom group (rows.map (List.map Prod.fst)) (rows.map (List.map Prod.snd)) =
      .ok ranges) :
    ∃ resolved : List (List (List Cell)),
      resolved.map (List.map (List.map Cell.value)) =
        rows.map (fun row => selections (row.map alternatives)) ∧
      ∀ above : List (List Cell), above.length = group →
        resolve ranges (.ofRows (above ++ rows)) =
          (selections resolved).map fun rows' => .ofRows (above ++ rows') := by
  induction rows generalizing group ranges with
  | nil =>
      cases h
      exact ⟨[], rfl, fun above _ => rfl⟩
  | cons row rows ih =>
      obtain ⟨here, rest, hhere, hrest, rfl⟩ := rangesFrom_cons h
      obtain ⟨cells, hcells, hrow⟩ := exists_resolve_row hhere
      obtain ⟨resolved, hvalues, hresolve⟩ := ih hrest
      refine ⟨selections cells :: resolved, ?_, fun above habove => ?_⟩
      · rw [List.map_cons, List.map_cons, hvalues, ← selections_map, hcells]
      · have hfirst := hrow above rows [] habove rfl
        simp only [List.nil_append] at hfirst
        rw [resolve_append, hfirst, List.flatMap_map, selections, List.map_flatMap]
        refine List.flatMap_congr fun row' _ => ?_
        have hnext := hresolve (above ++ [row'])
          (by rw [List.length_append, habove, List.length_singleton])
        simp only [List.append_assoc, List.singleton_append] at hnext
        rw [hnext, List.map_map]
        rfl

/-! ## Choices -/

theorem flatMap_range_getElem? {α β : Type} (l : List α) (f : Option α → List β) :
    ((List.range l.length).flatMap fun k => f l[k]?) = l.flatMap fun a => f (some a) := by
  induction l with
  | nil => rfl
  | cons a l ih =>
      rw [List.length_cons, List.range_succ_eq_map, List.flatMap_cons, List.flatMap_map,
        List.flatMap_cons, ← ih]
      rfl

/-- The choices of indices pick the selections of one cell from each row, the two members of a cell
side by side. -/
theorem map_choices {α : Type} (rows : List (List Cell)) (f : List Text → List Text → α) :
    ((choices (rows.map List.length)).map fun choice =>
      f (pick (rows.map (List.map Prod.fst)) choice) (pick (rows.map (List.map Prod.snd)) choice)) =
      (selections rows).map fun picked =>
        f (picked.map fun cell => memberValue cell.1)
          (picked.map fun cell => memberValue cell.2) := by
  induction rows generalizing f with
  | nil => rfl
  | cons row rows ih =>
      have hpick : ∀ (g : Cell → Text) (k : Nat) (ks : List Nat),
          pick ((row :: rows).map (List.map g)) (k :: ks) =
            memberValue ((row[k]?.map g).getD []) :: pick (rows.map (List.map g)) ks := by
        intro g k ks
        rw [List.map_cons, pick, List.zipWith_cons_cons, List.getElem?_map]
        rfl
      -- What the other rows make of a cell of the first one.
      let rest : Option Cell → List α := fun cell =>
        (selections rows).map fun picked =>
          f (memberValue ((cell.map Prod.fst).getD []) :: picked.map fun cell => memberValue cell.1)
            (memberValue ((cell.map Prod.snd).getD []) :: picked.map fun cell => memberValue cell.2)
      have hchoices : choices ((row :: rows).map List.length) =
          (List.range row.length).flatMap fun k =>
            (choices (rows.map List.length)).map fun ks => k :: ks := rfl
      rw [hchoices, List.map_flatMap, selections, List.map_flatMap]
      refine Eq.trans ?_ ((flatMap_range_getElem? row rest).trans ?_)
      · refine List.flatMap_congr fun k _ => ?_
        rw [List.map_map]
        simp only [Function.comp_def, hpick]
        exact ih fun bs cs => f (memberValue ((row[k]?.map Prod.fst).getD []) :: bs)
          (memberValue ((row[k]?.map Prod.snd).getD []) :: cs)
      · refine List.flatMap_congr fun cell _ => ?_
        rw [List.map_map]
        rfl

end Hotkeys.Config
